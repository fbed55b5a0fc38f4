import IdpMvp.Domain.Deploy

/-!
# Ciphertexts, one-time codes and published keys

What the source adds to the libraries of a deployment: the text of a ciphertext (`domain/crypto.rs`), the
parameters of a TOTP (`totp_registration.rs`) and the published form of a public key (`domain/jwt.rs`).
-/

namespace IdpMvp

/-! ## `domain/crypto.rs` -/

/-- `GCM_NONCE_LEN`. -/
def gcmNonceLen : Nat := 12

/-- `crypto::encrypt` with its random nonce. -/
def Deploy.encrypt (D : Deploy) (nonce plaintext : Bytes) : Except String String :=
  match D.gcmEncrypt nonce plaintext with
  | some ciphertext => .ok (D.base64.encode (nonce ++ ciphertext))
  | none => .error "AES-GCM encryption failed"

/-- `crypto::decrypt`. -/
def Deploy.decrypt (D : Deploy) (encoded : String) : Except String Bytes :=
  match D.base64.decode encoded with
  | .error e => .error ("invalid base64 ciphertext: " ++ e)
  | .ok combined =>
    if combined.length < gcmNonceLen then .error "ciphertext too short"
    else
      match D.gcmDecrypt (combined.take gcmNonceLen) (combined.drop gcmNonceLen) with
      | some plaintext => .ok plaintext
      | none => .error "AES-GCM decryption failed"

/-- What these rely on: base64 reads back what it wrote, of no bytes no text, and the cipher opens what it sealed. -/
structure Deploy.DecryptsOwn (D : Deploy) : Prop where
  base64 : D.base64.Lawful
  empty : D.base64.encode [] = ""
  opens : ∀ nonce plaintext ciphertext, D.gcmEncrypt nonce plaintext = some ciphertext →
    D.gcmDecrypt nonce ciphertext = some plaintext

section
variable {D : Deploy}

/-- Decryption undoes encryption. -/
lemma Deploy.DecryptsOwn.decrypt (own : D.DecryptsOwn) {nonce plaintext : Bytes} {encoded : String}
    (drawn : nonce.length = gcmNonceLen) (encrypted : D.encrypt nonce plaintext = .ok encoded) :
    D.decrypt encoded = .ok plaintext := by
  unfold Deploy.encrypt at encrypted
  cases made : D.gcmEncrypt nonce plaintext with
  | none =>
    rw [made] at encrypted
    cases encrypted
  | some ciphertext =>
    rw [made] at encrypted
    obtain rfl : D.base64.encode (nonce ++ ciphertext) = encoded := Except.ok.inj encrypted
    have long : ¬(nonce ++ ciphertext).length < gcmNonceLen := by
      rw [List.length_append, drawn]
      omega
    simp only [Deploy.decrypt, own.base64.decode_encode, if_neg long, List.take_left' drawn, List.drop_left' drawn,
      own.opens _ _ _ made]

/-- No text at all is too short to hold a nonce. -/
lemma Deploy.DecryptsOwn.rejects_empty (own : D.DecryptsOwn) (plaintext : Bytes) : D.decrypt "" ≠ .ok plaintext := by
  have nothing : D.base64.decode "" = .ok [] := own.empty ▸ own.base64.decode_encode []
  simp only [Deploy.decrypt, nothing]
  rintro ⟨⟩

end

/-! ## `totp_registration.rs` -/

/-- `TOTP_DIGITS`, `TOTP_STEP` and `TOTP_SKEW`. -/
def totpDigits : Nat := 6

def totpStep : Nat := 30

def totpSkew : Nat := 1

/-- The `TOTP::new` of both functions below. -/
def Deploy.buildTotp (D : Deploy) (secret : Bytes) (issuer : Option String) (accountName : String) : Except String Totp :=
  (D.totpNew ⟨totpDigits, totpSkew, totpStep, secret, issuer, accountName⟩).mapError ("failed to build TOTP: " ++ ·)

/-- `to_base32`. -/
def Deploy.toBase32 (D : Deploy) (bytes : Bytes) : String := D.secretToEncoded bytes

/-- `build_totp_uri`. -/
def Deploy.buildTotpUri (D : Deploy) (secret : Bytes) (accountName issuer : String) : Except String String :=
  (D.buildTotp secret (some issuer) accountName).map D.totpGetUrl

/-- `verify_totp_code` at a system time. -/
def Deploy.verifyTotpCode (D : Deploy) (now : DateTime) (secret : Bytes) (code : String) : Except String Bool := do
  let totp ← D.buildTotp secret none ""
  (D.totpCheck totp now code).mapError ("TOTP check failed: " ++ ·)

/-! ## `domain/jwt.rs` -/

/-- A key of the published set. -/
structure Jwk where
  kty : String
  use_ : String
  kid : String
  alg : String
  n : Option String
  e : Option String
  crv : Option String
  x : Option String
  y : Option String
  deriving DecidableEq, Repr

/-- `rsa_public_jwk`. -/
def Deploy.rsaPublicJwk (D : Deploy) (kid publicPem : String) : Except String Jwk := do
  let (n, e) ← (D.rsaPublicKey publicPem).mapError ("parse RSA public PEM: " ++ ·)
  return {
    kty := "RSA"
    use_ := "sig"
    kid := kid
    alg := "RS256"
    n := some (base64Url n)
    e := some (base64Url e)
    crv := none
    x := none
    y := none }

/-- `ec_public_jwk`. -/
def Deploy.ecPublicJwk (D : Deploy) (kid publicPem : String) : Except String Jwk := do
  let point ← (D.ecPublicKey publicPem).mapError ("parse EC public PEM: " ++ ·)
  let x ← point.1.elim (.error "EC point has no x coordinate") .ok
  let y ← point.2.elim (.error "EC point has no y coordinate") .ok
  return {
    kty := "EC"
    use_ := "sig"
    kid := kid
    alg := "ES256"
    n := none
    e := none
    crv := some "P-256"
    x := some (base64Url x)
    y := some (base64Url y) }

/-- `public_jwk`. -/
def Deploy.publicJwk (D : Deploy) (kid algorithm publicPem : String) : Except String Jwk :=
  match algorithm with
  | "RS256" => D.rsaPublicJwk kid publicPem
  | "ES256" => D.ecPublicJwk kid publicPem
  | other => .error ("unsupported algorithm for JWK: " ++ other)

end IdpMvp
