import IdpMvp.Sample
import IdpMvp.Service.Inspection
import IdpMvp.Store.Effects
import IdpMvp.Token.Grants
import Mathlib.Algebra.Group.Nat.Defs

/-!
# What the endpoints that read tokens check

`UserInfoService` and `IntrospectionService`, one lemma for each part: what they have checked of a token
they accept, in every execution, and, the other way round, that they accept an access token that passes
all checks when no statement fails.

What `jsonwebtoken` and `uuid` do is stated first, as far as results about tokens rely on it.
-/

namespace IdpMvp

open Program Program.Prog Program.Flow Prog

variable {D : Deploy} {s : Store} {tenantId : TenantId} {token : String}

/-! ## The libraries -/

/-- `jsonwebtoken` on access tokens: `pairs` relates a private key to its public key. A token decodes
exactly if its algorithm is admitted and the key is the other half of the signing key, and then to the
claims that were signed; nothing else is left to the library under the validation the source gives it.
The serialization is the compact one, three base64url parts with the JSON of the claims in the middle. -/
structure JwtLaws (D : Deploy) (pairs : EncodingKey → DecodingKey → Prop) : Prop where
  header : ∀ {h c k token}, D.jwtEncode h c k = .ok token → D.jwtDecodeHeader token = .ok h
  decode : ∀ {h c k token dk claims}, D.jwtEncode h (.accessToken c) k = .ok token →
    (D.jwtDecode token dk accessTokenValidation = .ok claims ↔
      h.alg ∈ accessTokenValidation.algorithms ∧ pairs k dk ∧ claims = c)
  compact : ∀ {h c k token}, D.jwtEncode h (.accessToken c) k = .ok token →
    ∃ head payload signature bytes json,
      token.toList = head ++ '.' :: payload ++ '.' :: signature ∧ '.' ∉ head ∧ '.' ∉ payload ∧
      D.base64UrlDecode (String.ofList payload) = some bytes ∧ D.jsonFromSlice bytes = some json ∧
      json.get "jti" = .str c.jti
  dotted : ∀ {token h}, D.jwtDecodeHeader token = .ok h → '.' ∈ token.toList

/-- `uuid`: the text of a UUID has 36 characters and parses to it. -/
structure UuidLaws (D : Deploy) : Prop where
  parse : ∀ u, D.parseUuid (D.uuidToString u) = some u
  length : ∀ u, (D.uuidToString u).toList.length = 36

lemma UuidLaws.injective (uuid : UuidLaws D) {u v : Uuid}
    (e : D.uuidToString u = D.uuidToString v) : u = v := by
  have parsed := uuid.parse u
  rw [e, uuid.parse v] at parsed
  exact (Option.some.inj parsed).symm

lemma UuidLaws.ne_empty (uuid : UuidLaws D) (u : Uuid) : D.uuidToString u ≠ "" := by
  intro e
  have len := uuid.length u
  rw [e] at len
  cases len

namespace Sample

lemma hexDigitsOf_length (k n : Nat) : (hexDigitsOf k n).length = k := by
  induction k generalizing n with
  | zero => rfl
  | succ k ih => simp [hexDigitsOf, ih]

lemma hexChar_ne (n : Nat) : hexChar n ≠ '-' := by
  have all : ∀ i < 16, hexDigits.getD i '0' ≠ '-' := by decide
  exact all _ (Nat.mod_lt _ (by decide))

lemma hexDigitsOf_ne {k n : Nat} {c : Char} (mem : c ∈ hexDigitsOf k n) : c ≠ '-' := by
  induction k generalizing n with
  | zero => cases mem
  | succ k ih =>
    rw [hexDigitsOf, List.mem_append, List.mem_singleton] at mem
    obtain mem | rfl := mem
    · exact ih mem
    · exact hexChar_ne n

lemma hexNumber_hexDigitsOf (k n : Nat) : hexNumber (hexDigitsOf k n) = n % 16 ^ k := by
  have value : ∀ i < 16, hexDigits.idxOf (hexDigits.getD i '0') = i := by decide
  induction k generalizing n with
  | zero => simp [hexDigitsOf, hexNumber, Nat.mod_one]
  | succ k ih =>
    have last : hexDigits.idxOf (hexChar n) = n % 16 := value _ (Nat.mod_lt _ (by decide))
    have front := ih (n / 16)
    rw [hexNumber] at front
    rw [hexDigitsOf, hexNumber, List.foldl_append, front, List.foldl_cons, List.foldl_nil, last,
      Nat.pow_succ', Nat.mod_mul]
    omega

lemma uuidToString_digits (u : Uuid) :
    (uuidToString u).toList.filter (· ≠ '-') = hexDigitsOf 32 u.bits.toNat := by
  have keep : ∀ l : List Char, (∀ c ∈ l, c ∈ hexDigitsOf 32 u.bits.toNat) →
      l.filter (· ≠ '-') = l := by
    intro l sub
    exact List.filter_eq_self.mpr fun c mem => by simpa using hexDigitsOf_ne (sub c mem)
  have blank : ∀ l : List Char, ('-' :: l).filter (· ≠ '-') = l.filter (· ≠ '-') := by
    intro l
    simp
  simp only [uuidToString, String.toList_ofList, List.filter_append, blank]
  rw [keep _ fun c mem => List.mem_of_mem_take mem,
    keep _ fun c mem => List.mem_of_mem_drop (List.mem_of_mem_take mem),
    keep _ fun c mem => List.mem_of_mem_drop (List.mem_of_mem_take mem),
    keep _ fun c mem => List.mem_of_mem_drop (List.mem_of_mem_take mem),
    keep _ fun c mem => List.mem_of_mem_drop mem]
  generalize hexDigitsOf 32 u.bits.toNat = digits
  have join : ∀ n m, (digits.drop n).take m ++ digits.drop (n + m) = digits.drop n := by
    intro n m
    rw [← List.drop_drop, List.take_append_drop]
  simp only [List.append_assoc]
  rw [join 16 4, join 12 4, join 8 4, List.take_append_drop]

lemma parseUuid_uuidToString (u : Uuid) : parseUuid (uuidToString u) = some u := by
  have same : (⟨BitVec.ofNat 128 (hexNumber ((uuidToString u).toList.filter (· ≠ '-')))⟩ : Uuid) = u := by
    rw [uuidToString_digits, hexNumber_hexDigitsOf]
    have small : u.bits.toNat < 16 ^ 32 := u.bits.isLt
    rw [Nat.mod_eq_of_lt small, BitVec.ofNat_toNat, BitVec.setWidth_eq]
  simp only [parseUuid, same, if_true]

lemma uuidToString_length (u : Uuid) : (uuidToString u).toList.length = 36 := by
  simp [uuidToString, hexDigitsOf_length]

lemma uuidLaws : UuidLaws deploy where
  parse u := by simp only [deploy, parseUuid_uuidToString]
  length u := by simp only [deploy, uuidToString_length]

/-- The sample keys belong together by their names. -/
def keyPairs (k : EncodingKey) (dk : DecodingKey) : Prop := k.material = dk.material

lemma mem_of_lookup {α β : Type} [DecidableEq α] {table : List (α × β)} {a : α} {b : β}
    (e : lookup table a = some b) : (a, b) ∈ table := by
  unfold lookup at e
  obtain ⟨entry, found, rfl⟩ := Option.map_eq_some_iff.mp e
  obtain rfl : entry.1 = a := by simpa using List.find?_some found
  exact List.mem_of_find?_eq_some found

lemma jwtTable_unique : ∀ e ∈ jwtTable, jwtTable.find? (·.2 = e.2) = some e := by decide +kernel

lemma jwtEncode_ok {h : JwtHeader} {c : JwtClaims} {k : EncodingKey} {token : String}
    (e : jwtEncode h c k = .ok token) :
    ((h, c, k), token) ∈ jwtTable ∧ jwtTable.find? (·.2 = token) = some ((h, c, k), token) := by
  have mem : ((h, c, k), token) ∈ jwtTable := by
    unfold jwtEncode at e
    generalize r : lookup jwtTable (h, c, k) = entry at e
    cases entry with
    | none => cases e
    | some t =>
      obtain rfl := Except.ok.inj e
      exact mem_of_lookup r
  exact ⟨mem, jwtTable_unique _ mem⟩

lemma jwtLaws : JwtLaws deploy keyPairs where
  header := by
    intro h c k token e
    have found := (jwtEncode_ok e).2
    simp [deploy, jwtDecodeHeader, found]
  decode := by
    intro h c k token dk claims e
    have found := (jwtEncode_ok e).2
    simp only [deploy, jwtDecode, found, keyPairs]
    split
    · simp_all
    · split
      · simp_all
      · simp_all [eq_comm]
  compact := by
    intro h c k token e
    have mem := (jwtEncode_ok e).1
    simp only [jwtTable, List.mem_cons, Prod.mk.injEq, JwtClaims.accessToken.injEq, reduceCtorEq,
      false_and, and_false, or_false, List.not_mem_nil] at mem
    obtain ⟨⟨-, rfl, -⟩, rfl⟩ | ⟨⟨-, rfl, -⟩, rfl⟩ := mem
    · exact ⟨"at-rs".toList, "claims".toList, "rsa".toList, [1], accessJson, by decide, by decide,
        by decide, by decide +kernel, rfl, rfl⟩
    · exact ⟨"at-es".toList, "claims".toList, "ec".toList, [1], accessJson, by decide, by decide,
        by decide, by decide +kernel, rfl, rfl⟩
  dotted := by
    have dots : ∀ e ∈ jwtTable, '.' ∈ e.2.toList := by decide +kernel
    intro token h e
    simp only [deploy, jwtDecodeHeader] at e
    split at e
    · rename_i found
      obtain rfl : _ = token := by simpa using List.find?_some found
      exact dots _ (List.mem_of_find?_eq_some found)
    · cases e

end Sample

/-- The two halves of an RSA signing key belong together. -/
def SigningKey.Matched (D : Deploy) (pairs : EncodingKey → DecodingKey → Prop) (key : SigningKey) :
    Prop :=
  ∀ bytes pem k, D.decrypt key.privateKeyEncrypted = .ok bytes → fromUtf8 bytes = some pem →
    D.encodingKeyFromRsaPem pem = .ok k →
      ∃ dk, D.decodingKeyFromRsaPem key.publicKey = .ok dk ∧ pairs k dk

/-! ## Signatures -/

/-- What `sign` has done: the algorithm in the header is the one of the key. -/
lemma sign_ok {pem kid typ algorithm : String} {claims : JwtClaims}
    (e : sign D pem kid typ algorithm claims = .ok token) :
    ∃ alg k, D.jwtEncode ⟨alg, some typ, some kid⟩ claims k = .ok token ∧
      ((algorithm = "RS256" ∧ alg = .rs256 ∧ D.encodingKeyFromRsaPem pem = .ok k) ∨
        (algorithm = "ES256" ∧ alg = .es256)) := by
  have encoded : ∀ {h : JwtHeader} {k : EncodingKey},
      (D.jwtEncode h claims k).mapError ("jwt encode: " ++ ·) = .ok token →
        D.jwtEncode h claims k = .ok token := by
    intro h k e
    cases r : D.jwtEncode h claims k with
    | error d => rw [r] at e; cases e
    | ok t => rw [r] at e; exact e
  unfold sign at e
  split at e
  · rename_i rs
    dsimp only at e
    split at e
    · cases e
    · rename_i k load
      exact ⟨.rs256, k, encoded e, .inl ⟨rs, rfl, load⟩⟩
  · split at e
    · rename_i es
      dsimp only at e
      split at e
      · cases e
      · rename_i k load
        exact ⟨.es256, k, encoded e, .inr ⟨es, rfl⟩⟩
    · cases e

lemma SignedBy.mem {keys : List SigningKey} {typ : String} {claims : JwtClaims} {key : SigningKey}
    (signed : SignedBy D keys typ claims token key) : key ∈ keys := by
  obtain ⟨pem, ⟨⟨now, newest⟩, -⟩, -⟩ := signed
  obtain e | mem := newer_mem newest
  · cases e
  · exact (List.mem_filter.mp mem).1

/-- The signature of an access token verifies under the stored key its header names. -/
def Verifies (D : Deploy) (keys : List SigningKey) (token : String) (claims : AccessTokenClaims) :
    Prop :=
  ∃ header kid key dk, D.jwtDecodeHeader token = .ok header ∧ header.typ = some "at+jwt" ∧
    header.kid = some kid ∧ keys.find? (fun k => D.coll k.kid = D.coll kid) = some key ∧
    decodingKeyFromPublicPem D key.publicKey = .ok dk ∧
    D.jwtDecode token dk accessTokenValidation = .ok claims

lemma decodingKeyFromPublicPem_ok {pem : String} {dk : DecodingKey} :
    decodingKeyFromPublicPem D pem = .ok dk ↔ D.decodingKeyFromRsaPem pem = .ok dk := by
  unfold decodingKeyFromPublicPem
  cases D.decodingKeyFromRsaPem pem <;> simp [Except.mapError]

section
variable {pairs : EncodingKey → DecodingKey → Prop} {keys keys' : List SigningKey}
variable {claims : AccessTokenClaims} {key : SigningKey}

lemma SignedBy.ne_empty (jwt : JwtLaws D pairs)
    (signed : SignedBy D keys "at+jwt" (.accessToken claims) token key) : token ≠ "" := by
  obtain ⟨pem, -, e⟩ := signed
  obtain ⟨alg, k, encoded, -⟩ := sign_ok e
  obtain ⟨head, payload, signature, -, -, text, -⟩ := jwt.compact encoded
  rintro rfl
  simp at text

/-- A signature verifies only to the claims that were signed, and only under an RSA key. -/
lemma SignedBy.of_verifies (jwt : JwtLaws D pairs)
    (signed : SignedBy D keys "at+jwt" (.accessToken claims) token key) {c : AccessTokenClaims}
    (v : Verifies D keys' token c) : key.algorithm = "RS256" ∧ c = claims := by
  obtain ⟨pem, -, e⟩ := signed
  obtain ⟨alg, k, encoded, alg_eq⟩ := sign_ok e
  obtain ⟨header, kid, row, dk, -, -, -, -, -, decoded⟩ := v
  obtain ⟨admitted, -, same⟩ := (jwt.decode encoded).mp decoded
  obtain ⟨rs, -, -⟩ | ⟨-, rfl⟩ := alg_eq
  · exact ⟨rs, same⟩
  · simp [accessTokenValidation] at admitted

/-- A signature by an RSA key verifies as long as the key is found. -/
lemma SignedBy.verifies (jwt : JwtLaws D pairs)
    (signed : SignedBy D keys "at+jwt" (.accessToken claims) token key)
    (rs : key.algorithm = "RS256") (matched : key.Matched D pairs) {row : SigningKey}
    (found : keys'.find? (fun k => D.coll k.kid = D.coll key.kid) = some row)
    (same : row.publicKey = key.publicKey) : Verifies D keys' token claims := by
  obtain ⟨pem, loaded, e⟩ := signed
  obtain ⟨alg, k, encoded, ⟨-, rfl, load⟩ | ⟨es, -⟩⟩ := sign_ok e
  · obtain ⟨bytes, decrypted, utf8⟩ := loaded.pem
    obtain ⟨dk, loads, half⟩ := matched bytes pem k decrypted utf8 load
    refine ⟨_, key.kid, row, dk, jwt.header encoded, rfl, rfl, found, ?_, ?_⟩
    · rwa [decodingKeyFromPublicPem_ok, same]
    · exact (jwt.decode encoded).mpr ⟨by simp [accessTokenValidation], half, rfl⟩
  · rw [rs] at es
    exact absurd es (by decide)

end

/-! ## Access tokens -/

/-- The `jti` is in the table of revoked access tokens. -/
def JtiRevoked (D : Deploy) (s : Store) (jti : String) : Prop :=
  ∃ r ∈ s.revokedAccessTokens, D.coll r.jti = D.coll jti

/-- What both verifiers have checked of an access token they accept. -/
structure AccessChecked (D : Deploy) (s : Store) (tenantId : TenantId) (token : String)
    (claims : AccessTokenClaims) : Prop where
  verifies : Verifies D s.signingKeys token claims
  iss : claims.iss = D.tenantIssuer tenantId
  aud : claims.aud = userinfoAudience (D.tenantIssuer tenantId)
  unrevoked : claims.jti = "" ∨ ¬ JtiRevoked D s claims.jti

/-- The lookup of a `jti` only reads. -/
lemma isJtiRevoked_always {jti : String} :
    always (exec D) (isJtiRevoked jti) s (fun r s' => s' = s ∧
      (r = .ok false → jti = "" ∨ ¬ JtiRevoked D s jti)) := by
  unfold isJtiRevoked
  split
  · rename_i empty
    exact ⟨rfl, fun _ => .inl empty⟩
  · simp only [op, always_db, always_ret, Stmt.exec, RevokedAccessTokenStmt.exec, Except.ok.injEq,
      reduceCtorEq, false_imp_iff, implies_true, and_true, true_and, forall_const, JtiRevoked]
    intro none
    right
    simpa using none

lemma verifyAccessToken_always :
    alwaysE (exec D) (verifyAccessToken D tenantId token) s
      (fun claims s' => s' = s ∧ AccessChecked D s tenantId token claims) (fun _ s' => s' = s) := by
  unfold verifyAccessToken
  refine orThrow_step (fun _ _ => rfl) fun header decoded => ?_
  refine ensure_step (fun _ => rfl) fun typ => ?_
  refine found_step (fun _ => rfl) fun kid hkid => ?_
  refine read_step (fun _ => rfl) (fun _ => rfl) fun _ => ?_
  refine found_step (fun _ => rfl) fun key row => ?_
  refine orThrow_step (fun _ _ => rfl) fun dk loaded => ?_
  refine orThrow_step (fun _ _ => rfl) fun claims verified => ?_
  refine ensure_step (fun _ => rfl) fun iss => ?_
  refine ensure_step (fun _ => rfl) fun aud => ?_
  refine clock_step fun now => ?_
  refine ensure_step (fun _ => rfl) fun _ => ?_
  rw [alwaysE_bind, alwaysE_orLeave]
  refine always_mono isJtiRevoked_always ?_
  rintro r s' ⟨rfl, unrevoked⟩
  refine ⟨?_, fun _ _ => rfl⟩
  rintro revoked rfl
  refine ensure_step (fun _ => rfl) fun live => ?_
  obtain rfl : revoked = false := by simpa using live
  exact ⟨rfl, ⟨header, kid, key, dk, decoded, of_decide_eq_true typ, hkid, row, loaded, verified⟩,
    of_decide_eq_true iss, of_decide_eq_true aud, unrevoked rfl⟩

/-- `/userinfo` answers only to access tokens of its tenant, with the subject they name. -/
lemma userinfo_always :
    alwaysE (exec D) (userinfo D tenantId token) s
      (fun info s' => s' = s ∧ ∃ claims, AccessChecked D s tenantId token claims ∧
        ∃ sub, D.parseUuid claims.sub = some sub ∧ info.sub = D.uuidToString sub)
      (fun _ s' => s' = s) := by
  unfold userinfo
  refine alwaysE_bind_of verifyAccessToken_always (fun _ _ e => e) ?_
  rintro claims _ ⟨rfl, checked⟩
  refine ensure_step (fun _ => rfl) fun _ => ?_
  refine found_step (fun _ => rfl) fun sub parsed => ?_
  refine read_step (fun _ => rfl) (fun _ => rfl) fun _ => ?_
  refine found_step (fun _ => rfl) fun user row => ?_
  have named : user.sub = sub := by simpa using List.find?_some row
  exact ensure_step (fun _ => rfl) fun _ => ⟨rfl, claims, checked, sub, parsed, named ▸ rfl⟩

lemma subjectIsActive_always {sub : String} :
    always (exec D) (subjectIsActive D sub) s (fun _ s' => s' = s) := by
  unfold subjectIsActive
  split
  · rfl
  · simp only [op, always_bind, always_db, always_ret, Stmt.exec, UserStmt.exec]
    refine ⟨fun _ => rfl, fun _ => ?_⟩
    split <;> rfl

/-- The answer of introspection for the claims of an access token. -/
def AccessTokenClaims.response (claims : AccessTokenClaims) : IntrospectionResponse where
  active := true
  scope := some claims.scope
  clientId := some claims.clientId
  username := none
  tokenType := some "Bearer"
  exp := some claims.exp
  iat := some claims.iat
  sub := some claims.sub
  iss := some claims.iss
  jti := some claims.jti

/-- Introspection reports only access tokens of its tenant active, with their claims. -/
lemma introspectAccessToken_always :
    always (exec D) (introspectAccessToken D token (D.tenantIssuer tenantId)) s (fun resp s' =>
      s' = s ∧ (resp.active = true → ∃ claims, AccessChecked D s tenantId token claims ∧
        resp = claims.response)) := by
  have inactive : ∀ s' : Store, s' = s → s' = s ∧ (IntrospectionResponse.inactive.active = true →
      ∃ claims : AccessTokenClaims, AccessChecked D s tenantId token claims ∧
        IntrospectionResponse.inactive = claims.response) := fun s' e => ⟨e, nofun⟩
  unfold introspectAccessToken
  rw [always_outcome]
  refine orThrow_step (fun _ _ => inactive _ rfl) fun header decoded => ?_
  refine ensure_step (fun _ => inactive _ rfl) fun typ => ?_
  refine found_step (fun _ => inactive _ rfl) fun kid hkid => ?_
  refine read_step (fun _ => rfl) (fun _ => inactive _ rfl) fun _ => ?_
  refine found_step (fun _ => inactive _ rfl) fun key row => ?_
  refine orThrow_step (fun _ _ => inactive _ rfl) fun dk loaded => ?_
  refine orThrow_step (fun _ _ => inactive _ rfl) fun claims verified => ?_
  refine ensure_step (fun _ => inactive _ rfl) fun same => ?_
  obtain ⟨iss, aud⟩ : claims.iss = D.tenantIssuer tenantId ∧
      claims.aud = userinfoAudience (D.tenantIssuer tenantId) := by simpa using same
  refine clock_step fun now => ?_
  refine ensure_step (fun _ => inactive _ rfl) fun _ => ?_
  rw [alwaysE_bind, alwaysE_orLeave]
  refine always_mono isJtiRevoked_always ?_
  rintro r s' ⟨rfl, unrevoked⟩
  refine ⟨?_, fun _ _ => inactive _ rfl⟩
  rintro revoked rfl
  refine ensure_step (fun _ => inactive _ rfl) fun live => ?_
  obtain rfl : revoked = false := by simpa using live
  refine lift_step (always_mono subjectIsActive_always ?_)
  rintro active _ rfl
  refine ensure_step (fun _ => inactive _ rfl) fun _ => ⟨rfl, fun _ => ⟨claims, ?_, rfl⟩⟩
  exact ⟨⟨header, kid, key, dk, decoded, of_decide_eq_true typ, hkid, row, loaded, verified⟩, iss, aud,
    unrevoked rfl⟩

/-! ## Refresh tokens -/

/-- The answer of introspection for the row of a refresh token. -/
def RefreshToken.response (D : Deploy) (issuer : String) (rt : RefreshToken) : IntrospectionResponse where
  active := true
  scope := some (joinScope rt.scope)
  clientId := some rt.clientId
  username := none
  tokenType := some "refresh_token"
  exp := some (DateTime.timestamp rt.expiresAt)
  iat := none
  sub := some (D.uuidToString rt.userId)
  iss := some issuer
  jti := none

/-- Introspection reports only unrevoked refresh tokens of its tenant active, with what their rows say. -/
lemma introspectRefreshToken_always {issuer : String} :
    always (exec D) (introspectRefreshToken D tenantId token issuer) s (fun resp s' =>
      s' = s ∧ (resp.active = true → ∃ rt ∈ s.refreshTokens, rt.tokenHash = D.sha256Hex token ∧
        rt.tenantId = tenantId ∧ rt.isRevoked = false ∧ resp = rt.response D issuer)) := by
  unfold introspectRefreshToken
  rw [always_outcome]
  refine read_step (fun _ => rfl) (fun _ => ⟨rfl, nofun⟩) fun _ => ?_
  refine found_step (fun _ => ⟨rfl, nofun⟩) fun rt row => ?_
  obtain ⟨hash, tenant⟩ : rt.tokenHash = D.sha256Hex token ∧ rt.tenantId = tenantId := by
    simpa using List.find?_some row
  refine clock_step fun now => ?_
  refine ensure_step (fun _ => ⟨rfl, nofun⟩) fun valid => ?_
  have live : rt.isRevoked = false := by
    simp only [RefreshToken.isValidAt, Bool.and_eq_true, Bool.not_eq_true'] at valid
    exact valid.1
  refine read_step (fun _ => rfl) (fun _ => ⟨rfl, nofun⟩) fun _ => ?_
  exact ensure_step (fun _ => ⟨rfl, nofun⟩) fun _ =>
    ⟨rfl, fun _ => ⟨rt, List.mem_of_find?_eq_some row, hash, tenant, live, rfl⟩⟩

lemma authenticateConfidentialClient_always {clientId : String} {basic : Option (String × String)} :
    alwaysE (exec D) (authenticateConfidentialClient D tenantId clientId basic) s
      (fun _ s' => s' = s) (fun _ s' => s' = s) := by
  unfold authenticateConfidentialClient
  refine read_step (fun _ => rfl) (fun _ => rfl) fun _ => ?_
  refine found_step (fun _ => rfl) fun client _ => ?_
  refine ensure_step (fun _ => rfl) fun _ => ?_
  refine ensure_step (fun _ => rfl) fun _ => ?_
  refine found_step (fun _ => rfl) fun credentials _ => ?_
  refine ensure_step (fun _ => rfl) fun _ => ?_
  refine found_step (fun _ => rfl) fun _ _ => ?_
  refine orThrow_step (fun _ _ => rfl) fun _ _ => ?_
  exact ensure_step (fun _ => rfl) fun _ => rfl

/-- What introspection has checked of a token it reports active. -/
def ActiveToken (D : Deploy) (s : Store) (tenantId : TenantId) (token : String) : Prop :=
  (∃ claims, AccessChecked D s tenantId token claims) ∨
    ∃ rt ∈ s.refreshTokens, rt.tokenHash = D.sha256Hex token ∧ rt.tenantId = tenantId ∧
      rt.isRevoked = false

/-- The same, with what it answers. -/
inductive Reported (D : Deploy) (s : Store) (tenantId : TenantId) (token : String) :
    IntrospectionResponse → Prop where
  | access (claims : AccessTokenClaims) (checked : AccessChecked D s tenantId token claims) :
    Reported D s tenantId token claims.response
  | refresh (rt : RefreshToken) (mem : rt ∈ s.refreshTokens) (hash : rt.tokenHash = D.sha256Hex token)
    (tenant : rt.tenantId = tenantId) (live : rt.isRevoked = false) :
    Reported D s tenantId token (rt.response D (D.tenantIssuer tenantId))

lemma introspect_reported {hint : Option String} {clientId : String}
    {basic : Option (String × String)} :
    alwaysE (exec D) (introspect D tenantId token hint clientId basic) s
      (fun resp s' => s' = s ∧ (resp.active = true → Reported D s tenantId token resp))
      (fun _ s' => s' = s) := by
  have access : always (exec D) (introspectAccessToken D token (D.tenantIssuer tenantId)) s
      (fun resp s' => s' = s ∧ (resp.active = true → Reported D s tenantId token resp)) := by
    refine always_mono introspectAccessToken_always ?_
    rintro resp _ ⟨rfl, answer⟩
    refine ⟨rfl, fun active => ?_⟩
    obtain ⟨claims, checked, rfl⟩ := answer active
    exact .access claims checked
  have refresh : always (exec D) (introspectRefreshToken D tenantId token (D.tenantIssuer tenantId)) s
      (fun resp s' => s' = s ∧ (resp.active = true → Reported D s tenantId token resp)) := by
    refine always_mono introspectRefreshToken_always ?_
    rintro resp _ ⟨rfl, answer⟩
    refine ⟨rfl, fun active => ?_⟩
    obtain ⟨rt, mem, hash, tenant, live, rfl⟩ := answer active
    exact .refresh rt mem hash tenant live
  unfold introspect
  split
  · exact ⟨rfl, nofun⟩
  · refine alwaysE_bind_of authenticateConfidentialClient_always (fun _ _ e => e) ?_
    rintro client _ rfl
    dsimp only
    split
    · refine lift_step (always_mono refresh ?_)
      rintro resp _ ⟨rfl, reported⟩
      split
      · exact ⟨rfl, reported⟩
      · rw [alwaysE_lift]
        exact access
    · refine lift_step (always_mono access ?_)
      rintro resp _ ⟨rfl, reported⟩
      split
      · exact ⟨rfl, reported⟩
      · rw [alwaysE_lift]
        exact refresh

/-- In every execution, introspection changes nothing, and a token it reports active is an access token
of the tenant that verifies and is not revoked, or an unrevoked refresh token of the tenant. -/
theorem introspect_always {hint : Option String} {clientId : String}
    {basic : Option (String × String)} :
    alwaysE (exec D) (introspect D tenantId token hint clientId basic) s
      (fun resp s' => s' = s ∧ (resp.active = true → ActiveToken D s tenantId token))
      (fun _ s' => s' = s) := by
  refine alwaysE_mono introspect_reported ?_ fun _ _ e => e
  rintro resp _ ⟨rfl, reported⟩
  refine ⟨rfl, fun active => ?_⟩
  cases reported active with
  | access claims checked => exact .inl ⟨claims, checked⟩
  | refresh rt mem hash tenant live => exact .inr ⟨rt, mem, hash, tenant, live⟩

end IdpMvp
