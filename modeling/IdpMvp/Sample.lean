import IdpMvp.Service.Token

/-!
# A deployment to evaluate on

A development instance with the defaults of `config.rs`: two tenants, two users, two clients and two
signing keys. The libraries answer as the real ones do on the texts that occur here, with keys and signed
tokens abbreviated to short names and a cipher that does no more than add its tag.
-/

namespace IdpMvp.Sample

open Program Encoding

/-- The value a table has for a key. -/
def lookup {α β : Type} [DecidableEq α] (table : List (α × β)) (key : α) : Option β :=
  (table.find? (·.1 = key)).map (·.2)

/-! ## Identifiers and times -/

/-- The last `k` hexadecimal digits of a number. -/
def hexDigitsOf : Nat → Nat → List Char
  | 0, _ => []
  | k + 1, n => hexDigitsOf k (n / 16) ++ [hexChar n]

/-- `Uuid::to_string`. -/
def uuidToString (u : Uuid) : String :=
  let digits := hexDigitsOf 32 u.bits.toNat
  String.ofList (digits.take 8 ++ '-' :: (digits.drop 8).take 4 ++ '-' :: (digits.drop 12).take 4 ++
    '-' :: (digits.drop 16).take 4 ++ '-' :: digits.drop 20)

/-- The number that hexadecimal digits denote. -/
def hexNumber (digits : List Char) : Nat :=
  digits.foldl (fun n c => 16 * n + hexDigits.idxOf c) 0

/-- `Uuid::parse_str`, of the form `to_string` writes. -/
def parseUuid (s : String) : Option Uuid :=
  let u : Uuid := ⟨BitVec.ofNat 128 (hexNumber (s.toList.filter (· ≠ '-')))⟩
  if uuidToString u = s then some u else none

def tenantA : TenantId := ⟨0x018bcfe568007000800000000000000a⟩

def tenantB : TenantId := ⟨0x018bcfe568007000800000000000000b⟩

def aliceId : Uuid := ⟨0x018bcfe56800700080000000000000a1⟩

def aliceSub : Uuid := ⟨0x018bcfe56800700080000000000000a2⟩

def adminId : Uuid := ⟨0x018bcfe56800700080000000000000b1⟩

def adminSub : Uuid := ⟨0x018bcfe56800700080000000000000b2⟩

/-- The `jti` of every token. -/
def tokenJti : Uuid := ⟨0x3f2504e04f8941d39a0c0305e82c3301⟩

/-- 2023-11-14T22:13:20Z. -/
def now : DateTime := 1700000000000000

/-- A statement, a draw or a reading of the clock at `now` that does not fail; every random byte is
`b`. -/
def input (b : UInt8) : Input := ⟨now, none, fun _ => b, tokenJti⟩

/-- The random token and the random session id of such a draw. -/
def plainToken (b : UInt8) : String := base64Url ((input b).bytes 32)

def sessionId (b : UInt8) : String := hexEncode ((input b).bytes 32)

/-! ## Hashes -/

/-- SHA-256 of `plainToken` 1 to 4 and of `sessionId` 5 and 6. -/
def sha256Table : List (String × String) :=
  [(plainToken 1, "56d5fa7333f6d747db42c239407e5da4c32f4c79f35d092b134fd35a402d9c5c"),
   (plainToken 2, "6c1d63bbdab437c54368cbbd8886a886a79ad977297e265eebf1f5f5f01533b9"),
   (plainToken 3, "83bee072fbd3423f7481fc163821636ad8cfb73faef0dd0581f3979ea0c731b9"),
   (plainToken 4, "4f6a3bb5a6c72d17856be15f62e747ef88df8139f0c38411c8501164c1c1bdd8"),
   (sessionId 5, "052a67d218c39aad73acb31691d68f8aff33321746c1a31c24fb4bcbadb39672"),
   (sessionId 6, "5a3523fb327e01f8a1f328b4731fd59004d1f8fc2e174de25d40c75c22e5e1c8")]

/-- The verifier of RFC 7636, appendix B, and its challenge. -/
def verifier : String := "dBjftJeZ4CVP-mB92K27uhbUJU1p1r_wW1gFWFOEjXk"

def challenge : String := "E9Melhoa2OwvFrEMTJguCHaoeK1t8URWbuGJSstw-cM"

/-- The hashes of the migrations 0002 and 0009, with their passwords. -/
def aliceHash : String :=
  "$argon2id$v=19$m=65536,t=3,p=4$rDuN4UZ1uO9aCuJjci4tQw$9qhizRUIJntV/0+5fsyfdKt5Xmjw6WyEmPOLkOhY7QM"

def adminHash : String :=
  "$argon2id$v=19$m=65536,t=3,p=4$L1NMbjFwV21BYllKWng5Ng$zTuAfd+FBQlcvMQF9KQyUFGkk2wqYNdAadNiCwKlTnY"

def passwords : List (String × String) :=
  [("ChangeMe!123", aliceHash), ("admin@example.com", adminHash)]

/-! ## JSON Web Tokens -/

/-- The claims of the access tokens issued here. -/
def accessClaims : AccessTokenClaims where
  iss := "http://localhost:8060/018bcfe5-6800-7000-8000-00000000000a"
  sub := "018bcfe5-6800-7000-8000-0000000000a2"
  aud := "http://localhost:8060/018bcfe5-6800-7000-8000-00000000000a/userinfo"
  clientId := "app"
  scope := "openid offline_access"
  exp := 1700000900
  iat := 1700000000
  jti := "3f2504e0-4f89-41d3-9a0c-0305e82c3301"

/-- The claims of the ID tokens issued here; only the nonce differs between the grants. -/
def idClaims (nonce : String) : IdTokenClaims where
  iss := accessClaims.iss
  sub := accessClaims.sub
  aud := "app"
  exp := 1700003600
  iat := 1700000000
  authTime := 1700000000
  nonce := nonce
  jti := accessClaims.jti
  email := none
  emailVerified := none
  preferredUsername := none
  name := none

def rsaHeader (typ : String) : JwtHeader := ⟨.rs256, some typ, some "k1"⟩

def ecHeader (typ : String) : JwtHeader := ⟨.es256, some typ, some "k2"⟩

/-- The access token under the RSA key, and under the elliptic curve key. -/
def rsaAccessToken : String := "at-rs.claims.rsa"

def ecAccessToken : String := "at-es.claims.ec"

/-- The tokens that are signed here. -/
def jwtTable : List ((JwtHeader × JwtClaims × EncodingKey) × String) :=
  [((rsaHeader "at+jwt", .accessToken accessClaims, ⟨"rsa"⟩), rsaAccessToken),
   ((ecHeader "at+jwt", .accessToken accessClaims, ⟨"ec"⟩), ecAccessToken),
   ((rsaHeader "JWT", .idToken (idClaims "n1"), ⟨"rsa"⟩), "jwt-rs.code.rsa"),
   ((rsaHeader "JWT", .idToken (idClaims ""), ⟨"rsa"⟩), "jwt-rs.refresh.rsa"),
   ((ecHeader "JWT", .idToken (idClaims "n1"), ⟨"ec"⟩), "jwt-es.code.ec"),
   ((ecHeader "JWT", .idToken (idClaims ""), ⟨"ec"⟩), "jwt-es.refresh.ec")]

def jwtEncode (h : JwtHeader) (c : JwtClaims) (key : EncodingKey) : Except String String :=
  match lookup jwtTable (h, c, key) with
  | some token => .ok token
  | none => .error "InvalidKeyFormat"

def jwtDecodeHeader (token : String) : Except String JwtHeader :=
  match jwtTable.find? (·.2 = token) with
  | some ((h, _), _) => .ok h
  | none => .error "InvalidToken"

/-- A token is accepted under its own key, if its algorithm is admitted. -/
def jwtDecode (token : String) (key : DecodingKey) (validation : Validation) :
    Except String AccessTokenClaims :=
  match jwtTable.find? (·.2 = token) with
  | some ((h, .accessToken c, k), _) =>
    if h.alg ∉ validation.algorithms then .error "InvalidAlgorithm"
    else if k.material ≠ key.material then .error "InvalidSignature"
    else .ok c
  | _ => .error "InvalidToken"

/-- The JSON object of the access token's claims. -/
def accessJson : Json :=
  .obj
    [("iss", .str accessClaims.iss), ("sub", .str accessClaims.sub),
     ("aud", .str accessClaims.aud), ("client_id", .str accessClaims.clientId),
     ("scope", .str accessClaims.scope), ("exp", .int accessClaims.exp),
     ("iat", .int accessClaims.iat), ("jti", .str accessClaims.jti)]

/-! ## Secrets -/

/-- What the cipher adds to a plaintext. -/
def gcmTag : UInt8 := 0

/-- `TOTP::new`: the digits, the length of the secret, and no colon in either name. -/
def totpNew (totp : Totp) : Except String Totp :=
  if totp.digits < 6 ∨ 8 < totp.digits then .error "invalid digits"
  else if totp.secret.length < 16 then .error "the secret is too short"
  else if ':' ∈ (totp.issuer.getD "").toList then .error "the issuer contains a colon"
  else if ':' ∈ totp.accountName.toList then .error "the account name contains a colon"
  else .ok totp

/-! ## The deployment -/

def deploy : Deploy where
  -- letters without their case; on the bytes, since the kernel evaluates these fastest
  coll s := String.ofList (s.toUTF8.data.toList.map fun b => (Char.ofNat b.toNat).toLower)
  sha256Hex s := (lookup sha256Table s).getD "0000000000000000000000000000000000000000000000000000000000000000"
  s256 v := if v = verifier then challenge else ""
  hmacSha256 _ _ := []
  hexDecode _ := none
  verifyPassword password hash := .ok ((password, hash) ∈ passwords)
  hashPassword _ password := .error (.invalidValue password)
  base64 := Base64.standard
  gcmEncrypt _ plaintext := some (plaintext ++ [gcmTag])
  gcmDecrypt _ ciphertext := if ciphertext.getLast? = some gcmTag then some ciphertext.dropLast else none
  totpNew := totpNew
  totpGetUrl totp := "otpauth://totp/" ++ totp.accountName
  totpCheck _ _ _ := .ok false
  uuidToString := uuidToString
  parseUuid := parseUuid
  base64UrlDecode s := if s = "claims" then some [1] else none
  jsonFromSlice bytes := if bytes = [1] then some accessJson else none
  encodingKeyFromRsaPem pem := if pem = "RSA" then .ok ⟨"rsa"⟩ else .error "InvalidKeyFormat"
  encodingKeyFromEcPem pem := if pem = "EC" then .ok ⟨"ec"⟩ else .error "InvalidKeyFormat"
  decodingKeyFromRsaPem pem := if pem = "rsa-public" then .ok ⟨"rsa"⟩ else .error "InvalidKeyFormat"
  jwtEncode := jwtEncode
  jwtEncodeLogout _ _ _ := .error "not a token of the sample"
  jwtDecodeHeader := jwtDecodeHeader
  jwtDecode := jwtDecode
  urlParse s := some ⟨s⟩
  urlScheme u := String.ofList (u.text.toList.takeWhile (· ≠ ':'))
  urlFragment u := if '#' ∈ u.text.toList then some (String.ofList (u.text.toList.dropWhile (· ≠ '#')).tail) else none
  urlAppendPair u k v := ⟨u.text ++ "&" ++ k ++ "=" ++ v⟩
  urlToString u := u.text
  parseAuthState s := .ok s
  parseCredential _ := .error "no credential"
  parsePasskey s := .ok s
  finishAuthentication _ _ _ := .error "no credential"
  updateCredential _ _ := none
  generateKeypair alg _ := match alg with
    | .rs256 => .ok ("RSA", "rsa-public")
    | .es256 => .ok ("EC", "ec-public")
  rsaPublicKey pem := if pem = "rsa-public" then .ok ([1], [2]) else .error "ASN.1 error"
  ecPublicKey pem := if pem = "ec-public" then .ok (some [3], some [4]) else .error "ASN.1 error"
  formatDate _ := "20231114"
  secretToEncoded _ := "GEZDGNBVGY3TQOJQGEZDGNBVGY3TQOJQ"
  beginRegistration _ _ _ _ := .error "no authenticator"
  parseRegState s := .ok s
  parseRegCredential s := .ok s
  finishRegistration _ _ := .error "no authenticator"
  consoleBaseUrl := "http://localhost:8070"
  baseIssuer := "http://localhost:8060"
  csrfSecret := []
  ticketSecret := []
  authSessionTtl := 600000000
  codeTtl := 60000000
  ssoIdleTtl := 28800000000
  ssoAbsoluteTtl := 86400000000
  accessTokenTtlSecs := 900
  idTokenTtlSecs := 3600
  refreshTokenTtl := 2592000000000
  clockSkewSecs := 60
  loginMaxAttempts := 10
  loginWindow := 60000000
  limiterMaxAttempts _ := 5
  limiterWindow _ := 900000000
  permissionCacheTtl := 60000000
  tenantCacheTtl := 60000000
  passwordResetTtl := 3600000000
  emailVerificationTtl := 86400000000
  invitationTtl := 604800000000
  rootTenantId := tenantA

lemma deploy_decryptsOwn : deploy.DecryptsOwn where
  base64 := Base64.standard_lawful
  empty := rfl
  opens nonce plaintext ciphertext made := by
    obtain rfl : plaintext ++ [gcmTag] = ciphertext := Option.some.inj made
    simp [deploy]

/-- The text of a plaintext under a nonce of such bytes. -/
def stored (b : UInt8) (plaintext : Bytes) : String :=
  deploy.base64.encode ((input b).bytes gcmNonceLen ++ plaintext ++ [gcmTag])

/-! ## Rows -/

def alice : User where
  id := aliceId
  tenantId := tenantA
  sub := aliceSub
  email := "alice@example.com"
  emailVerified := true
  preferredUsername := some "alice"
  name := none
  language := none
  passwordHash := aliceHash
  mustChangePassword := false
  status := .active
  failedLoginCount := 0
  lockedUntil := none

def admin : User where
  id := adminId
  tenantId := tenantA
  sub := adminSub
  email := "admin@example.com"
  emailVerified := true
  preferredUsername := some "admin"
  name := none
  language := none
  passwordHash := adminHash
  mustChangePassword := false
  status := .active
  failedLoginCount := 0
  lockedUntil := none

/-- A public client. -/
def publicClient (tenantId : TenantId) (clientId : String) : Client where
  id := tenantId
  tenantId := tenantId
  clientId := clientId
  clientSecretHash := none
  clientType := .publicClient
  clientStatus := .active
  appName := clientId
  redirectUris := ["https://app.example.com/cb"]
  grantTypes := ["authorization_code", "refresh_token"]
  responseTypes := ["code"]
  scopes := ["openid", "profile", "offline_access"]
  tokenEndpointAuthMethod := .none
  requirePkce := true
  postLogoutRedirectUris := []
  frontchannelLogoutUri := none
  backchannelLogoutUri := none

def rsaKey : SigningKey := ⟨"k1", "RS256", "rsa-public", stored 0 [82, 83, 65], .active, 0, 2 * now⟩

def ecKey : SigningKey := ⟨"k2", "ES256", "ec-public", stored 0 [69, 67], .active, 0, 2 * now⟩

/-- The code whose plain text is `plainToken 1`. -/
def code : AuthorizationCode where
  codeHash := deploy.sha256Hex (plainToken 1)
  tenantId := tenantA
  userId := aliceId
  clientId := "app"
  redirectUri := "https://app.example.com/cb"
  scope := ["openid", "offline_access"]
  nonce := "n1"
  authTime := now
  codeChallenge := challenge
  codeChallengeMethod := .s256
  expiresAt := now + 60000000
  usedAt := none

def store : Store where
  users := [alice, admin]
  clients := [publicClient tenantA "app", publicClient tenantA "other", publicClient tenantB "app"]
  codes := [code]
  signingKeys := [rsaKey]

/-! ## Requests -/

/-- The request that redeems `code`. -/
def codeRequest : TokenCommand where
  grantType := some "authorization_code"
  code := some (plainToken 1)
  redirectUri := some "https://app.example.com/cb"
  codeVerifier := some verifier
  clientId := some "app"
  basicCredentials := none
  refreshToken := none

/-- The request that presents the refresh token `plainToken b`. -/
def refreshRequest (b : UInt8) : TokenCommand where
  grantType := some "refresh_token"
  code := none
  redirectUri := none
  codeVerifier := none
  clientId := some "app"
  basicCredentials := none
  refreshToken := some (plainToken b)

/-! ## Logins -/

/-- A request from a browser behind no proxy. -/
def browser : RequestContext := ⟨some "203.0.113.7", none⟩

/-- The CSRF secret, and HMAC-SHA256 under it for the auth session `sessionId 7`. -/
def csrfKey : Bytes := List.replicate 32 7

def csrfDigest : Bytes :=
  [243, 169, 81, 137, 93, 92, 140, 159, 78, 4, 169, 30, 150, 60, 53, 74, 94, 89, 73, 45, 43, 152, 223,
    174, 213, 193, 84, 87, 184, 218, 194, 193]

def csrfToken : String := hexEncode csrfDigest

/-- The secret of RFC 6238, appendix B, whose code at `now` is `921300`. -/
def totpSecret : Bytes :=
  [49, 50, 51, 52, 53, 54, 55, 56, 57, 48, 49, 50, 51, 52, 53, 54, 55, 56, 57, 48]

def totpCode : String := "921300"

/-- The deployment with what logins on auth sessions need. -/
def loginDeploy : Deploy :=
  { deploy with
    csrfSecret := csrfKey
    hmacSha256 := fun key message =>
      if key = csrfKey ∧ message = "csrf:" ++ sessionId 7 then csrfDigest else []
    totpCheck := fun totp time code => .ok (time = now ∧ totp.secret = totpSecret ∧ code = totpCode) }

/-- A confirmed TOTP secret. -/
def confirmedTotp (userId : Uuid) : TotpSecret := ⟨userId, stored 0 totpSecret, some 0⟩

/-- An auth session of the public client, as `authorize` creates it. -/
def authSession : AuthSession where
  id := sessionId 7
  tenantId := tenantA
  clientId := "app"
  redirectUri := "https://app.example.com/cb"
  scope := ["openid", "profile"]
  state := "s1"
  nonce := "n1"
  codeChallenge := challenge
  codeChallengeMethod := .s256
  authenticatedUserId := none
  authTime := none
  passwordVerifiedAt := none
  expiresAt := now + 600000000

/-- The same after the password of a user was right while something else is still asked for. -/
def pendingSession (userId : Uuid) : AuthSession :=
  { authSession with authenticatedUserId := some userId, passwordVerifiedAt := some now }

end IdpMvp.Sample
