import IdpMvp.Domain.Entities
import IdpMvp.Encoding.Base64

/-!
# The deployment: configuration and libraries

A `Deploy` is what a running instance is given: its configuration values and the third-party code it
calls (SHA-256 and HMAC, Argon2, AES-GCM, TOTP, `jsonwebtoken`, `serde_json`, `url`, `webauthn-rs`,
and the collation MariaDB compares text columns under). The services are written over an arbitrary
`Deploy`; what a result needs of a library is a hypothesis of that result.

Encodings the source only uses in one direction are defined here: the base64url text of random
tokens (`crypto::random_token`) and lowercase hexadecimal (`hex::encode`).
-/

namespace IdpMvp

open Encoding

abbrev Bytes := List UInt8

/-! ## Encodings -/

/-- The URL-safe base64 alphabet. -/
def base64UrlAlphabet : List Char :=
  ['A', 'B', 'C', 'D', 'E', 'F', 'G', 'H', 'I', 'J', 'K', 'L', 'M', 'N', 'O', 'P',
   'Q', 'R', 'S', 'T', 'U', 'V', 'W', 'X', 'Y', 'Z', 'a', 'b', 'c', 'd', 'e', 'f',
   'g', 'h', 'i', 'j', 'k', 'l', 'm', 'n', 'o', 'p', 'q', 'r', 's', 't', 'u', 'v',
   'w', 'x', 'y', 'z', '0', '1', '2', '3', '4', '5', '6', '7', '8', '9', '-', '_']

def base64UrlChar (n : Nat) : Char := base64UrlAlphabet.getD (n % 64) 'A'

/-- Base64url without padding, as characters. -/
def base64UrlChars : Bytes → List Char
  | [] => []
  | [a] =>
    [base64UrlChar (a.toNat / 4), base64UrlChar (a.toNat * 16)]
  | [a, b] =>
    [base64UrlChar (a.toNat / 4), base64UrlChar (a.toNat * 16 + b.toNat / 16),
      base64UrlChar (b.toNat * 4)]
  | a :: b :: c :: rest =>
    base64UrlChar (a.toNat / 4) :: base64UrlChar (a.toNat * 16 + b.toNat / 16) ::
      base64UrlChar (b.toNat * 4 + c.toNat / 64) :: base64UrlChar c.toNat :: base64UrlChars rest

/-- `URL_SAFE_NO_PAD.encode`. -/
def base64Url (bytes : Bytes) : String := String.ofList (base64UrlChars bytes)

/-- The lowercase hexadecimal digits. -/
def hexDigits : List Char :=
  ['0', '1', '2', '3', '4', '5', '6', '7', '8', '9', 'a', 'b', 'c', 'd', 'e', 'f']

def hexChar (n : Nat) : Char := hexDigits.getD (n % 16) '0'

/-- `hex::encode`. -/
def hexEncode (bytes : Bytes) : String :=
  String.ofList (bytes.flatMap fun b => [hexChar (b.toNat / 16), hexChar b.toNat])

/-- `String::from_utf8`. -/
def fromUtf8 (bytes : Bytes) : Option String := String.fromUTF8? (ByteArray.mk bytes.toArray)

/-- `str::splitn(n, sep)` on characters: at most `n` parts, the last one unsplit. -/
def splitN : Nat → Char → List Char → List (List Char)
  | 0, _, _ => []
  | 1, _, cs => [cs]
  | n + 2, sep, cs =>
    match cs.span (· ≠ sep) with
    | (part, _ :: rest) => part :: splitN (n + 1) sep rest
    | (part, []) => [part]

/-! ## Values of the libraries -/

/-- A `serde_json::Value`. -/
inductive Json where
  | null
  | bool (b : Bool)
  | int (n : Int)
  | float (text : String)
  | str (s : String)
  | arr (items : List Json)
  | obj (fields : List (String × Json))

/-- `value[key]`: `Null` when the value is no object or has no such key. -/
def Json.get : Json → String → Json
  | .obj fields, key =>
    match fields.find? (·.1 = key) with
    | some (_, v) => v
    | none => .null
  | _, _ => .null

def Json.asStr : Json → Option String
  | .str s => some s
  | _ => none

/-- `as_i64`: an integer in the range of `i64`. -/
def Json.asI64 : Json → Option Int
  | .int n => if -9223372036854775808 ≤ n ∧ n ≤ 9223372036854775807 then some n else none
  | _ => none

/-- `jsonwebtoken::Algorithm`: the two the source names, and the others by name. -/
inductive Algorithm where
  | rs256
  | es256
  | other (name : String)
  deriving DecidableEq, Repr

/-- `jsonwebtoken::Header`, as far as the source sets and reads it. -/
structure JwtHeader where
  alg : Algorithm
  typ : Option String
  kid : Option String
  deriving DecidableEq, Repr

/-- `IdTokenClaims` of `token.rs`. -/
structure IdTokenClaims where
  iss : String
  sub : String
  aud : String
  exp : Int
  iat : Int
  authTime : Int
  nonce : String
  jti : String
  email : Option String
  emailVerified : Option Bool
  preferredUsername : Option String
  name : Option String
  deriving DecidableEq, Repr

/-- `AccessTokenClaims` of `token.rs`. -/
structure AccessTokenClaims where
  iss : String
  sub : String
  aud : String
  clientId : String
  scope : String
  exp : Int
  iat : Int
  jti : String
  deriving DecidableEq, Repr

/-- The claim sets the source signs. -/
inductive JwtClaims where
  | idToken (c : IdTokenClaims)
  | accessToken (c : AccessTokenClaims)
  deriving DecidableEq, Repr

/-- `LogoutTokenClaims` of `handlers/logout.rs`; the events by their names, each an empty object. -/
structure LogoutTokenClaims where
  iss : String
  sub : String
  aud : String
  iat : Int
  jti : String
  events : List String
  deriving DecidableEq, Repr

/-- `jsonwebtoken::EncodingKey`, opaque. -/
structure EncodingKey where
  material : String
  deriving DecidableEq, Repr

/-- `jsonwebtoken::DecodingKey`, opaque. -/
structure DecodingKey where
  material : String
  deriving DecidableEq, Repr

/-- `jsonwebtoken::Validation`, as far as the source sets it. -/
structure Validation where
  algorithms : List Algorithm
  validateExp : Bool
  validateAud : Bool
  requiredSpecClaims : List String
  deriving DecidableEq, Repr

/-- `webauthn_rs::PublicKeyCredential`: its credential id and the rest, opaque. -/
structure PublicKeyCredential where
  id : String
  raw : String
  deriving DecidableEq, Repr

/-- `url::Url`, opaque. -/
structure Url where
  text : String
  deriving DecidableEq, Repr

/-- `totp_rs::TOTP`, as the source makes it; the hash is SHA-1 throughout. -/
structure Totp where
  digits : Nat
  skew : Nat
  step : Nat
  secret : Bytes
  issuer : Option String
  accountName : String
  deriving DecidableEq, Repr

/-! ## The deployment -/

/-- What a running instance is configured with and linked against. -/
structure Deploy where
  /-- The key under which `utf8mb4_unicode_ci` compares text. -/
  coll : String → String
  /-- `crypto::sha256_hex`. -/
  sha256Hex : String → String
  /-- `BASE64URL(SHA256(verifier))`, computed by `pkce::verify_s256`. -/
  s256 : String → String
  /-- HMAC-SHA256 of a message under a key. -/
  hmacSha256 : Bytes → String → Bytes
  /-- `hex::decode`. -/
  hexDecode : String → Option Bytes
  /-- `PasswordHasher::verify`. -/
  verifyPassword : String → String → Except DomainError Bool
  /-- `PasswordHasher::hash` with its random salt. -/
  hashPassword : Bytes → String → Except DomainError String
  /-- The engine `STANDARD`. -/
  base64 : Base64
  /-- `Aes256Gcm::encrypt` under the key encryption key, of a nonce and a plaintext. -/
  gcmEncrypt : Bytes → Bytes → Option Bytes
  /-- `Aes256Gcm::decrypt` under it, of a nonce and a ciphertext. -/
  gcmDecrypt : Bytes → Bytes → Option Bytes
  /-- `TOTP::new`. -/
  totpNew : Totp → Except String Totp
  /-- `TOTP::get_url`. -/
  totpGetUrl : Totp → String
  /-- `TOTP::check_current` at a system time. -/
  totpCheck : Totp → DateTime → String → Except String Bool
  /-- `Uuid::to_string`. -/
  uuidToString : Uuid → String
  /-- `Uuid::parse_str`. -/
  parseUuid : String → Option Uuid
  /-- `URL_SAFE_NO_PAD.decode`. -/
  base64UrlDecode : String → Option Bytes
  /-- `serde_json::from_slice`. -/
  jsonFromSlice : Bytes → Option Json
  /-- `EncodingKey::from_rsa_pem`. -/
  encodingKeyFromRsaPem : String → Except String EncodingKey
  /-- `EncodingKey::from_ec_pem`. -/
  encodingKeyFromEcPem : String → Except String EncodingKey
  /-- `DecodingKey::from_rsa_pem`. -/
  decodingKeyFromRsaPem : String → Except String DecodingKey
  /-- `jsonwebtoken::encode`. -/
  jwtEncode : JwtHeader → JwtClaims → EncodingKey → Except String String
  /-- The same of a logout token. -/
  jwtEncodeLogout : JwtHeader → LogoutTokenClaims → EncodingKey → Except String String
  /-- `jsonwebtoken::decode_header`. -/
  jwtDecodeHeader : String → Except String JwtHeader
  /-- `jsonwebtoken::decode::<AccessTokenClaims>`. -/
  jwtDecode : String → DecodingKey → Validation → Except String AccessTokenClaims
  /-- `Url::parse`. -/
  urlParse : String → Option Url
  /-- `Url::scheme`. -/
  urlScheme : Url → String
  /-- `Url::fragment`. -/
  urlFragment : Url → Option String
  /-- `query_pairs_mut().append_pair`. -/
  urlAppendPair : Url → String → String → Url
  /-- `Url::to_string`. -/
  urlToString : Url → String
  /-- `serde_json::from_str::<DiscoverableAuthentication>`, the state kept as its text. -/
  parseAuthState : String → Except String String
  /-- `serde_json::from_value::<PublicKeyCredential>`. -/
  parseCredential : String → Except String PublicKeyCredential
  /-- `serde_json::from_str::<Passkey>`, the passkey kept as its text. -/
  parsePasskey : String → Except String String
  /-- `WebAuthnPort::finish_authentication` with one discoverable key. -/
  finishAuthentication : PublicKeyCredential → String → String → Except String String
  /-- `Passkey::update_credential` and the passkey's new JSON, `none` when it did not change. -/
  updateCredential : String → String → Option (Except String String)
  /-- `jwt::generate_rsa_keypair` and `jwt::generate_ec_keypair` from random bytes: the private and
  the public PEM. -/
  generateKeypair : SigningAlgorithm → Bytes → Except String (String × String)
  /-- `RsaPublicKey::from_public_key_pem`: the modulus and the exponent, big-endian. -/
  rsaPublicKey : String → Except String (Bytes × Bytes)
  /-- `p256::PublicKey::from_public_key_pem`: the coordinates of its point, which may be missing. -/
  ecPublicKey : String → Except String (Option Bytes × Option Bytes)
  /-- `now.format("%Y%m%d")`. -/
  formatDate : DateTime → String
  /-- `Secret::Raw(bytes).to_encoded().to_string()`. -/
  secretToEncoded : Bytes → String
  /-- `WebAuthnPort::begin_registration` from random bytes: the options and the state, as JSON. -/
  beginRegistration : Bytes → Uuid → String → List String → Except String (String × String)
  /-- `serde_json::from_str::<PasskeyRegistration>`, the state kept as its text. -/
  parseRegState : String → Except String String
  /-- `serde_json::from_value::<RegisterPublicKeyCredential>`, the credential kept as its text. -/
  parseRegCredential : String → Except String String
  /-- `WebAuthnPort::finish_registration`: the credential id, encoded, and the passkey's JSON. -/
  finishRegistration : String → String → Except String (String × String)
  /-- The public URL of the screens, without a trailing slash. -/
  consoleBaseUrl : String
  baseIssuer : String
  csrfSecret : Bytes
  ticketSecret : Bytes
  authSessionTtl : Duration
  codeTtl : Duration
  ssoIdleTtl : Duration
  ssoAbsoluteTtl : Duration
  /-- Token lifetimes in whole seconds (`Duration::as_secs`). -/
  accessTokenTtlSecs : Nat
  idTokenTtlSecs : Nat
  refreshTokenTtl : Duration
  /-- `clock_skew.num_seconds()` of the two access-token verifiers. -/
  clockSkewSecs : Nat
  loginMaxAttempts : Nat
  loginWindow : Duration
  /-- The attempts and the window of the other rate limiters. -/
  limiterMaxAttempts : Limiter → Nat
  limiterWindow : Limiter → Duration
  permissionCacheTtl : Duration
  tenantCacheTtl : Duration
  passwordResetTtl : Duration
  emailVerificationTtl : Duration
  invitationTtl : Duration
  /-- The root tenant, a literal of the `CHECK` constraint of migration 0002. -/
  rootTenantId : TenantId

/-- `idp_contracts::csrf::login_csrf_token` under the deployment's secret. -/
def Deploy.loginCsrfToken (D : Deploy) (authSessionId : String) : String :=
  hexEncode (D.hmacSha256 D.csrfSecret ("csrf:" ++ authSessionId))

/-- `tenant_issuer` of `issuer.rs`. -/
def Deploy.tenantIssuer (D : Deploy) (tenantId : TenantId) : String :=
  D.baseIssuer ++ "/" ++ D.uuidToString tenantId

/-- `userinfo_audience` of `token.rs`. -/
def userinfoAudience (issuer : String) : String := issuer ++ "/userinfo"

end IdpMvp
