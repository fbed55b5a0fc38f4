import IdpMvp.Service.Token

/-!
# The endpoints that read and revoke tokens

Model of `application/userinfo.rs`, `application/introspection.rs` and `application/revocation.rs`,
with `decoding_key_from_public_pem` of `domain/jwt.rs`.
-/

namespace IdpMvp

open Program Program.Flow

/-- `decoding_key_from_public_pem` of `jwt.rs`. -/
def decodingKeyFromPublicPem (D : Deploy) (publicPem : String) : Except String DecodingKey :=
  (D.decodingKeyFromRsaPem publicPem).mapError ("build decoding key from PEM: " ++ ·)

/-- The validation both verifiers give the library: the algorithm is fixed, and `exp`, `aud` and
`iss` are checked by hand. -/
def accessTokenValidation : Validation where
  algorithms := [.rs256]
  validateExp := false
  validateAud := false
  requiredSpecClaims := []

/-! ## `UserInfoService` -/

structure UserInfoClaims where
  sub : String
  email : Option String
  emailVerified : Option Bool
  preferredUsername : Option String
  name : Option String
  deriving DecidableEq, Repr

inductive UserInfoError where
  | invalidToken (reason : String)
  | insufficientScope
  | internal (detail : String)
  deriving DecidableEq, Repr

/-- The revocation check of a `jti`; an empty one is not looked up. -/
def isJtiRevoked (jti : String) : Service (DbResult Bool) :=
  if jti = "" then return .ok false
  else db (.revokedAccessTokens (.isRevoked jti))

/-- `verify_access_token`. -/
def verifyAccessToken (D : Deploy) (tenantId : TenantId) (token : String) :
    ServiceFlow UserInfoError AccessTokenClaims := do
  let header ← orThrow (D.jwtDecodeHeader token) (fun _ => .invalidToken "malformed token")
  ensure (header.typ = some "at+jwt") (.invalidToken "token typ must be `at+jwt`")
  let kid ← found header.kid (.invalidToken "token has no kid")
  let row ← orLeave (db (.signingKeys (.findByKid kid))) (.internal ·.display)
  let key ← found row (.invalidToken "unknown signing key")
  let decodingKey ← orThrow (decodingKeyFromPublicPem D key.publicKey) .internal
  let claims ← orThrow (D.jwtDecode token decodingKey accessTokenValidation)
    (fun _ => .invalidToken "signature verification failed")
  let issuer := D.tenantIssuer tenantId
  ensure (claims.iss = issuer) (.invalidToken "issuer mismatch")
  ensure (claims.aud = userinfoAudience issuer) (.invalidToken "audience mismatch")
  let now ← clockNow
  ensure (claims.exp + D.clockSkewSecs > DateTime.timestamp now) (.invalidToken "token expired")
  let revoked ← orLeave (isJtiRevoked claims.jti) (.internal ·.display)
  ensure (!revoked) (.invalidToken "token has been revoked")
  return claims

/-- `UserInfoService::userinfo`. -/
def userinfo (D : Deploy) (tenantId : TenantId) (bearerToken : String) :
    ServiceFlow UserInfoError UserInfoClaims := do
  let claims ← verifyAccessToken D tenantId bearerToken
  let scopes := splitWhitespace claims.scope
  ensure (scopes.contains Scope.openId.asStr) .insufficientScope
  let sub ← found (D.parseUuid claims.sub) (.invalidToken "invalid subject")
  let row ← orLeave (db (.users (.findBySub sub))) (.internal ·.display)
  let user ← found row (.invalidToken "unknown subject")
  ensure user.isActive (.invalidToken "user is not active")
  let has (s : Scope) : Bool := scopes.contains s.asStr
  return {
    sub := D.uuidToString user.sub
    email := if has .email then some user.email else none
    emailVerified := if has .email then some user.emailVerified else none
    preferredUsername := if has .profile then user.preferredUsername else none
    name := if has .profile then user.name else none }

/-! ## `IntrospectionService` -/

structure IntrospectionResponse where
  active : Bool
  scope : Option String
  clientId : Option String
  username : Option String
  tokenType : Option String
  exp : Option Int
  iat : Option Int
  sub : Option String
  iss : Option String
  jti : Option String
  deriving DecidableEq, Repr

/-- `IntrospectionResponse::inactive`. -/
def IntrospectionResponse.inactive : IntrospectionResponse :=
  ⟨false, none, none, none, none, none, none, none, none, none⟩

structure IntrospectionError where
  code : OAuthErrorCode
  description : String
  deriving DecidableEq, Repr

/-- `authenticate_confidential_client`. -/
def authenticateConfidentialClient (D : Deploy) (tenantId : TenantId) (clientId : String)
    (basicCredentials : Option (String × String)) : ServiceFlow IntrospectionError Client := do
  let row ← orLeave (db (.clients (.findByClientId tenantId clientId)))
    (fun e => ⟨.invalidClient, e.display⟩)
  let client ← found row ⟨.invalidClient, "unknown client"⟩
  ensure client.isActive ⟨.invalidClient, "client is disabled"⟩
  ensure (client.tokenEndpointAuthMethod = .clientSecretBasic)
    ⟨.invalidClient, "introspection requires confidential client (client_secret_basic)"⟩
  let (cid, secret) ← found basicCredentials
    ⟨.invalidClient, "client_secret_basic authentication required"⟩
  ensure (cid = clientId) ⟨.invalidClient, "client_id mismatch"⟩
  let hash ← found client.clientSecretHash ⟨.invalidClient, "client has no secret"⟩
  let ok ← orThrow (D.verifyPassword secret hash) (fun e => ⟨.serverError, e.display⟩)
  ensure ok ⟨.invalidClient, "client authentication failed"⟩
  return client

/-- `subject_is_active`. -/
def subjectIsActive (D : Deploy) (sub : String) : Service Bool := do
  match D.parseUuid sub with
  | none => return false
  | some sub =>
    match ← db (.users (.findBySub sub)) with
    | .ok (some user) => return user.isActive
    | _ => return false

/-- `introspect_access_token`. -/
def introspectAccessToken (D : Deploy) (token issuer : String) : Service IntrospectionResponse :=
  outcome (do
    let header ← orThrow (D.jwtDecodeHeader token) (fun _ => .inactive)
    ensure (header.typ = some "at+jwt") .inactive
    let kid ← found header.kid .inactive
    let row ← orLeave (db (.signingKeys (.findByKid kid))) (fun _ => .inactive)
    let key ← found row .inactive
    let decodingKey ← orThrow (decodingKeyFromPublicPem D key.publicKey) (fun _ => .inactive)
    let claims ← orThrow (D.jwtDecode token decodingKey accessTokenValidation) (fun _ => .inactive)
    ensure (claims.iss = issuer && claims.aud = userinfoAudience issuer) .inactive
    let now ← clockNow
    ensure (claims.exp + D.clockSkewSecs > DateTime.timestamp now) .inactive
    let revoked ← orLeave (isJtiRevoked claims.jti) (fun _ => .inactive)
    ensure (!revoked) .inactive
    ensure (← subjectIsActive D claims.sub) .inactive
    return {
      active := true
      scope := some claims.scope
      clientId := some claims.clientId
      username := none
      tokenType := some "Bearer"
      exp := some claims.exp
      iat := some claims.iat
      sub := some claims.sub
      iss := some claims.iss
      jti := some claims.jti })

/-- `introspect_refresh_token`. -/
def introspectRefreshToken (D : Deploy) (tenantId : TenantId) (token issuer : String) :
    Service IntrospectionResponse :=
  outcome (do
    let row ← orLeave (db (.refreshTokens (.findByHash tenantId (D.sha256Hex token))))
      (fun _ => .inactive)
    let rt ← found row .inactive
    let now ← clockNow
    ensure (rt.isValidAt now) .inactive
    let user ← orLeave (db (.users (.findById rt.userId))) (fun _ => .inactive)
    ensure (user.any (·.isActive)) .inactive
    return {
      active := true
      scope := some (joinScope rt.scope)
      clientId := some rt.clientId
      username := none
      tokenType := some "refresh_token"
      exp := some (DateTime.timestamp rt.expiresAt)
      iat := none
      sub := some (D.uuidToString rt.userId)
      iss := some issuer
      jti := none })

/-- `IntrospectionService::introspect`. -/
def introspect (D : Deploy) (tenantId : TenantId) (token : String) (tokenTypeHint : Option String)
    (clientId : String) (basicCredentials : Option (String × String)) :
    ServiceFlow IntrospectionError IntrospectionResponse := do
  if token = "" then
    return .inactive
  else
    let _ ← authenticateConfidentialClient D tenantId clientId basicCredentials
    let issuer := D.tenantIssuer tenantId
    if tokenTypeHint = some "refresh_token" then
      let resp ← introspectRefreshToken D tenantId token issuer
      if resp.active then return resp else introspectAccessToken D token issuer
    else
      let resp ← introspectAccessToken D token issuer
      if resp.active then return resp else introspectRefreshToken D tenantId token issuer

/-! ## `RevocationService` -/

structure RevocationError where
  code : OAuthErrorCode
  description : String
  deriving DecidableEq, Repr

/-- `load_client`. -/
def loadRevocationClient (D : Deploy) (tenantId : TenantId) (clientId : String)
    (basicCredentials : Option (String × String)) : ServiceFlow RevocationError Client := do
  let row ← orLeave (db (.clients (.findByClientId tenantId clientId)))
    (fun e => ⟨.serverError, e.display⟩)
  let client ← found row ⟨.invalidClient, "unknown client"⟩
  ensure client.isActive ⟨.invalidClient, "client is disabled"⟩
  if client.tokenEndpointAuthMethod = .clientSecretBasic then
    let (cid, secret) ← found basicCredentials
      ⟨.invalidClient, "client_secret_basic authentication required"⟩
    ensure (cid = clientId) ⟨.invalidClient, "client_id mismatch"⟩
    let hash ← found client.clientSecretHash ⟨.invalidClient, "client has no secret"⟩
    let ok ← orThrow (D.verifyPassword secret hash) (fun e => ⟨.serverError, e.display⟩)
    ensure ok ⟨.invalidClient, "client authentication failed"⟩
    return client
  else
    return client

/-- `try_revoke_refresh_token`: `true` unless the statement fails, whether or not a row matched. -/
def tryRevokeRefreshToken (D : Deploy) (token : String) (now : DateTime) : Service Bool := do
  match ← db (.refreshTokens (.revoke (D.sha256Hex token) now)) with
  | .ok () => return true
  | .error _ => return false

/-- `chrono::DateTime::from_timestamp(secs, 0)`, `none` outside chrono's range of years. -/
def fromTimestamp (secs : Int) : Option DateTime :=
  if -8334601228800 ≤ secs ∧ secs ≤ 8210266876799 then some (secs * 1000000) else none

/-- The `jti` and `exp` that `try_revoke_access_token` reads from a JWT, without its signature. -/
def readJti (D : Deploy) (token : String) : Option (String × Int) :=
  match splitN 3 '.' token.toList with
  | _ :: payload :: _ =>
    (D.base64UrlDecode (String.ofList payload)).bind fun bytes =>
      (D.jsonFromSlice bytes).bind fun claims =>
        (nonEmpty (claims.get "jti").asStr).map fun jti =>
          (jti, ((claims.get "exp").asI64).getD 0)
  | _ => none

/-- `try_revoke_access_token`. -/
def tryRevokeAccessToken (D : Deploy) (token : String) (now : DateTime) : Service Bool := do
  match readJti D token with
  | none => return false
  | some (jti, exp) =>
    match ← db (.revokedAccessTokens (.revoke ⟨jti, now, (fromTimestamp exp).getD now⟩)) with
    | .ok () => return true
    | .error _ => return false

/-- The two attempts of `revoke`: the hint decides which comes first. -/
def revokeToken (D : Deploy) (token : String) (tokenTypeHint : Option String) (now : DateTime) :
    Service Unit := do
  if tokenTypeHint = some "access_token" then
    if ← tryRevokeAccessToken D token now then return ()
    else
      let _ ← tryRevokeRefreshToken D token now
      return ()
  else
    if ← tryRevokeRefreshToken D token now then return ()
    else
      let _ ← tryRevokeAccessToken D token now
      return ()

/-- `RevocationService::revoke`. -/
def revoke (D : Deploy) (tenantId : TenantId) (token : String) (tokenTypeHint : Option String)
    (clientId : String) (basicCredentials : Option (String × String)) :
    ServiceFlow RevocationError Unit := do
  if token = "" then
    return ()
  else
    let _ ← loadRevocationClient D tenantId clientId basicCredentials
    let now ← clockNow
    liftM (revokeToken D token tokenTypeHint now)

end IdpMvp
