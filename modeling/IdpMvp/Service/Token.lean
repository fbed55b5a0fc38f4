import IdpMvp.Service.CodeIssuance

/-!
# The token endpoint

Model of `application/token.rs` (`TokenService`), with `KeyService::active_signing_key` of
`application/key_service.rs`, `sign` of `domain/jwt.rs` and the verifier check of `domain/pkce.rs`.
-/

namespace IdpMvp

open Program Program.Flow

/-! ## Signing (`key_service.rs`, `jwt.rs`) -/

structure ActiveSigningKey where
  kid : String
  algorithm : String
  privatePem : String
  deriving DecidableEq, Repr

/-- `KeyService::active_signing_key`. -/
def activeSigningKey (D : Deploy) : Service (Except String ActiveSigningKey) := do
  match ← db (.signingKeys .findActive) with
  | .error e => return .error ("find active key: " ++ e.display)
  | .ok none => return .error "no active signing key"
  | .ok (some key) =>
    match D.decrypt key.privateKeyEncrypted with
    | .error e => return .error e
    | .ok bytes =>
      match fromUtf8 bytes with
      | none => return .error "decrypted private key is not valid UTF-8"
      | some privatePem => return .ok ⟨key.kid, key.algorithm, privatePem⟩

/-- `jwt::sign`: the stored algorithm decides how the key is loaded and which `alg` is written. -/
def sign (D : Deploy) (privatePem kid typ algorithm : String) (claims : JwtClaims) :
    Except String String :=
  let signWith (context : String) (key : Except String EncodingKey) (alg : Algorithm) :
      Except String String :=
    match key with
    | .error e => .error (context ++ e)
    | .ok key =>
      (D.jwtEncode { alg, typ := some typ, kid := some kid } claims key).mapError ("jwt encode: " ++ ·)
  if algorithm = "RS256" then
    signWith "load RSA encoding key: " (D.encodingKeyFromRsaPem privatePem) .rs256
  else if algorithm = "ES256" then
    signWith "load EC encoding key: " (D.encodingKeyFromEcPem privatePem) .es256
  else .error ("unsupported signing algorithm: " ++ algorithm)

/-! ## Requests and answers -/

structure TokenCommand where
  grantType : Option String
  code : Option String
  redirectUri : Option String
  codeVerifier : Option String
  clientId : Option String
  basicCredentials : Option (String × String)
  refreshToken : Option String
  deriving DecidableEq, Repr

structure TokenError where
  code : OAuthErrorCode
  description : String
  deriving DecidableEq, Repr

structure IssuedTokens where
  accessToken : String
  idToken : String
  expiresIn : Nat
  scope : String
  refreshToken : Option String
  deriving DecidableEq, Repr

/-- `internal`. -/
def TokenError.internal : TokenError := ⟨.serverError, "internal server error"⟩

/-- The error `client_auth_failed` returns, whatever the reason it records. -/
def TokenError.clientAuthFailed : TokenError := ⟨.invalidClient, "client authentication failed"⟩

/-! ## Client and user -/

/-- `resolve_client_id`: the `Authorization` header comes first. -/
def resolveClientId (cmd : TokenCommand) : Except TokenError String :=
  match cmd.basicCredentials, cmd.clientId with
  | some (basicId, _), some bodyId =>
    if basicId ≠ bodyId then
      .error ⟨.invalidRequest, "client_id mismatch between Authorization header and body"⟩
    else .ok basicId
  | some (basicId, _), none => .ok basicId
  | none, some bodyId =>
    if bodyId ≠ "" then .ok bodyId
    else .error ⟨.invalidClient, "client authentication is required"⟩
  | none, none => .error ⟨.invalidClient, "client authentication is required"⟩

/-- `load_active_client`. -/
def loadActiveClient (tenantId : TenantId) (clientId : String) : ServiceFlow TokenError Client := do
  let row ← orLeave (db (.clients (.findByClientId tenantId clientId))) (fun _ => .internal)
  let client ← found row .clientAuthFailed
  ensure client.isActive .clientAuthFailed
  return client

/-- `authenticate_client`. -/
def authenticateClient (D : Deploy) (client : Client) (cmd : TokenCommand) :
    Except TokenError Unit :=
  match client.clientType with
  | .publicClient => .ok ()
  | .confidential =>
    match cmd.basicCredentials with
    | none => .error .clientAuthFailed
    | some (_, secret) =>
      if client.tokenEndpointAuthMethod ≠ .clientSecretBasic then .error .clientAuthFailed
      else
        match client.clientSecretHash with
        | none => .error .clientAuthFailed
        | some secretHash =>
          match D.verifyPassword secret secretHash with
          | .error _ => .error .internal
          | .ok true => .ok ()
          | .ok false => .error .clientAuthFailed

/-- The steps both grants start with: the client the request names, authenticated. -/
def tokenClient (D : Deploy) (tenantId : TenantId) (cmd : TokenCommand) :
    ServiceFlow TokenError String := do
  let clientId ← orThrow (resolveClientId cmd) id
  let client ← loadActiveClient tenantId clientId
  orThrow (authenticateClient D client cmd) id
  return clientId

/-- `load_active_user`. -/
def loadActiveUser (userId : Uuid) : ServiceFlow TokenError User := do
  let row ← orLeave (db (.users (.findById userId))) (fun _ => .internal)
  let user ← found row ⟨.invalidGrant, "user no longer exists"⟩
  ensure user.isActive ⟨.invalidGrant, "user is not active"⟩
  return user

/-! ## Claims -/

/-- The ID token both grants issue; they differ in `auth_time` and `nonce`. -/
def idTokenClaims (D : Deploy) (tenantId : TenantId) (user : User) (clientId : String)
    (scope : List String) (iat authTime : Int) (nonce jti : String) : IdTokenClaims :=
  let has (s : Scope) : Bool := scope.any (· = s.asStr)
  { iss := D.tenantIssuer tenantId
    sub := D.uuidToString user.sub
    aud := clientId
    exp := iat + D.idTokenTtlSecs
    iat
    authTime
    nonce
    jti
    email := if has .email then some user.email else none
    emailVerified := if has .email then some user.emailVerified else none
    preferredUsername := if has .profile then user.preferredUsername else none
    name := if has .profile then user.name else none }

/-- The access token both grants issue. -/
def accessTokenClaims (D : Deploy) (tenantId : TenantId) (user : User) (clientId : String)
    (scope : List String) (iat : Int) (jti : String) : AccessTokenClaims where
  iss := D.tenantIssuer tenantId
  sub := D.uuidToString user.sub
  aud := userinfoAudience (D.tenantIssuer tenantId)
  clientId := clientId
  scope := joinScope scope
  exp := iat + D.accessTokenTtlSecs
  iat := iat
  jti := jti

/-- `sign_id_token` and `sign_access_token`, which differ in `typ`. -/
def signToken (D : Deploy) (typ : String) (claims : JwtClaims) : ServiceFlow TokenError String := do
  let key ← orLeave (activeSigningKey D) (fun _ => .internal)
  orThrow (sign D key.privatePem key.kid typ key.algorithm claims) (fun _ => .internal)

/-- The two tokens of a grant: the ID token and the access token. -/
def signTokens (D : Deploy) (tenantId : TenantId) (user : User) (clientId : String)
    (scope : List String) (iat authTime : Int) (nonce : String) :
    ServiceFlow TokenError (String × String) := do
  let idJti ← uuidV4
  let accessJti ← uuidV4
  let idToken ← signToken D "JWT" (.idToken
    (idTokenClaims D tenantId user clientId scope iat authTime nonce (D.uuidToString idJti)))
  let accessToken ← signToken D "at+jwt" (.accessToken
    (accessTokenClaims D tenantId user clientId scope iat (D.uuidToString accessJti)))
  return (idToken, accessToken)

/-! ## `exchange_code` -/

/-- `is_valid_code_verifier` of `pkce.rs`. -/
def isValidCodeVerifier (verifier : String) : Bool :=
  43 ≤ verifier.utf8ByteSize && verifier.utf8ByteSize ≤ 128 &&
    verifier.toList.all fun c => c.isAlphanum || c = '-' || c = '.' || c = '_' || c = '~'

/-- `AuthorizationCodeRepository::consume`: the conditional `UPDATE` decides, the `SELECT` reads the
row back. -/
def consume (tenantId : TenantId) (codeHash : String) (usedAt : DateTime) :
    Service (DbResult (Option AuthorizationCode)) := do
  match ← db (.codes (.consumeUpdate tenantId codeHash usedAt)) with
  | .error e => return .error e
  | .ok 0 => return .ok none
  | .ok (_ + 1) => db (.codes (.consumeSelect codeHash))

/-- The refresh token a code grant creates. -/
def rootRefreshToken (D : Deploy) (tenantId : TenantId) (code : AuthorizationCode)
    (clientId plain : String) (now : DateTime) : RefreshToken where
  tokenHash := D.sha256Hex plain
  parentHash := none
  tenantId := tenantId
  userId := code.userId
  clientId := clientId
  scope := code.scope
  expiresAt := now + D.refreshTokenTtl
  revokedAt := none

/-- Step 9 of `exchange_code`: a refresh token when the scope has `offline_access`. -/
def issueRootRefreshToken (D : Deploy) (tenantId : TenantId) (code : AuthorizationCode)
    (clientId : String) (now : DateTime) : ServiceFlow TokenError (Option String) := do
  if code.scope.any (· = Scope.offlineAccess.asStr) then
    let plain ← randomToken 32
    orLeave (db (.refreshTokens (.create (rootRefreshToken D tenantId code clientId plain now))))
      (fun _ => .internal)
    return some plain
  else
    return none

/-- `TokenService::exchange_code`. -/
def exchangeCode (D : Deploy) (tenantId : TenantId) (cmd : TokenCommand) :
    ServiceFlow TokenError IssuedTokens := do
  -- 1, 2. The client.
  let clientId ← tokenClient D tenantId cmd
  -- 3. The form of the verifier.
  let verifier ← found (nonEmpty cmd.codeVerifier) ⟨.invalidRequest, "code_verifier is required"⟩
  ensure (isValidCodeVerifier verifier)
    ⟨.invalidRequest, "code_verifier must be 43-128 characters of [A-Za-z0-9-._~]"⟩
  -- 4. The code is consumed.
  let plain ← found (nonEmpty cmd.code) ⟨.invalidRequest, "code is required"⟩
  let now ← clockNow
  let row ← orLeave (consume tenantId (D.sha256Hex plain) now) (fun _ => .internal)
  let code ← found row
    ⟨.invalidGrant, "authorization code is invalid, expired, or already used"⟩
  -- 5. Client and redirect URI of the code.
  ensure (code.clientId = clientId)
    ⟨.invalidGrant, "authorization code was issued to another client"⟩
  ensure (cmd.redirectUri = some code.redirectUri)
    ⟨.invalidGrant, "redirect_uri does not match the authorization request"⟩
  -- 6. PKCE.
  ensure (D.s256 verifier = code.codeChallenge) ⟨.invalidGrant, "PKCE verification failed"⟩
  -- 7. The user.
  let user ← loadActiveUser code.userId
  -- 8, 9. The tokens.
  let (idToken, accessToken) ← signTokens D tenantId user clientId code.scope
    (DateTime.timestamp now) (DateTime.timestamp code.authTime) code.nonce
  let refreshToken ← issueRootRefreshToken D tenantId code clientId now
  return {
    accessToken
    idToken
    expiresIn := D.accessTokenTtlSecs
    scope := joinScope code.scope
    refreshToken }

/-! ## `exchange_refresh_token` -/

/-- The token a rotation creates. -/
def childRefreshToken (D : Deploy) (tenantId : TenantId) (stored : RefreshToken)
    (parentHash clientId plain : String) : RefreshToken where
  tokenHash := D.sha256Hex plain
  parentHash := some parentHash
  tenantId := tenantId
  userId := stored.userId
  clientId := clientId
  scope := stored.scope
  expiresAt := stored.expiresAt
  revokedAt := none

/-- `TokenService::exchange_refresh_token`. -/
def exchangeRefreshToken (D : Deploy) (tenantId : TenantId) (cmd : TokenCommand) :
    ServiceFlow TokenError IssuedTokens := do
  -- 1. The client.
  let clientId ← tokenClient D tenantId cmd
  -- 2. The token.
  let plain ← found (nonEmpty cmd.refreshToken) ⟨.invalidRequest, "refresh_token is required"⟩
  let hash := D.sha256Hex plain
  let now ← clockNow
  -- 3, 4. Its row, of this tenant and this client.
  let row ← orLeave (db (.refreshTokens (.findByHash tenantId hash))) (fun _ => .internal)
  let stored ← found row ⟨.invalidGrant, "refresh_token not found"⟩
  ensure (stored.clientId = clientId)
    ⟨.invalidGrant, "refresh_token was issued to another client"⟩
  -- 5. Reuse detection.
  let alreadyRotated ← orLeave (db (.refreshTokens (.existsByParentHash hash)))
    (fun _ => .internal)
  ensureOr (!alreadyRotated) (do
    let _ ← db (.refreshTokens (.revoke hash now))
    return ⟨.invalidGrant, "refresh_token has already been used"⟩)
  -- 6. Validity.
  ensure (stored.isValidAt now) ⟨.invalidGrant, "refresh_token is revoked or expired"⟩
  -- 7. The user.
  let user ← loadActiveUser stored.userId
  -- 8. The presented token is revoked.
  orLeave (db (.refreshTokens (.revoke hash now))) (fun _ => .internal)
  -- 9, 10. The new tokens.
  let (idToken, accessToken) ← signTokens D tenantId user clientId stored.scope
    (DateTime.timestamp now) (DateTime.timestamp now) ""
  let newPlain ← randomToken 32
  orLeave (db (.refreshTokens (.create
    (childRefreshToken D tenantId stored hash clientId newPlain)))) (fun _ => .internal)
  return {
    accessToken
    idToken
    expiresIn := D.accessTokenTtlSecs
    scope := joinScope stored.scope
    refreshToken := some newPlain }

/-- `TokenService::exchange`. -/
def exchange (D : Deploy) (tenantId : TenantId) (cmd : TokenCommand) :
    Service (Except TokenError IssuedTokens) :=
  if cmd.grantType = some "authorization_code" then (exchangeCode D tenantId cmd).run
  else if cmd.grantType = some "refresh_token" then (exchangeRefreshToken D tenantId cmd).run
  else
    return .error ⟨.unsupportedGrantType,
      "grant_type must be `authorization_code` or `refresh_token`"⟩

end IdpMvp
