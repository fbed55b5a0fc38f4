import IdpMvp.Service.Login

/-!
# Consent and authorization

Model of `application/consent.rs` (`ConsentService`) and `application/authorize.rs`
(`AuthorizeService`).
-/

namespace IdpMvp

open Program Program.Flow

/-! ## `ConsentService` -/

structure ConsentInfo where
  authSessionId : String
  clientName : String
  clientId : String
  requestedScopes : List String
  deriving DecidableEq, Repr

inductive ConsentOutcome where
  | approved (location : Option String)
  | denied (location : Option String)
  | sessionExpired
  | internal (detail : String)
  deriving DecidableEq, Repr

/-- `ConsentService::info`. -/
def consentInfo (tenantId : TenantId) (authSessionId : String) :
    Service (DbResult (Option ConsentInfo)) :=
  outcome (do
    let now ← clockNow
    let row ← orLeave (db (.authSessions (.findById tenantId authSessionId))) .error
    let session ← found row (.ok none)
    ensureOr (!session.isExpiredAt now) (do
      let _ ← db (.authSessions (.delete session.id))
      return .ok none)
    ensure session.authenticatedUserId.isSome (.ok none)
    let client ← orLeave (db (.clients (.findByClientId tenantId session.clientId))) .error
    return .ok (some {
      authSessionId := session.id
      clientName := match client with
        | some c => c.appName
        | none => session.clientId
      clientId := session.clientId
      requestedScopes := scopesNeedingConsent session.scope }))

/-- `ConsentService::approve`. -/
def approve (D : Deploy) (tenantId : TenantId) (authSessionId : String) : Service ConsentOutcome :=
  outcome (do
    let now ← clockNow
    let session ← loadAuthSession tenantId authSessionId now .sessionExpired .internal
    let userId ← found session.authenticatedUserId .sessionExpired
    let authTime ← found session.authTime .sessionExpired
    orLeave (db (.consents (.upsert ⟨userId, tenantId, session.clientId, session.scope⟩)))
      (.internal ·.display)
    let code ← orLeave (issueCode D (session.issueCommand tenantId userId authTime))
      (.internal ·.display)
    -- A failed deletion is only logged.
    let _ ← db (.authSessions (.delete session.id))
    return .approved (codeRedirect D session.redirectUri code session.state))

/-- `ConsentService::deny`. -/
def deny (D : Deploy) (tenantId : TenantId) (authSessionId : String) : Service ConsentOutcome :=
  outcome (do
    let now ← clockNow
    let session ← loadAuthSession tenantId authSessionId now .sessionExpired .internal
    let _ ← db (.authSessions (.delete session.id))
    return .denied (errorRedirectWithState D session.redirectUri .accessDenied "user denied consent"
      (some session.state)))

/-! ## `AuthorizeService` -/

structure AuthorizeRequest where
  responseType : Option String
  clientId : Option String
  redirectUri : Option String
  scope : Option String
  state : Option String
  nonce : Option String
  codeChallenge : Option String
  codeChallengeMethod : Option String
  ssoSessionId : Option String
  prompt : Option String
  maxAge : Option UInt64
  deriving DecidableEq, Repr

inductive AuthorizeOutcome where
  | redirect (location : Option String)
  | loginRequired (authSessionId : String)
  | consentRequired (authSessionId : String)
  | errorRedirect (location : Option String)
  | fatalError (error : OAuthErrorCode) (description : String)
  deriving DecidableEq, Repr

/-- The scopes of a request, split at white space. -/
def AuthorizeRequest.scopes (req : AuthorizeRequest) : List String :=
  splitWhitespace (req.scope.getD "")

/-- `validate_request`: everything but `client_id` and `redirect_uri`. -/
def validateRequest (req : AuthorizeRequest) (client : Client) :
    Except (OAuthErrorCode × String) Unit :=
  if req.responseType ≠ some "code" then
    .error (.unsupportedResponseType, "response_type must be `code`")
  else if !client.responseTypes.any (· = "code") ||
      !client.grantTypes.any (· = "authorization_code") then
    .error (.unauthorizedClient, "client is not allowed to use the authorization code flow")
  else if !req.scopes.any (· = Scope.openId.asStr) then
    .error (.invalidScope, "scope must include `openid`")
  else if !client.allowsScopes req.scopes then
    .error (.invalidScope, "requested scope exceeds the client's registered scopes")
  else if (nonEmpty req.state).isNone then
    .error (.invalidRequest, "state is required")
  else if (nonEmpty req.nonce).isNone then
    .error (.invalidRequest, "nonce is required")
  else if req.codeChallengeMethod ≠ some CodeChallengeMethod.s256.asStr then
    .error (.invalidRequest, "code_challenge_method must be `S256`")
  else if (nonEmpty req.codeChallenge).isNone then
    .error (.invalidRequest, "code_challenge is required")
  else
    .ok ()

/-- `check_consent`: a failed lookup counts as no consent. -/
def checkConsent (tenantId : TenantId) (userId : Uuid) (clientId : String) (scope : List String) :
    Service Bool := do
  match ← hasConsent tenantId userId clientId scope with
  | .ok consented => return consented
  | .error _ => return false

/-- `try_resume_sso`: the user and the authentication time of a valid SSO session, whose idle
deadline is extended. -/
def tryResumeSso (D : Deploy) (tenantId : TenantId) (sessionId : String) :
    Service (DbResult (Option (Uuid × DateTime))) :=
  outcome (do
    let hash := D.sha256Hex sessionId
    let row ← orLeave (db (.ssoSessions (.findByHash hash))) .error
    let session ← found row (.ok none)
    let now ← clockNow
    ensureOr (session.isValidAt now) (do
      match ← db (.ssoSessions (.delete hash)) with
      | .error e => return .error e
      | .ok () => return .ok none)
    let user ← orLeave (db (.users (.findById session.userId))) .error
    ensure (user.any fun u => u.isActive && !u.isLockedAt now) (.ok none)
    let member ← orLeave (db (.memberships (.isActiveMember tenantId session.userId))) .error
    ensure member (.ok none)
    orLeave (db (.ssoSessions (.extendIdle hash (now + D.ssoIdleTtl)))) .error
    return .ok (some (session.userId, session.authTime)))

/-- `max_age as i64`. -/
def maxAgeSecs (maxAge : UInt64) : Int := maxAge.toBitVec.toInt

/-- `max_age` is exceeded: the clock is read only when the parameter is present. -/
def maxAgeExceeded (maxAge : Option UInt64) (authTime : DateTime) : Service Bool := do
  match maxAge with
  | none => return false
  | some maxAge =>
    let now ← clockNow
    return Duration.numSeconds (now - authTime) > maxAgeSecs maxAge

/-- A validated request: what the rest of `authorize` reads of it. -/
structure AuthorizeFlow where
  tenantId : TenantId
  client : Client
  redirectUri : String
  scope : List String
  state : String
  nonce : String
  codeChallenge : String
  deriving DecidableEq, Repr

/-- The auth session `authorize` creates, with the authentication it carries over. -/
def AuthorizeFlow.authSession (D : Deploy) (f : AuthorizeFlow) (id : String) (now : DateTime)
    (authentication : Option (Uuid × DateTime)) : AuthSession where
  id := id
  tenantId := f.tenantId
  clientId := f.client.clientId
  redirectUri := f.redirectUri
  scope := f.scope
  state := f.state
  nonce := f.nonce
  codeChallenge := f.codeChallenge
  codeChallengeMethod := .s256
  authenticatedUserId := authentication.map (·.1)
  authTime := authentication.map (·.2)
  passwordVerifiedAt := none
  expiresAt := now + D.authSessionTtl

/-- The code `authorize` issues for a resumed SSO session. -/
def AuthorizeFlow.issueCommand (f : AuthorizeFlow) (userId : Uuid) (authTime : DateTime) :
    IssueCodeCommand where
  tenantId := f.tenantId
  userId := userId
  clientId := f.client.clientId
  redirectUri := f.redirectUri
  scope := f.scope
  nonce := f.nonce
  authTime := authTime
  codeChallenge := f.codeChallenge
  codeChallengeMethod := .s256

/-- An error on the redirect URI of the request. -/
def AuthorizeFlow.errorRedirect (D : Deploy) (f : AuthorizeFlow) (error : OAuthErrorCode)
    (description : String) : AuthorizeOutcome :=
  .errorRedirect (errorRedirectWithState D f.redirectUri error description (some f.state))

/-- Creates the auth session of a flow and answers with its id. -/
def startSession (D : Deploy) (f : AuthorizeFlow) (authentication : Option (Uuid × DateTime))
    (failure : String) (answer : String → AuthorizeOutcome) : Service AuthorizeOutcome := do
  let now ← clockNow
  let id ← randomHex 32
  match ← db (.authSessions (.create (f.authSession D id now authentication))) with
  | .error _ => return f.errorRedirect D .serverError failure
  | .ok () => return answer id

/-- Step 4 of `authorize`: no SSO session was resumed. -/
def requireLogin (D : Deploy) (f : AuthorizeFlow) (promptNone : Bool) : Service AuthorizeOutcome :=
  if promptNone then
    return f.errorRedirect D .loginRequired "login required"
  else
    startSession D f none "failed to start authorization" .loginRequired

/-- The branch of `authorize` for a resumed SSO session within `max_age`. -/
def resumed (D : Deploy) (f : AuthorizeFlow) (forceConsent promptNone : Bool) (userId : Uuid)
    (authTime : DateTime) : Service AuthorizeOutcome := do
  let consented ←
    if forceConsent then pure false
    else checkConsent f.tenantId userId f.client.clientId f.scope
  if consented then
    match ← issueCode D (f.issueCommand userId authTime) with
    | .ok code => return .redirect (codeRedirect D f.redirectUri code f.state)
    | .error _ => return f.errorRedirect D .serverError "failed to issue authorization code"
  else if promptNone then
    return f.errorRedirect D .consentRequired "consent required"
  else
    startSession D f (some (userId, authTime)) "failed to start consent" .consentRequired

/-- Steps 3 and 4 of `authorize`. -/
def authorizeFlow (D : Deploy) (f : AuthorizeFlow) (req : AuthorizeRequest) :
    Service AuthorizeOutcome := do
  let promptNone := req.prompt = some "none"
  match nonEmpty req.ssoSessionId with
  | none => requireLogin D f promptNone
  | some sessionId =>
    if req.prompt = some "login" then
      requireLogin D f promptNone
    else
      match ← tryResumeSso D f.tenantId sessionId with
      | .ok (some (userId, authTime)) =>
        if ← maxAgeExceeded req.maxAge authTime then
          if promptNone then
            return f.errorRedirect D .loginRequired "max_age exceeded, re-authentication required"
          else
            requireLogin D f promptNone
        else
          resumed D f (req.prompt = some "consent") promptNone userId authTime
      -- A failed lookup falls back to the login.
      | .ok none | .error _ => requireLogin D f promptNone

/-- `AuthorizeService::authorize`. -/
def authorize (D : Deploy) (tenantId : TenantId) (req : AuthorizeRequest) :
    Service AuthorizeOutcome :=
  outcome (do
    -- 1. Client and redirect URI; errors here are not redirected.
    let clientId ← found (nonEmpty req.clientId)
      (.fatalError .invalidRequest "client_id is required")
    let row ← orLeave (db (.clients (.findByClientId tenantId clientId)))
      (fun _ => .fatalError .serverError "internal error")
    let client ← found row (.fatalError .invalidClient "unknown client_id")
    ensure client.isActive (.fatalError .invalidClient "client is not active")
    let redirectUri ← found (nonEmpty req.redirectUri)
      (.fatalError .invalidRequest "redirect_uri is required")
    ensure (client.allowsRedirectUri redirectUri)
      (.fatalError .invalidRequest "redirect_uri is not registered")
    -- 2. The other parameters.
    orThrow (validateRequest req client) (fun (error, description) =>
      .errorRedirect (errorRedirectWithState D redirectUri error description (nonEmpty req.state)))
    -- 3, 4. `validate_request` has checked that the three parameters are present.
    liftM (authorizeFlow D
      { tenantId, client, redirectUri, scope := req.scopes, state := req.state.getD "",
        nonce := req.nonce.getD "", codeChallenge := req.codeChallenge.getD "" } req))

end IdpMvp
