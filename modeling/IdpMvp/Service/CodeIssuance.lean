import IdpMvp.Store.Ops

/-!
# Issuing codes and SSO sessions

Model of `application/code_issuance.rs`, of the redirect URLs of `application/authorize.rs`, and of
the two blocks that `login.rs`, `mfa_login.rs`, `change_password.rs` and `passkey_authentication.rs`
repeat word for word: creating the SSO session, and the consent check that ends in a code.
-/

namespace IdpMvp

open Program

/-- `RequestContext` of `audit.rs`. -/
structure RequestContext where
  ipAddress : Option String
  userAgent : Option String
  deriving DecidableEq, Repr

/-! ## Redirects (`authorize.rs`) -/

/-- `code_redirect`; `none` where its `expect` on the URL panics. -/
def codeRedirect (D : Deploy) (redirectUri code state : String) : Option String :=
  (D.urlParse redirectUri).map fun url =>
    D.urlToString (D.urlAppendPair (D.urlAppendPair url "code" code) "state" state)

/-- `error_redirect_with_state`; `none` where its `expect` on the URL panics. -/
def errorRedirectWithState (D : Deploy) (redirectUri : String) (error : OAuthErrorCode)
    (description : String) (state : Option String) : Option String :=
  (D.urlParse redirectUri).map fun url =>
    let url := D.urlAppendPair url "error" error.asStr
    let url := D.urlAppendPair url "error_description" description
    D.urlToString (match state with
      | some state => D.urlAppendPair url "state" state
      | none => url)

/-! ## Codes (`code_issuance.rs`) -/

/-- `IssueCodeCommand`. -/
structure IssueCodeCommand where
  tenantId : TenantId
  userId : Uuid
  clientId : String
  redirectUri : String
  scope : List String
  nonce : String
  authTime : DateTime
  codeChallenge : String
  codeChallengeMethod : CodeChallengeMethod

/-- The row `CodeIssuanceService::issue` stores for a plain code at a time. -/
def IssueCodeCommand.record (D : Deploy) (cmd : IssueCodeCommand) (code : String) (now : DateTime) :
    AuthorizationCode where
  codeHash := D.sha256Hex code
  tenantId := cmd.tenantId
  userId := cmd.userId
  clientId := cmd.clientId
  redirectUri := cmd.redirectUri
  scope := cmd.scope
  nonce := cmd.nonce
  authTime := cmd.authTime
  codeChallenge := cmd.codeChallenge
  codeChallengeMethod := cmd.codeChallengeMethod
  expiresAt := now + D.codeTtl
  usedAt := none

/-- `CodeIssuanceService::issue`. -/
def issueCode (D : Deploy) (cmd : IssueCodeCommand) : Service (DbResult String) := do
  let code ← randomToken 32
  let now ← clockNow
  match ← db (.codes (.create (cmd.record D code now))) with
  | .error e => return .error e
  | .ok () => return .ok code

/-- The command a flow hands to `issue`, from its auth session. -/
def AuthSession.issueCommand (session : AuthSession) (tenantId : TenantId) (userId : Uuid)
    (authTime : DateTime) : IssueCodeCommand where
  tenantId := tenantId
  userId := userId
  clientId := session.clientId
  redirectUri := session.redirectUri
  scope := session.scope
  nonce := session.nonce
  authTime := authTime
  codeChallenge := session.codeChallenge
  codeChallengeMethod := session.codeChallengeMethod

/-! ## The shared ends of the login services -/

/-- The SSO session of a login at `now`. -/
def ssoSessionFor (D : Deploy) (ssoSessionId : String) (userId : Uuid) (now : DateTime)
    (ctx : RequestContext) : SsoSession where
  sessionHash := D.sha256Hex ssoSessionId
  userId := userId
  authTime := now
  idleExpiresAt := now + D.ssoIdleTtl
  absoluteExpiresAt := now + D.ssoAbsoluteTtl
  userAgent := ctx.userAgent
  ipAddress := ctx.ipAddress

/-- Creation of the SSO session; the result is the plain session id for the cookie. -/
def createSsoSession (D : Deploy) (userId : Uuid) (now : DateTime) (ctx : RequestContext) :
    Service (DbResult String) := do
  let ssoSessionId ← randomHex 32
  match ← db (.ssoSessions (.create (ssoSessionFor D ssoSessionId userId now ctx))) with
  | .error e => return .error e
  | .ok () => return .ok ssoSessionId

/-- Scopes other than `openid`, which is consented to implicitly. -/
def scopesNeedingConsent (scope : List String) : List String := scope.filter (· ≠ "openid")

/-- The stored consent of a user covers the scopes that need one. -/
def hasConsent (tenantId : TenantId) (userId : Uuid) (clientId : String) (scope : List String) :
    Service (DbResult Bool) := do
  if (scopesNeedingConsent scope).isEmpty then
    return .ok true
  else
    match ← db (.consents (.find tenantId userId clientId)) with
    | .error e => return .error e
    | .ok (some consent) => return .ok (consent.covers (scopesNeedingConsent scope))
    | .ok none => return .ok false

/-- How an authenticated flow ends. -/
inductive FlowEnd where
  | internal (detail : String)
  | consentRequired
  | issued (location : Option String)
  deriving DecidableEq, Repr

/-- The consent check, the code and the deletion of the auth session. -/
def finishFlow (D : Deploy) (tenantId : TenantId) (session : AuthSession) (userId : Uuid)
    (now : DateTime) : Service FlowEnd := do
  match ← hasConsent tenantId userId session.clientId session.scope with
  | .error e => return .internal e.display
  | .ok false => return .consentRequired
  | .ok true =>
    match ← issueCode D (session.issueCommand tenantId userId now) with
    | .error e => return .internal e.display
    | .ok code =>
      -- A failed deletion is only logged.
      let _ ← db (.authSessions (.delete session.id))
      return .issued (codeRedirect D session.redirectUri code session.state)

end IdpMvp
