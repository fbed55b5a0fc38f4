import IdpMvp.Service.CodeIssuance

/-!
# Login on an auth session

Model of `application/login.rs`, `application/mfa_login.rs` and `application/change_password.rs`:
the three services that authenticate the user of an auth session. A Rust `return` of an outcome is a
`throw` here; the numbered comments are the source's.
-/

namespace IdpMvp

open Program Program.Flow

/-- The auth session of a request, within the tenant of the flow; an expired one is deleted. -/
def loadAuthSession {ε : Type} (tenantId : TenantId) (sessionId : String) (now : DateTime)
    (expired : ε) (internal : String → ε) : ServiceFlow ε AuthSession := do
  let row ← orLeave (db (.authSessions (.findById tenantId sessionId))) (internal ·.display)
  let session ← found row expired
  ensureOr (!session.isExpiredAt now) (do
    let _ ← db (.authSessions (.delete session.id))
    return expired)
  return session

/-- `user_has_confirmed_totp` of `mfa_login.rs`. -/
def userHasConfirmedTotp (userId : Uuid) : Service (DbResult Bool) := do
  match ← db (.totpSecrets (.findByUserId userId)) with
  | .error e => return .error e
  | .ok none => return .ok false
  | .ok (some secret) => return .ok secret.isConfirmed

/-! ## `LoginService::login` -/

def maxFailedLogins : Int := 10

def lockDurationMinutes : Int := 15

structure LoginCommand where
  authSessionId : Option String
  username : String
  password : String
  csrfToken : String
  deriving DecidableEq, Repr

inductive LoginOutcome where
  | success (location : Option String) (ssoSessionId : String) (userLanguage : Option String)
  | consentRequired (authSessionId ssoSessionId : String)
  | mfaRequired (authSessionId : String)
  | passwordChangeRequired (authSessionId : String)
  | emailVerificationRequired
  | sessionExpired
  | csrfMismatch
  | rateLimited
  | invalidCredentials
  | locked
  | internal (detail : String)
  deriving DecidableEq, Repr

/-- What every `handle_password_failure` does: it counts the failure and locks the account at the
threshold. -/
def countPasswordFailure {ε : Type} (user : User) (locked invalidCredentials : ε)
    (internal : String → ε) : Service ε := do
  let now ← clockNow
  let failed := user.failedLoginCount + 1
  let lockedUntil :=
    if failed ≥ maxFailedLogins then some (now + Duration.minutes lockDurationMinutes) else none
  match ← db (.users (.updateLoginState user.id failed lockedUntil)) with
  | .error e => return internal e.display
  | .ok () => return if lockedUntil.isSome then locked else invalidCredentials

/-- The rate limit of an address; a request without one is not limited. -/
def rateLimitAddress {ε : Type} (address : Option String) (now : DateTime) (limited : ε) :
    ServiceFlow ε Unit :=
  match address with
  | none => pure ()
  | some ip => do ensure (← checkAndRecord ip now) limited

/-- The user has failures or a lock to reset. -/
def User.hasLoginFailures (user : User) : Bool :=
  user.failedLoginCount > 0 || user.lockedUntil.isSome

/-- The steps a login by name starts with everywhere: rate limit, user, lock and account status. -/
def findLoginUser {ε : Type} (tenantId : TenantId) (username : String) (ctx : RequestContext)
    (now : DateTime) (rateLimited invalidCredentials locked : ε) (internal : String → ε) :
    ServiceFlow ε User := do
  rateLimitAddress ctx.ipAddress now rateLimited
  let row ← orLeave (db (.users (.findByUsername tenantId username))) (internal ·.display)
  let user ← found row invalidCredentials
  ensure (!user.isLockedAt now) locked
  ensure user.isActive invalidCredentials
  return user

/-- The password of a login by name, counting a failure. -/
def checkLoginPassword {ε : Type} (D : Deploy) (password : String) (user : User)
    (invalidCredentials locked : ε) (internal : String → ε) : ServiceFlow ε Unit := do
  let verified ← orThrow (D.verifyPassword password user.passwordHash) (internal ·.display)
  ensureOr verified (countPasswordFailure user locked invalidCredentials internal)

/-- Reset of the failure counter. -/
def resetLoginFailures {ε : Type} (user : User) (internal : String → ε) : ServiceFlow ε Unit :=
  onlyIf user.hasLoginFailures
    (orLeave (db (.users (.updateLoginState user.id 0 none))) (internal ·.display))

/-- Steps 1 to 8.1 of `login`: the session, the CSRF token, the rate limit and the credentials. -/
def loginChecks (D : Deploy) (tenantId : TenantId) (cmd : LoginCommand) (ctx : RequestContext)
    (now : DateTime) : ServiceFlow LoginOutcome (AuthSession × User) := do
  -- 1. The auth session of the cookie.
  let sessionId ← found (nonEmpty cmd.authSessionId) .sessionExpired
  let session ← loadAuthSession tenantId sessionId now .sessionExpired .internal
  -- 2. CSRF.
  ensure (D.loginCsrfToken session.id = cmd.csrfToken) .csrfMismatch
  -- 3 to 6. Rate limit by address, user, lock and account status.
  let user ← findLoginUser tenantId cmd.username ctx now .rateLimited .invalidCredentials .locked
    .internal
  -- 7, 8. The password, and the reset of the failure counter.
  checkLoginPassword D cmd.password user .invalidCredentials .locked .internal
  resetLoginFailures user .internal
  -- 8.1. The mail address gate.
  ensure user.emailVerified .emailVerificationRequired
  return (session, user)

/-- Records that the password was right while something else is still pending. -/
def leavePending (session : AuthSession) (user : User) (now : DateTime) (pending : LoginOutcome) :
    Service LoginOutcome := do
  match ← db (.authSessions (.setPasswordVerified session.id user.id now)) with
  | .error e => return .internal e.display
  | .ok () => return pending

/-- `LoginService::login`. -/
def login (D : Deploy) (tenantId : TenantId) (cmd : LoginCommand) (ctx : RequestContext) :
    Service LoginOutcome :=
  outcome (do
    let now ← clockNow
    let (session, user) ← loginChecks D tenantId cmd ctx now
    -- 8.5. A forced password change comes before everything else.
    ensureOr (!user.mustChangePassword)
      (leavePending session user now (.passwordChangeRequired session.id))
    -- 9. A confirmed TOTP secret asks for the second factor.
    let hasTotp ← orLeave (userHasConfirmedTotp user.id) (.internal ·.display)
    ensureOr (!hasTotp) (leavePending session user now (.mfaRequired session.id))
    -- 10. The SSO session, then the result on the auth session.
    let ssoSessionId ← orLeave (createSsoSession D user.id now ctx) (.internal ·.display)
    orLeave (db (.authSessions (.setAuthenticatedUser session.id user.id now))) (.internal ·.display)
    -- 11 to 13. Consent, code, deletion of the auth session.
    match ← finishFlow D tenantId session user.id now with
    | .internal e => return .internal e
    | .consentRequired => return .consentRequired session.id ssoSessionId
    | .issued location => return .success location ssoSessionId user.language)

/-! ## `MfaLoginService::verify` -/

structure MfaLoginCommand where
  authSessionId : Option String
  totpCode : String
  csrfToken : String
  deriving DecidableEq, Repr

inductive MfaLoginOutcome where
  | success (location : Option String) (ssoSessionId : String) (userLanguage : Option String)
  | consentRequired (authSessionId ssoSessionId : String)
  | sessionExpired
  | csrfMismatch
  | invalidCode
  | internal (detail : String)
  deriving DecidableEq, Repr

/-- Steps 1 to 3 of `verify` and `change`: a session on which a password was verified, and the CSRF
token of the cookie's value. -/
def loadPendingSession {ε : Type} (D : Deploy) (tenantId : TenantId) (authSessionId : Option String)
    (csrfToken : String) (now : DateTime) (expired csrfMismatch : ε) (internal : String → ε) :
    ServiceFlow ε (AuthSession × Uuid) := do
  let sessionId ← found (nonEmpty authSessionId) expired
  let session ← loadAuthSession tenantId sessionId now expired internal
  let userId ← found session.authenticatedUserId expired
  ensure session.passwordVerifiedAt.isSome expired
  ensure (D.loginCsrfToken sessionId = csrfToken) csrfMismatch
  return (session, userId)

/-- A confirmed TOTP secret, or nothing (`Ok(Some(r)) if r.is_confirmed()`). -/
def confirmedSecret (row : Option TotpSecret) : Option TotpSecret := row.filter (·.isConfirmed)

/-- The TOTP code against the user's confirmed secret (step 5 of `verify`, step 4 of the portal's
`verify_mfa`). -/
def checkTotpCode {ε : Type} (D : Deploy) (userId : Uuid) (code : String) (expired invalidCode : ε)
    (internal : String → ε) : ServiceFlow ε Unit := do
  let row ← orLeave (db (.totpSecrets (.findByUserId userId))) (internal ·.display)
  let secret ← found (confirmedSecret row) expired
  let bytes ← orThrow (D.decrypt secret.secretEncrypted) internal
  -- The text of `TotpRegistrationError::Internal`.
  let valid ← orLeave (verifyTotpCode bytes code) fun e => internal ("internal error: " ++ e)
  ensure valid invalidCode

/-- `MfaLoginService::verify`. -/
def mfaVerify (D : Deploy) (tenantId : TenantId) (cmd : MfaLoginCommand) (ctx : RequestContext) :
    Service MfaLoginOutcome :=
  outcome (do
    let now ← clockNow
    -- 1 to 3. The session, its pending state and the CSRF token.
    let (session, userId) ← loadPendingSession D tenantId cmd.authSessionId cmd.csrfToken now
      .sessionExpired .csrfMismatch .internal
    -- 4. The user.
    let row ← orLeave (db (.users (.findById userId))) (.internal ·.display)
    let user ← found row .sessionExpired
    ensure user.isActive (.internal "user not active")
    -- 5. The code.
    checkTotpCode D userId cmd.totpCode .sessionExpired .invalidCode .internal
    -- 6, 7. The result on the auth session, then the SSO session.
    orLeave (db (.authSessions (.setAuthenticatedUser session.id userId now))) (.internal ·.display)
    let ssoSessionId ← orLeave (createSsoSession D userId now ctx) (.internal ·.display)
    -- 8 to 10. Consent, code, deletion of the auth session.
    match ← finishFlow D tenantId session userId now with
    | .internal e => return .internal e
    | .consentRequired => return .consentRequired session.id ssoSessionId
    | .issued location => return .success location ssoSessionId user.language)

/-- `MfaLoginService::has_mfa_pending`. -/
def hasMfaPending (tenantId : TenantId) (authSessionId : String) : Service Bool := do
  match ← db (.authSessions (.findById tenantId authSessionId)) with
  | .ok (some session) =>
    return session.passwordVerifiedAt.isSome && session.authenticatedUserId.isSome
  | _ => return false

/-! ## `ChangePasswordService::change` -/

structure ChangePasswordCommand where
  authSessionId : Option String
  currentPassword : String
  newPassword : String
  csrfToken : String
  deriving DecidableEq, Repr

inductive ChangePasswordOutcome where
  | success (location : Option String) (ssoSessionId : String)
  | consentRequired (authSessionId ssoSessionId : String)
  | sessionExpired
  | csrfMismatch
  | invalidCurrentPassword
  | weakPassword
  | internal (detail : String)
  deriving DecidableEq, Repr

/-- `validate_password_strength(..).is_err()` is false. -/
def isStrongPassword (password : String) : Bool := (validatePasswordStrength password).isOk

/-- `ChangePasswordService::change`. -/
def changePassword (D : Deploy) (tenantId : TenantId) (cmd : ChangePasswordCommand)
    (ctx : RequestContext) : Service ChangePasswordOutcome :=
  outcome (do
    let now ← clockNow
    -- 1 to 3. The session, its pending state and the CSRF token.
    let (session, userId) ← loadPendingSession D tenantId cmd.authSessionId cmd.csrfToken now
      .sessionExpired .csrfMismatch .internal
    -- 4. The user, who must still have to change the password.
    let row ← orLeave (db (.users (.findById userId))) (.internal ·.display)
    let user ← found row .sessionExpired
    ensure (user.isActive && user.mustChangePassword) .sessionExpired
    -- 5. The current password.
    let verified ← orThrow (D.verifyPassword cmd.currentPassword user.passwordHash)
      (.internal ·.display)
    ensure verified .invalidCurrentPassword
    -- 6. The new password.
    ensure (isStrongPassword cmd.newPassword) .weakPassword
    let newHash ← orLeave (hashPassword cmd.newPassword) (.internal ·.display)
    orLeave (db (.users (.updatePassword user.id newHash))) (.internal ·.display)
    -- 7, 8. The result on the auth session, then the SSO session.
    orLeave (db (.authSessions (.setAuthenticatedUser session.id user.id now))) (.internal ·.display)
    let ssoSessionId ← orLeave (createSsoSession D user.id now ctx) (.internal ·.display)
    -- 9 to 11. Consent, code, deletion of the auth session.
    match ← finishFlow D tenantId session user.id now with
    | .internal e => return .internal e
    | .consentRequired => return .consentRequired session.id ssoSessionId
    | .issued location => return .success location ssoSessionId)

end IdpMvp
