import IdpMvp.Service.Login
import IdpMvp.Service.Permission

/-!
# Logins beside the authorization flow

Model of `application/portal_login.rs` and `application/admin_login.rs`, which create SSO sessions
without an auth session, and of `application/passkey_authentication.rs`. The portal asks for the
second factor with a signed ticket; the admin console asks for an admin permission instead.
-/

namespace IdpMvp

open Program Program.Flow

/-! ## MFA tickets (`portal_login.rs`) -/

def mfaTicketTtlSecs : Int := 300

/-- The text `ticket_signature` authenticates. -/
def ticketMessage (tenant user : String) (exp : Int) : String :=
  "portal-mfa:" ++ tenant ++ ":" ++ user ++ ":" ++ toString exp

/-- `sign_ticket`: `{tenant}.{user}.{exp}.{hmac_hex}`. -/
def signTicket (D : Deploy) (tenant user : Uuid) (exp : Int) : String :=
  let tenant := D.uuidToString tenant
  let user := D.uuidToString user
  tenant ++ "." ++ user ++ "." ++ toString exp ++ "." ++
    hexEncode (D.hmacSha256 D.ticketSecret (ticketMessage tenant user exp))

/-- The value of decimal digits, `none` when a character is no digit. -/
def parseDigits : List Char → Option Nat
  | [] => some 0
  | cs => cs.foldl (fun n c => n.bind fun n =>
      if c.isDigit then some (10 * n + (c.toNat - '0'.toNat)) else none) (some 0)

/-- `str::parse::<i64>`: an optional sign and at least one digit, within the range of `i64`. -/
def parseI64 (cs : List Char) : Option Int :=
  let (negative, digits) : Bool × List Char :=
    match cs with
    | '-' :: ds => (true, ds)
    | '+' :: ds => (false, ds)
    | ds => (false, ds)
  if digits.isEmpty then none
  else (parseDigits digits).bind fun n =>
    let v : Int := if negative then -n else n
    if -9223372036854775808 ≤ v ∧ v ≤ 9223372036854775807 then some v else none

/-- `verify_ticket`: the user of a ticket of this tenant, signed and not expired. -/
def verifyTicket (D : Deploy) (tenant : Uuid) (ticket : String) (nowTs : Int) : Option Uuid :=
  match splitN 4 '.' ticket.toList with
  | [tenantStr, userStr, expStr, sig] =>
    let tenantStr := String.ofList tenantStr
    let userStr := String.ofList userStr
    if tenantStr ≠ D.uuidToString tenant then none
    else (parseI64 expStr).bind fun exp =>
      if nowTs > exp then none
      else (D.hexDecode (String.ofList sig)).bind fun sigBytes =>
        if D.hmacSha256 D.ticketSecret (ticketMessage tenantStr userStr exp) = sigBytes then
          D.parseUuid userStr
        else none
  | _ => none

/-! ## `PortalLoginService` -/

structure PortalLoginCommand where
  username : String
  password : String
  deriving DecidableEq, Repr

structure PortalMfaCommand where
  mfaTicket : String
  totpCode : String
  deriving DecidableEq, Repr

structure PortalChangePasswordCommand where
  username : String
  currentPassword : String
  newPassword : String
  deriving DecidableEq, Repr

inductive PortalLoginOutcome where
  | success (ssoSessionId : String) (userLanguage : Option String)
  | mfaRequired (mfaTicket : String)
  | emailVerificationRequired
  | passwordChangeRequired (username : String)
  | rateLimited
  | invalidCredentials
  | locked
  | internal (detail : String)
  deriving DecidableEq, Repr

inductive PortalChangePasswordOutcome where
  | success (ssoSessionId : String) (userLanguage : Option String)
  | mfaRequired (mfaTicket : String)
  | emailVerificationRequired
  | rateLimited
  | invalidCredentials
  | locked
  | weakPassword
  | internal (detail : String)
  deriving DecidableEq, Repr

inductive PortalMfaOutcome where
  | success (ssoSessionId : String) (userLanguage : Option String)
  | invalidCode
  | ticketExpired
  | rateLimited
  | internal (detail : String)
  deriving DecidableEq, Repr

/-- `issue_ticket`. -/
def issueTicket (D : Deploy) (tenantId : TenantId) (userId : Uuid) (now : DateTime) : String :=
  signTicket D tenantId userId (DateTime.timestamp now + mfaTicketTtlSecs)

/-- Strength, hash and update of a new password. -/
def storeNewPassword {ε : Type} (user : User) (newPassword : String) (weakPassword : ε)
    (internal : String → ε) : ServiceFlow ε Unit := do
  ensure (isStrongPassword newPassword) weakPassword
  let newHash ← orLeave (hashPassword newPassword) (internal ·.display)
  orLeave (db (.users (.updatePassword user.id newHash))) (internal ·.display)

/-- `PortalLoginService::login`. -/
def portalLogin (D : Deploy) (tenantId : TenantId) (cmd : PortalLoginCommand)
    (ctx : RequestContext) : Service PortalLoginOutcome :=
  outcome (do
    let now ← clockNow
    -- 1 to 4.
    let user ← findLoginUser tenantId cmd.username ctx now .rateLimited .invalidCredentials .locked
      .internal
    -- 5, 6. The password, and the reset of the failure counter.
    checkLoginPassword D cmd.password user .invalidCredentials .locked .internal
    resetLoginFailures user .internal
    -- 7, 8. Mail address and forced password change.
    ensure user.emailVerified .emailVerificationRequired
    ensure (!user.mustChangePassword) (.passwordChangeRequired cmd.username)
    -- 9. A confirmed TOTP secret asks for the second factor.
    let hasTotp ← orLeave (userHasConfirmedTotp user.id) (.internal ·.display)
    ensure (!hasTotp) (.mfaRequired (issueTicket D tenantId user.id now))
    -- 10. The SSO session.
    let ssoSessionId ← orLeave (createSsoSession D user.id now ctx) (.internal ·.display)
    return .success ssoSessionId user.language)

/-- `PortalLoginService::change_password`. -/
def portalChangePassword (D : Deploy) (tenantId : TenantId) (cmd : PortalChangePasswordCommand)
    (ctx : RequestContext) : Service PortalChangePasswordOutcome :=
  outcome (do
    let now ← clockNow
    let user ← findLoginUser tenantId cmd.username ctx now .rateLimited .invalidCredentials .locked
      .internal
    ensure user.mustChangePassword .invalidCredentials
    checkLoginPassword D cmd.currentPassword user .invalidCredentials .locked .internal
    ensure user.emailVerified .emailVerificationRequired
    storeNewPassword user cmd.newPassword .weakPassword .internal
    resetLoginFailures user .internal
    -- The same second factor as in `login`, so that a reset password alone does not pass it.
    let hasTotp ← orLeave (userHasConfirmedTotp user.id) (.internal ·.display)
    ensure (!hasTotp) (.mfaRequired (issueTicket D tenantId user.id now))
    let ssoSessionId ← orLeave (createSsoSession D user.id now ctx) (.internal ·.display)
    return .success ssoSessionId user.language)

/-- `PortalLoginService::verify_mfa`. -/
def portalVerifyMfa (D : Deploy) (tenantId : TenantId) (cmd : PortalMfaCommand)
    (ctx : RequestContext) : Service PortalMfaOutcome :=
  outcome (do
    let now ← clockNow
    -- 1. Rate limit.
    rateLimitAddress ctx.ipAddress now .rateLimited
    -- 2. The ticket.
    let userId ← found (verifyTicket D tenantId cmd.mfaTicket (DateTime.timestamp now)) .ticketExpired
    -- 3. The user.
    let row ← orLeave (db (.users (.findById userId))) (.internal ·.display)
    let user ← found row .ticketExpired
    ensure (!user.isLockedAt now && user.isActive) .ticketExpired
    -- 4. The code.
    checkTotpCode D userId cmd.totpCode .ticketExpired .invalidCode .internal
    -- 5. The SSO session.
    let ssoSessionId ← orLeave (createSsoSession D user.id now ctx) (.internal ·.display)
    return .success ssoSessionId user.language)

/-! ## `AdminLoginService` -/

/-- The permissions that open the admin console (`permission.rs`). -/
def adminPermissions : List String := [tenantAdmin, systemAdmin]

structure AdminLoginCommand where
  username : String
  password : String
  deriving DecidableEq, Repr

structure AdminChangePasswordCommand where
  username : String
  currentPassword : String
  newPassword : String
  deriving DecidableEq, Repr

inductive AdminLoginOutcome where
  | success (ssoSessionId : String)
  | passwordChangeRequired (username : String)
  | rateLimited
  | invalidCredentials
  | locked
  | forbidden
  | weakPassword
  | internal (detail : String)
  deriving DecidableEq, Repr

/-- The admin permission of a user within the tenant. -/
def checkAdminPermission (tenantId : TenantId) (userId : Uuid) :
    ServiceFlow AdminLoginOutcome Unit := do
  let hasAdmin ← orLeave (userPermissions.hasAnyPermission tenantId userId adminPermissions)
    (.internal ·.display)
  ensure hasAdmin .forbidden

/-- `AdminLoginService::login`. -/
def adminLogin (D : Deploy) (tenantId : TenantId) (cmd : AdminLoginCommand) (ctx : RequestContext) :
    Service AdminLoginOutcome :=
  outcome (do
    let now ← clockNow
    -- 1 to 4.
    let user ← findLoginUser tenantId cmd.username ctx now .rateLimited .invalidCredentials .locked
      .internal
    -- 5, 6. The password and the permission.
    checkLoginPassword D cmd.password user .invalidCredentials .locked .internal
    checkAdminPermission tenantId user.id
    -- 6.5. Forced password change.
    ensure (!user.mustChangePassword) (.passwordChangeRequired cmd.username)
    -- 7. Reset of the failure counter.
    resetLoginFailures user .internal
    -- 8. The SSO session.
    let ssoSessionId ← orLeave (createSsoSession D user.id now ctx) (.internal ·.display)
    return .success ssoSessionId)

/-- `AdminLoginService::change_password`. -/
def adminChangePassword (D : Deploy) (tenantId : TenantId) (cmd : AdminChangePasswordCommand)
    (ctx : RequestContext) : Service AdminLoginOutcome :=
  outcome (do
    let now ← clockNow
    let user ← findLoginUser tenantId cmd.username ctx now .rateLimited .invalidCredentials .locked
      .internal
    ensure user.mustChangePassword .invalidCredentials
    checkLoginPassword D cmd.currentPassword user .invalidCredentials .locked .internal
    checkAdminPermission tenantId user.id
    storeNewPassword user cmd.newPassword .weakPassword .internal
    resetLoginFailures user .internal
    let ssoSessionId ← orLeave (createSsoSession D user.id now ctx) (.internal ·.display)
    return .success ssoSessionId)

/-! ## `PasskeyAuthenticationService::complete` -/

inductive PasskeyAuthOutcome where
  | success (location : Option String) (ssoSessionId : String)
  | consentRequired (authSessionId ssoSessionId : String)
  | challengeNotFound
  | sessionExpired
  | invalidCredential
  | internal (detail : String)
  deriving DecidableEq, Repr

/-- `ensure_active_member`. -/
def ensureActiveMember (tenantId : TenantId) (userId : Uuid) :
    ServiceFlow PasskeyAuthOutcome Unit := do
  let user ← orLeave (db (.users (.findById userId))) (.internal ·.display)
  ensure (user.any (·.isActive)) .invalidCredential
  let member ← orLeave (db (.memberships (.isActiveMember tenantId userId))) (.internal ·.display)
  ensure member .invalidCredential

/-- Steps 1 to 6 of `complete`: the challenge is consumed and the assertion verified against the
stored credential. -/
def verifyAssertion (D : Deploy) (challengeId : Uuid) (credentialValue : String) (now : DateTime) :
    ServiceFlow PasskeyAuthOutcome (PasskeyChallenge × WebAuthnCredential) := do
  -- 1. The challenge, deleted before it is used.
  let row ← orLeave (db (.passkeys (.challengeFindById challengeId))) (.internal ·.display)
  let challenge ← found row .challengeNotFound
  ensureOr (challenge.expiresAt > now) (do
    let _ ← db (.passkeys (.challengeDelete challengeId))
    return .challengeNotFound)
  orLeave (db (.passkeys (.challengeDelete challengeId))) (.internal ·.display)
  -- 2, 3. The stored state and the browser's credential.
  let authState ← orThrow (D.parseAuthState challenge.stateJson) .internal
  let credential ← orThrow (D.parseCredential credentialValue) (fun _ => .invalidCredential)
  -- 4. The registered credential.
  let row ← orLeave (db (.passkeys (.credentialFindByCredentialId credential.id)))
    (.internal ·.display)
  let stored ← found row .invalidCredential
  let passkey ← orThrow (D.parsePasskey stored.passkeyJson) .internal
  -- 5. The assertion.
  let result ← orThrow (D.finishAuthentication credential authState passkey)
    (fun _ => .invalidCredential)
  -- 6. The signature counter, stored when the library says it has changed.
  match D.updateCredential passkey result with
  | none => return (challenge, stored)
  | some json =>
    let newJson ← orThrow json .internal
    orLeave (db (.passkeys (.credentialUpdatePasskey stored.id newJson now))) (.internal ·.display)
    return (challenge, stored)

/-- `PasskeyAuthenticationService::complete`. -/
def passkeyComplete (D : Deploy) (tenantId : TenantId) (challengeId : Uuid)
    (credentialValue : String) (ctx : RequestContext) : Service PasskeyAuthOutcome :=
  outcome (do
    let now ← clockNow
    let (challenge, stored) ← verifyAssertion D challengeId credentialValue now
    -- 7. The owner of the credential, an active member of the tenant.
    ensureActiveMember tenantId stored.userId
    -- 8. The auth session the challenge was made for.
    let authSessionId ← found challenge.authSessionId (.internal "no auth_session_id in challenge")
    let session ← loadAuthSession tenantId authSessionId now .sessionExpired .internal
    -- 9, 10. The result on the auth session, then the SSO session.
    orLeave (db (.authSessions (.setAuthenticatedUser session.id stored.userId now)))
      (.internal ·.display)
    let ssoSessionId ← orLeave (createSsoSession D stored.userId now ctx) (.internal ·.display)
    -- 11 to 13. Consent, code, deletion of the auth session.
    match ← finishFlow D tenantId session stored.userId now with
    | .internal e => return .internal e
    | .consentRequired => return .consentRequired session.id ssoSessionId
    | .issued location => return .success location ssoSessionId)

end IdpMvp
