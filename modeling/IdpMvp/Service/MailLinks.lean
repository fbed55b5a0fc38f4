import IdpMvp.Store.Ops

/-!
# Links sent by mail

Model of `application/password_reset.rs` and `application/email_verification.rs`, and of
`smtp_server` of `application/system_settings.rs`. Both services issue a link in the same way: they
invalidate the unused tokens of the user, store the hash of a new one and send the token. The texts of
the mails are left out, except for the link.
-/

namespace IdpMvp

open Program Program.Flow

/-! ## `SystemSettingsService::smtp_server` -/

/-- `SmtpServerConfig` of `mailer.rs`, as far as the services decide by it. -/
structure SmtpServerConfig where
  host : String
  password : String
  fromAddress : String
  deriving DecidableEq, Repr

/-- `map.get(key)` on the loaded settings. -/
def settingValue (settings : List SystemSetting) (key : String) : Option String :=
  (settings.find? (·.key = key)).map (·.value)

/-- The password of the server, which is stored encrypted. -/
def smtpPassword (D : Deploy) (settings : List SystemSetting) : DbResult String :=
  match nonEmpty (settingValue settings "smtp.password") with
  | none => .ok ""
  | some stored =>
    match D.decrypt stored with
    | .error e => .error (.repository ("smtp password decrypt: " ++ e))
    | .ok bytes =>
      match fromUtf8 bytes with
      | some password => .ok password
      | none => .error (.repository "smtp password is not UTF-8")

/-- `smtp_server`: nothing when the host or the sender is not set. -/
def smtpServer (D : Deploy) : ServiceFlow DomainError (Option SmtpServerConfig) := do
  let settings ← orLeave (db (.systemSettings .loadAll)) id
  let host := (settingValue settings "smtp.host").getD ""
  let fromAddress := (settingValue settings "smtp.from_address").getD ""
  if host = "" || fromAddress = "" then return none
  let password ← orThrow (smtpPassword D settings) id
  return some ⟨host, password, fromAddress⟩

/-! ## Issuing a link -/

/-- Which service a token belongs to. -/
inductive LinkKind where
  | passwordReset
  | emailVerification
  deriving DecidableEq, Repr

namespace LinkKind

def ttl (D : Deploy) : LinkKind → Duration
  | passwordReset => D.passwordResetTtl
  | emailVerification => D.emailVerificationTtl

/-- The screen of the console that a link opens. -/
def screen : LinkKind → String
  | passwordReset => "password-reset"
  | emailVerification => "verify-email"

/-- `create` of the repository. -/
def create : LinkKind → PasswordResetToken → Service (DbResult Unit)
  | passwordReset, t => db (.passwordResetTokens (.create t))
  | emailVerification, t => db (.emailVerificationTokens (.create t))

/-- `invalidate_all_for_user` of the repository. -/
def invalidateAllForUser : LinkKind → Uuid → DateTime → Service (DbResult Unit)
  | passwordReset, userId, now => db (.passwordResetTokens (.invalidateAllForUser userId now))
  | emailVerification, userId, now => db (.emailVerificationTokens (.invalidateAllForUser userId now))

/-- `consume` of the repository: the conditional `UPDATE` decides, the `SELECT` reads the row back. -/
def consume : LinkKind → String → DateTime → Service (DbResult (Option PasswordResetToken))
  | passwordReset, hash, usedAt => do
    match ← db (.passwordResetTokens (.consumeUpdate hash usedAt)) with
    | .error e => return .error e
    | .ok 0 => return .ok none
    | .ok (_ + 1) => db (.passwordResetTokens (.consumeSelect hash))
  | emailVerification, hash, usedAt => do
    match ← db (.emailVerificationTokens (.consumeUpdate hash usedAt)) with
    | .error e => return .error e
    | .ok 0 => return .ok none
    | .ok (_ + 1) => db (.emailVerificationTokens (.consumeSelect hash))

end LinkKind

/-- `RESET_TOKEN_BYTES` and `VERIFICATION_TOKEN_BYTES`. -/
def linkTokenBytes : Nat := 32

/-- The row of a new token. -/
def linkToken (D : Deploy) (kind : LinkKind) (userId : Uuid) (token : String) (now : DateTime) :
    PasswordResetToken where
  tokenHash := D.sha256Hex token
  userId := userId
  expiresAt := now + kind.ttl D
  usedAt := none

/-- The steps both services take to issue a link: whatever fails, nothing is reported. -/
def issueLink (D : Deploy) (kind : LinkKind) (userId : Uuid) : ServiceFlow Unit String := do
  let now ← clockNow
  orLeave (kind.invalidateAllForUser userId now) fun _ => ()
  let token ← randomToken linkTokenBytes
  orLeave (kind.create (linkToken D kind userId token now)) fun _ => ()
  return token

/-- The link itself. -/
def linkUrl (D : Deploy) (kind : LinkKind) (tenantId : TenantId) (token : String) : String :=
  D.consoleBaseUrl ++ "/" ++ D.uuidToString tenantId ++ "/" ++ kind.screen ++ "?token=" ++ token

/-! ## `PasswordResetService` -/

inductive RequestResetOutcome where
  | accepted
  | unavailable
  | rateLimited
  deriving DecidableEq, Repr

/-- `request_reset`: whether the account exists does not show in the outcome. -/
def requestReset (D : Deploy) (tenantId : TenantId) (email : String) (ipAddress : Option String) :
    Service RequestResetOutcome :=
  outcome (do
    let started ← clockNow
    let allowed ← limit .passwordReset (ipAddress.getD "unknown") started
    ensure allowed .rateLimited
    let server ← orLeave (smtpServer D).run fun _ => .unavailable
    ensure server.isSome .unavailable
    let row ← orLeave (db (.users (.findByEmail tenantId (trimWhitespace email)))) fun _ => .accepted
    let user ← found (row.filter (·.isActive)) .accepted
    let token ← orLeave (issueLink D .passwordReset user.id).run fun _ => .accepted
    let _ ← sendMail user.email (linkUrl D .passwordReset tenantId token)
    return .accepted)

inductive ResetPasswordOutcome where
  | ok
  | invalidOrExpired
  | weakPassword
  | internal (detail : String)
  deriving DecidableEq, Repr

/-- `reset_password`: the strength is checked first, so that a slip does not use up the token. -/
def resetPasswordByToken (D : Deploy) (tenantId : TenantId) (token newPassword : String) :
    Service ResetPasswordOutcome :=
  outcome (do
    ensure (token ≠ "") .invalidOrExpired
    orThrow (validatePasswordStrength newPassword) fun _ => .weakPassword
    let now ← clockNow
    let record ← orLeave (LinkKind.passwordReset.consume (D.sha256Hex token) now) (.internal ·.display)
    let record ← found record .invalidOrExpired
    let row ← orLeave (db (.users (.findById record.userId))) (.internal ·.display)
    let user ← found (row.filter fun u => u.isActive && u.tenantId = tenantId) .invalidOrExpired
    let hash ← orLeave (hashPassword newPassword) (.internal ·.display)
    orLeave (db (.users (.updatePassword user.id hash))) (.internal ·.display)
    -- Failures from here on are only logged: the password has changed already.
    let _ ← db (.ssoSessions (.deleteAllForUser user.id))
    let _ ← db (.refreshTokens (.revokeAllForUser user.id now))
    let _ ← db (.codes (.revokeAllActiveForUser user.id now))
    return .ok)

/-! ## `EmailVerificationService` -/

/-- `send_verification`: whether the mail was sent. -/
def sendVerification (D : Deploy) (tenantId : TenantId) (userId : Uuid) (email : String) :
    Service Bool :=
  outcome (do
    let server ← orLeave (smtpServer D).run fun _ => false
    ensure server.isSome false
    let token ← orLeave (issueLink D .emailVerification userId).run fun _ => false
    orLeave (sendMail email (linkUrl D .emailVerification tenantId token)) fun _ => false
    return true)

inductive VerifyEmailOutcome where
  | ok
  | invalidOrExpired
  | internal (detail : String)
  deriving DecidableEq, Repr

/-- `verify`. -/
def verifyEmail (D : Deploy) (tenantId : TenantId) (token : String) : Service VerifyEmailOutcome :=
  outcome (do
    ensure (token ≠ "") .invalidOrExpired
    let now ← clockNow
    let record ← orLeave (LinkKind.emailVerification.consume (D.sha256Hex token) now)
      (.internal ·.display)
    let record ← found record .invalidOrExpired
    let row ← orLeave (db (.users (.findById record.userId))) (.internal ·.display)
    let user ← found (row.filter (·.tenantId = tenantId)) .invalidOrExpired
    orLeave (db (.users (.markEmailVerified user.id))) (.internal ·.display)
    return .ok)

end IdpMvp
