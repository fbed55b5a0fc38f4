import IdpMvp.Service.CodeIssuance

/-!
# User lifecycle

Model of `application/user_lifecycle.rs`: an administrator resets a password, changes a status or
deletes a user. Resetting and disabling revoke what the user holds.
-/

namespace IdpMvp

open Program Program.Flow

def generatedPasswordBytes : Nat := 32

structure ResetUserPassword where
  userId : Uuid
  generatedPassword : String
  deriving DecidableEq, Repr

inductive UserLifecycleError where
  | notFound
  | forbidden (detail : String)
  | validation (detail : String)
  | internal (detail : String)
  deriving DecidableEq, Repr

/-- `revoke_credentials`: failures are only logged. -/
def revokeCredentials (userId : Uuid) : Service Unit := do
  let now ← clockNow
  let _ ← db (.ssoSessions (.deleteAllForUser userId))
  let _ ← db (.refreshTokens (.revokeAllForUser userId now))
  let _ ← db (.codes (.revokeAllActiveForUser userId now))
  return ()

/-- `find_home_user`. -/
def findHomeUser (tenantId : TenantId) (target : Uuid) : ServiceFlow UserLifecycleError User := do
  let row ← orLeave (db (.users (.findById target))) (.internal ·.display)
  found (row.filter (·.tenantId = tenantId)) .notFound

/-- `ensure_not_self`. -/
def ensureNotSelf (target actor : Uuid) : ServiceFlow UserLifecycleError Unit :=
  ensure (target ≠ actor) (.forbidden "cannot operate on your own account")

/-- `reset_password_for`. -/
def resetPasswordFor (user : User) : ServiceFlow UserLifecycleError ResetUserPassword := do
  let generatedPassword ← randomToken generatedPasswordBytes
  let hash ← orLeave (hashPassword generatedPassword) (.internal ·.display)
  orLeave (db (.users (.resetPasswordForced user.id hash))) (.internal ·.display)
  revokeCredentials user.id
  return ⟨user.id, generatedPassword⟩

/-- `reset_password`. -/
def resetPassword (tenantId : TenantId) (target actor : Uuid) :
    ServiceFlow UserLifecycleError ResetUserPassword := do
  let user ← findHomeUser tenantId target
  ensureNotSelf user.id actor
  resetPasswordFor user

/-- `reset_password_by_email`. -/
def resetPasswordByEmail (tenantId : TenantId) (email : String) (actor : Uuid) :
    ServiceFlow UserLifecycleError ResetUserPassword := do
  let email := trimWhitespace email
  ensure (email ≠ "") (.validation "email is required")
  let row ← orLeave (db (.users (.findByEmail tenantId email))) (.internal ·.display)
  let user ← found row .notFound
  ensureNotSelf user.id actor
  resetPasswordFor user

/-- `set_status`. -/
def setStatus (tenantId : TenantId) (target : Uuid) (status : UserStatus) (actor : Uuid) :
    ServiceFlow UserLifecycleError Unit := do
  ensure (status ≠ .locked) (.validation "LOCKED cannot be set by administrators")
  let user ← findHomeUser tenantId target
  ensureNotSelf user.id actor
  orLeave (db (.users (.updateStatus user.id status))) (.internal ·.display)
  onlyIf (status = .disabled) (revokeCredentials user.id)

/-- `delete_user`. -/
def deleteUser (tenantId : TenantId) (target actor : Uuid) :
    ServiceFlow UserLifecycleError Unit := do
  let user ← findHomeUser tenantId target
  ensureNotSelf user.id actor
  orLeave (db (.users (.delete user.id))) (.internal ·.display)

end IdpMvp
