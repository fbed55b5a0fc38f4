import IdpMvp.Service.Login
import IdpMvp.Service.Permission

/-!
# Accounts by the SSO cookie

Model of `application/account_profile.rs`, `application/account_password.rs`, `application/account_language.rs` and
`application/account_tenants.rs`, which serve whoever has an SSO session, and of `application/admin_access.rs`, which
asks for a permission as well.
-/

namespace IdpMvp

open Program Program.Flow

/-- The session of a cookie that is valid at a time, as the services of the account look it up. -/
def findLiveSession {ε : Type} (D : Deploy) (ssoSessionId : String) (now : DateTime) (expired : ε)
    (internal : String → ε) : ServiceFlow ε SsoSession := do
  let row ← orLeave (db (.ssoSessions (.findByHash (D.sha256Hex ssoSessionId)))) (internal ·.display)
  found (row.filter (·.isValidAt now)) expired

/-- The user of a session, who must be active. -/
def findActiveUser {ε : Type} (userId : Uuid) (expired : ε) (internal : String → ε) : ServiceFlow ε User := do
  let row ← orLeave (db (.users (.findById userId))) (internal ·.display)
  found (row.filter (·.isActive)) expired

/-! ## `AccountProfileService` -/

inductive ProfileOutcome where
  | ok (name preferredUsername : Option String) (email : String)
  | sessionExpired
  | internal (detail : String)
  deriving DecidableEq, Repr

inductive UpdateNameOutcome where
  | ok
  | sessionExpired
  | invalid
  | internal (detail : String)
  deriving DecidableEq, Repr

namespace AccountProfile

/-- `resolve_active_user`. -/
def resolveActiveUser {ε : Type} (D : Deploy) (ssoSessionId : String) (expired : ε) (internal : String → ε) :
    ServiceFlow ε User := do
  let now ← clockNow
  let session ← findLiveSession D ssoSessionId now expired internal
  findActiveUser session.userId expired internal

/-- `AccountProfileService::get`. -/
def get (D : Deploy) (ssoSessionId : String) : ServiceFlow ProfileOutcome ProfileOutcome := do
  let user ← resolveActiveUser D ssoSessionId .sessionExpired .internal
  return .ok user.name user.preferredUsername user.email

/-- The check of `update_name`: no name at all is fine. -/
def isValidName (name : Option String) : Bool := (normalizeOptional name).all fun n => (validateDisplayName n).isOk

/-- `AccountProfileService::update_name`. -/
def updateName (D : Deploy) (ssoSessionId : String) (name : Option String) :
    ServiceFlow UpdateNameOutcome UpdateNameOutcome := do
  ensure (isValidName name) .invalid
  let user ← resolveActiveUser D ssoSessionId .sessionExpired .internal
  orLeave (db (.users (.updateName user.id (normalizeOptional name)))) (.internal ·.display)
  return .ok

end AccountProfile

/-! ## `AccountPasswordService` -/

inductive AccountPasswordOutcome where
  | ok
  | sessionExpired
  | invalidCurrentPassword
  | weakPassword
  | internal (detail : String)
  deriving DecidableEq, Repr

namespace AccountPassword

/-- The user of the session, as `change` resolves them. -/
def resolveUser {ε : Type} (D : Deploy) (ssoSessionId : String) (expired : ε) (internal : String → ε) :
    ServiceFlow ε User := do
  let now ← clockNow
  let session ← findLiveSession D ssoSessionId now expired internal
  findActiveUser session.userId expired internal

/-- `AccountPasswordService::change`. -/
def change (D : Deploy) (ssoSessionId currentPassword newPassword : String) :
    ServiceFlow AccountPasswordOutcome AccountPasswordOutcome := do
  -- 1. The user.
  let user ← resolveUser D ssoSessionId .sessionExpired .internal
  -- 2. The current password.
  let verified ← orThrow (D.verifyPassword currentPassword user.passwordHash) (.internal ·.display)
  ensure verified .invalidCurrentPassword
  -- 3. The new password.
  ensure (isStrongPassword newPassword) .weakPassword
  let newHash ← orLeave (hashPassword newPassword) (.internal ·.display)
  orLeave (db (.users (.updatePassword user.id newHash))) (.internal ·.display)
  return .ok

end AccountPassword

/-! ## `AccountLanguageService` -/

inductive UpdateLanguageOutcome where
  | ok
  | sessionExpired
  | invalidLanguage
  | internal (detail : String)
  deriving DecidableEq, Repr

namespace AccountLanguage

/-- The user of the session, as `update` resolves them. -/
def resolveUser {ε : Type} (D : Deploy) (ssoSessionId : String) (expired : ε) (internal : String → ε) :
    ServiceFlow ε Uuid := do
  let now ← clockNow
  let session ← findLiveSession D ssoSessionId now expired internal
  return session.userId

/-- `AccountLanguageService::update`. -/
def update (D : Deploy) (ssoSessionId language : String) : ServiceFlow UpdateLanguageOutcome UpdateLanguageOutcome := do
  let lang := trimWhitespace language
  ensure (lang = "ja" || lang = "en") .invalidLanguage
  let userId ← resolveUser D ssoSessionId .sessionExpired .internal
  orLeave (db (.users (.updateLanguage userId (some lang)))) (.internal ·.display)
  return .ok

end AccountLanguage

/-! ## `AccountTenantsService` -/

structure AccountTenant where
  tenantId : TenantId
  name : String
  isHome : Bool
  deriving DecidableEq, Repr

inductive ListTenantsOutcome where
  | ok (tenants : List AccountTenant)
  | sessionExpired
  | internal (detail : String)
  deriving DecidableEq, Repr

namespace AccountTenants

/-- The user of the session, as `list` resolves them. -/
def resolveUser {ε : Type} (D : Deploy) (ssoSessionId : String) (expired : ε) (internal : String → ε) :
    ServiceFlow ε Uuid := do
  let now ← clockNow
  let session ← findLiveSession D ssoSessionId now expired internal
  return session.userId

/-- The loop of `list`: a tenant that is gone or not active is passed over. -/
def listTenants : List TenantMembership → ServiceFlow ListTenantsOutcome (List AccountTenant)
  | [] => return []
  | m :: ms => do
    let row ← orLeave (db (.tenants (.findById m.tenantId))) (.internal ·.display)
    let rest ← listTenants ms
    match row.filter (·.isActive) with
    | some tenant => return ⟨tenant.id, tenant.name, m.isHome⟩ :: rest
    | none => return rest

/-- `AccountTenantsService::list`. -/
def list (D : Deploy) (ssoSessionId : String) : ServiceFlow ListTenantsOutcome ListTenantsOutcome := do
  let userId ← resolveUser D ssoSessionId .sessionExpired .internal
  let memberships ← orLeave (db (.memberships (.listActiveForUser userId))) (.internal ·.display)
  let tenants ← listTenants memberships
  return .ok tenants

end AccountTenants

/-! ## `AdminAccessService` -/

structure AuthorizedAdmin where
  userId : Uuid
  name : Option String
  preferredUsername : Option String
  deriving DecidableEq, Repr

inductive AdminAccess where
  | granted (admin : AuthorizedAdmin)
  | unauthenticated
  | forbidden
  deriving DecidableEq, Repr

namespace AdminAccess

/-- `resolve_session_user`: whatever fails, there is no user. -/
def resolveSessionUser {ε : Type} (D : Deploy) (ssoSessionId : Option String) (refused : ε) : ServiceFlow ε User := do
  let sessionId ← found (nonEmpty ssoSessionId) refused
  let row ← orLeave (db (.ssoSessions (.findByHash (D.sha256Hex sessionId)))) fun _ => refused
  let session ← found row refused
  let now ← clockNow
  ensure (session.isValidAt now) refused
  findActiveUser session.userId refused fun _ => refused

/-- The codes of which `authorize` asks for one. -/
def acceptedCodes (required : String) : List String :=
  if required = systemAdmin then [systemAdmin] else [required, systemAdmin]

/-- `AdminAccessService::authorize`. -/
def authorize (D : Deploy) (tenantId : TenantId) (ssoSessionId : Option String) (required : String) :
    ServiceFlow AdminAccess AdminAccess := do
  let user ← resolveSessionUser D ssoSessionId .unauthenticated
  let held ← orLeave (userPermissions.hasAnyPermission tenantId user.id (acceptedCodes required)) fun _ => .forbidden
  ensure held .forbidden
  return .granted ⟨user.id, user.name, user.preferredUsername⟩

/-- `AdminAccessService::authenticated_user`. -/
def authenticatedUser (D : Deploy) (ssoSessionId : Option String) : ServiceFlow Unit Uuid := do
  let user ← resolveSessionUser D ssoSessionId ()
  return user.id

end AdminAccess
end IdpMvp
