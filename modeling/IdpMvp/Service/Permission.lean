import IdpMvp.Store.Ops

/-!
# Permissions

Model of `infrastructure/repositories/user_permission.rs` and of its caching decorator
`cached_user_permission.rs`, and over them of `application/permission_management.rs`. The services
take the repository as a parameter, as the source's do; `state.rs` hands all of them the decorator.
The `granted_at` column is left out.
-/

namespace IdpMvp

open Program Program.Flow

/-! ## Repositories -/

/-- `UserPermissionRepository`, as far as the services use it. -/
structure UserPermissionRepository where
  listCodesForUser : TenantId → Uuid → Service (DbResult (List String))
  hasPermission : TenantId → Uuid → String → Service (DbResult Bool)
  grant : TenantId → Uuid → String → Service (DbResult Unit)
  revoke : TenantId → Uuid → String → Service (DbResult Unit)
  revokeAllForUserInTenant : TenantId → Uuid → Service (DbResult (List String))

/-- The default `has_any_permission`: one code after the other. The decorator does not override it. -/
def UserPermissionRepository.hasAnyPermission (repo : UserPermissionRepository) (tenantId : TenantId)
    (userId : Uuid) : List String → Service (DbResult Bool)
  | [] => return .ok false
  | code :: codes => do
    match ← repo.hasPermission tenantId userId code with
    | .error e => return .error e
    | .ok true => return .ok true
    | .ok false => repo.hasAnyPermission tenantId userId codes

/-- `SqlxUserPermissionRepository`: every method is one statement or transaction. -/
def sqlxUserPermissionRepository : UserPermissionRepository where
  listCodesForUser tenantId userId := db (.permissions (.listCodesForUser tenantId userId))
  hasPermission tenantId userId code := db (.permissions (.hasPermission tenantId userId code))
  grant tenantId userId code := db (.permissions (.grant tenantId userId code))
  revoke tenantId userId code := db (.permissions (.revoke tenantId userId code))
  revokeAllForUserInTenant tenantId userId :=
    db (.permissions (.revokeAllForUserInTenant tenantId userId))

/-- Invalidates the entries of some codes. -/
def invalidateCodes (tenantId : TenantId) (userId : Uuid) : List String → Service Unit
  | [] => return ()
  | code :: codes => do
    cacheInvalidate ⟨tenantId, userId, code⟩
    invalidateCodes tenantId userId codes

/-- A change through the decorator: once it has succeeded, the entry of its key is invalidated. -/
def invalidating (change : Service (DbResult Unit)) (key : PermissionKey) :
    Service (DbResult Unit) := do
  match ← change with
  | .error e => return .error e
  | .ok () =>
    cacheInvalidate key
    return .ok ()

/-- `CachedUserPermissionRepository`. -/
def cachedUserPermissionRepository (inner : UserPermissionRepository) : UserPermissionRepository where
  listCodesForUser := inner.listCodesForUser
  hasPermission tenantId userId code := do
    match ← cacheGet ⟨tenantId, userId, code⟩ with
    | some hit => return .ok hit
    | none =>
      match ← inner.hasPermission tenantId userId code with
      | .error e => return .error e
      | .ok held =>
        cacheInsert ⟨tenantId, userId, code⟩ held
        return .ok held
  grant tenantId userId code :=
    invalidating (inner.grant tenantId userId code) ⟨tenantId, userId, code⟩
  revoke tenantId userId code :=
    invalidating (inner.revoke tenantId userId code) ⟨tenantId, userId, code⟩
  revokeAllForUserInTenant tenantId userId := do
    match ← inner.revokeAllForUserInTenant tenantId userId with
    | .error e => return .error e
    | .ok revoked =>
      invalidateCodes tenantId userId revoked
      return .ok revoked

/-- The repository the services are given (`state.rs`). -/
def userPermissions : UserPermissionRepository :=
  cachedUserPermissionRepository sqlxUserPermissionRepository

/-! ## `PermissionManagementService` -/

inductive PermissionManagementError where
  | validation (detail : String)
  | notFound
  | forbidden (detail : String)
  | internal (detail : String)
  deriving DecidableEq, Repr

/-- `ensure_user_in_tenant`. -/
def ensureUserInTenant (tenantId : TenantId) (target : Uuid) :
    ServiceFlow PermissionManagementError Unit := do
  let row ← orLeave (db (.users (.findById target))) (.internal ·.display)
  ensure row.isSome .notFound
  let active ← orLeave (db (.memberships (.isActiveMember tenantId target))) (.internal ·.display)
  ensure active .notFound

/-- `ensure_system_admin_change_allowed`. -/
def ensureSystemAdminChangeAllowed (repo : UserPermissionRepository) (tenantId : TenantId)
    (code : PermissionCode) (actor : Uuid) : ServiceFlow PermissionManagementError Unit :=
  onlyIf (code.text = systemAdmin) (do
    let held ← orLeave (repo.hasPermission tenantId actor systemAdmin) (.internal ·.display)
    ensure held
      (.forbidden "only idp.system.admin holders may grant or revoke idp.system.admin"))

/-- `map_repo_error`. -/
def PermissionManagementError.ofRepository : DomainError → PermissionManagementError
  | .invalidValue detail => .validation detail
  | e => .internal e.display

/-- `PermissionManagementService::list`. -/
def listPermissions (repo : UserPermissionRepository) (tenantId : TenantId) (target : Uuid) :
    ServiceFlow PermissionManagementError (List String) := do
  ensureUserInTenant tenantId target
  orLeave (repo.listCodesForUser tenantId target) (.internal ·.display)

/-- What `grant` and `revoke` share: the checks, the change and the list of codes after it. -/
def changePermission (repo : UserPermissionRepository)
    (change : TenantId → Uuid → String → Service (DbResult Unit)) (tenantId : TenantId)
    (target : Uuid) (code : String) (actor : Uuid) :
    ServiceFlow PermissionManagementError (List String) := do
  let code ← orThrow (PermissionCode.parse code) (.validation ·.display)
  ensureUserInTenant tenantId target
  ensureSystemAdminChangeAllowed repo tenantId code actor
  orLeave (change tenantId target code.text) .ofRepository
  listPermissions repo tenantId target

/-- `PermissionManagementService::grant`. -/
def grantPermission (repo : UserPermissionRepository) :
    TenantId → Uuid → String → Uuid → ServiceFlow PermissionManagementError (List String) :=
  changePermission repo repo.grant

/-- `PermissionManagementService::revoke`. -/
def revokePermission (repo : UserPermissionRepository) :
    TenantId → Uuid → String → Uuid → ServiceFlow PermissionManagementError (List String) :=
  changePermission repo repo.revoke

end IdpMvp
