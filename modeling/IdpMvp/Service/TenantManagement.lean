import IdpMvp.Store.Ops

/-!
# Tenants

Model of `application/tenant_management.rs` and of `application/tenant_resolution.rs`, which keeps the
tenants it has resolved in a cache.
-/

namespace IdpMvp

open Program Program.Flow

/-! ## `TenantResolutionService` -/

/-- `resolve`: the tenant, if it exists and is `ACTIVE`. The cache holds disabled tenants too. -/
def resolve (tenantId : TenantId) : ServiceFlow DomainError (Option Tenant) := do
  match ← tenantCacheGet tenantId with
  | some tenant => return if tenant.isActive then some tenant else none
  | none =>
    match ← orLeave (db (.tenants (.findById tenantId))) id with
    | some tenant =>
      tenantCacheInsert tenantId tenant
      return if tenant.isActive then some tenant else none
    | none => return none

/-! ## `TenantManagementService` -/

inductive TenantManagementError where
  | validation (detail : String)
  | notFound
  | forbidden (detail : String)
  | conflict (detail : String)
  | internal (detail : String)
  deriving DecidableEq, Repr

/-- A field that is `none` is not changed. -/
structure UpdateTenantCommand where
  name : Option String
  status : Option TenantStatus
  deriving DecidableEq, Repr

/-- `validate_name`. -/
def validateName (name : String) : Except TenantManagementError String :=
  let trimmed := trimWhitespace name
  if trimmed = "" then .error (.validation "tenant name must not be empty") else .ok trimmed

/-- What a conflict of a statement and its other errors are reported as. -/
def TenantManagementError.ofStatement : DomainError → TenantManagementError
  | .conflict detail => .conflict detail
  | e => .internal e.display

/-- `create_tenant`: the tenant, the membership of its first administrator and the permission are stored
in one transaction. -/
def createTenant (requesting : TenantId) (name : String) (actor : Uuid) :
    ServiceFlow TenantManagementError Tenant := do
  let name ← orThrow (validateName name) id
  let _ ← clockNow
  let id ← newId
  let tenant : Tenant := {
    id := id
    parentTenantId := some requesting
    name := name
    status := .active
    selfRegistrationEnabled := false }
  orLeave (db (.tenants (.provision tenant (.newActiveGuest id actor) tenantAdmin))) .ofStatement
  return tenant

/-- `load_child`. -/
def loadChild (requesting childId : TenantId) : ServiceFlow TenantManagementError Tenant := do
  let row ← orLeave (db (.tenants (.findById childId))) (.internal ·.display)
  found (row.filter (·.parentTenantId = some requesting)) .notFound

/-- The name of a tenant after the update. -/
def UpdateTenantCommand.newName (cmd : UpdateTenantCommand) (tenant : Tenant) :
    Except TenantManagementError String :=
  match cmd.name with
  | some name => validateName name
  | none => .ok tenant.name

/-- `update_tenant`. -/
def updateTenant (requesting childId : TenantId) (cmd : UpdateTenantCommand) :
    ServiceFlow TenantManagementError Tenant := do
  let tenant ← loadChild requesting childId
  let name ← orThrow (cmd.newName tenant) id
  let tenant := { tenant with name := name, status := cmd.status.getD tenant.status }
  orLeave (db (.tenants (.update tenant))) (.internal ·.display)
  return tenant

/-- `get_current`. -/
def getCurrent (current : TenantId) : ServiceFlow TenantManagementError Tenant := do
  let row ← orLeave (db (.tenants (.findById current))) (.internal ·.display)
  found row .notFound

/-- `update_current_settings`. -/
def updateCurrentSettings (current : TenantId) (name : String) (selfRegistrationEnabled : Option Bool) :
    ServiceFlow TenantManagementError Tenant := do
  let tenant ← getCurrent current
  let name ← orThrow (validateName name) id
  let tenant := { tenant with
    name := name
    selfRegistrationEnabled := selfRegistrationEnabled.getD tenant.selfRegistrationEnabled }
  orLeave (db (.tenants (.update tenant))) (.internal ·.display)
  return tenant

/-- `delete_tenant`. -/
def deleteTenant (requesting childId : TenantId) : ServiceFlow TenantManagementError Unit := do
  let tenant ← loadChild requesting childId
  ensure (!tenant.isRoot) (.forbidden "the root tenant cannot be deleted")
  let grandchildren ← orLeave (db (.tenants (.listChildren tenant.id))) (.internal ·.display)
  ensure grandchildren.isEmpty (.conflict "tenant has child tenants")
  orLeave (db (.tenants (.delete tenant.id))) .ofStatement

end IdpMvp
