import IdpMvp.Service.UserLifecycle

/-!
# Creating users

Model of `application/register.rs`, where users register themselves, and of
`application/user_management.rs`, where an administrator creates them. Both validate the attributes,
look for a user with the same mail address or user name, and then store the user and its HOME
membership in two statements.
-/

namespace IdpMvp

open Program Program.Flow

structure CreateUserCommand where
  email : String
  preferredUsername : Option String
  name : Option String
  deriving DecidableEq, Repr

/-- The attributes of a user after validation. -/
structure UserAttributes where
  email : String
  preferredUsername : String
  name : Option String
  deriving DecidableEq, Repr

/-- What the two services have in common to report. -/
structure CreationErrors (ε : Type) where
  conflict : String → ε
  internal : String → ε

/-- The user name is the mail address when none is given. -/
def attributesOf (cmd : CreateUserCommand) : UserAttributes where
  email := trimWhitespace cmd.email
  preferredUsername := (normalizeOptional cmd.preferredUsername).getD (trimWhitespace cmd.email)
  name := normalizeOptional cmd.name

/-- The check for a user with the same mail address or user name. -/
def ensureUnique {ε : Type} (errors : CreationErrors ε) (tenantId : TenantId) (a : UserAttributes) :
    ServiceFlow ε Unit := do
  let sameEmail ← orLeave (db (.users (.findByEmail tenantId a.email))) (errors.internal ·.display)
  ensure sameEmail.isNone (errors.conflict "email already registered")
  let sameName ← orLeave (db (.users (.findByUsername tenantId a.preferredUsername)))
    (errors.internal ·.display)
  ensure sameName.isNone (errors.conflict "preferred_username already taken")

/-- A new user with two new identifiers. -/
def newUser (tenantId : TenantId) (a : UserAttributes) (passwordHash : String)
    (emailVerified mustChangePassword : Bool) : Service User := do
  let _ ← clockNow
  let id ← newId
  let sub ← newId
  return {
    id := id
    tenantId := tenantId
    sub := sub
    email := a.email
    emailVerified := emailVerified
    preferredUsername := some a.preferredUsername
    name := a.name
    language := none
    passwordHash := passwordHash
    mustChangePassword := mustChangePassword
    status := .active
    failedLoginCount := 0
    lockedUntil := none }

/-- The user and its HOME membership, in two statements. -/
def storeUser {ε : Type} (errors : CreationErrors ε) (user : User) : ServiceFlow ε Unit := do
  orLeave (db (.users (.create user))) fun
    | .conflict detail => errors.conflict detail
    | e => errors.internal e.display
  orLeave (db (.memberships (.create (.newHome user.tenantId user.id)))) (errors.internal ·.display)

/-! ## `RegisterService` -/

structure RegisterCommand where
  email : String
  preferredUsername : Option String
  password : String
  name : Option String
  deriving DecidableEq, Repr

inductive RegisterError where
  | validation (detail : String)
  | forbidden (detail : String)
  | rateLimited
  | conflict (detail : String)
  | internal (detail : String)
  deriving DecidableEq, Repr

structure RegisteredUser where
  sub : Uuid
  userId : Uuid
  status : UserStatus
  email : String
  deriving DecidableEq, Repr

def registerErrors : CreationErrors RegisterError := ⟨.conflict, .internal⟩

/-- `register` up to the user it stores. -/
def prepareRegistration (tenantId : TenantId) (cmd : RegisterCommand) (ipAddress : Option String) :
    ServiceFlow RegisterError User := do
  let started ← clockNow
  let allowed ← limit .register (ipAddress.getD "unknown") started
  ensure allowed .rateLimited
  let tenant ← orLeave (db (.tenants (.findById tenantId))) (.internal ·.display)
  ensure (tenant.any (·.selfRegistrationEnabled))
    (.forbidden "self-registration is disabled for this tenant")
  let a := attributesOf ⟨cmd.email, cmd.preferredUsername, cmd.name⟩
  orThrow (validateEmail a.email) (.validation ·.display)
  orThrow (validatePasswordStrength cmd.password) .validation
  orThrow (validatePreferredUsername a.preferredUsername) (.validation ·.display)
  ensureUnique registerErrors tenantId a
  let passwordHash ← orLeave (hashPassword cmd.password) (.internal ·.display)
  newUser tenantId a passwordHash false false

/-- `register`. -/
def register (tenantId : TenantId) (cmd : RegisterCommand) (ipAddress : Option String) :
    ServiceFlow RegisterError RegisteredUser := do
  let user ← prepareRegistration tenantId cmd ipAddress
  storeUser registerErrors user
  return ⟨user.sub, user.id, user.status, user.email⟩

/-! ## `UserManagementService` -/

inductive UserManagementError where
  | validation (detail : String)
  | conflict (detail : String)
  | internal (detail : String)
  deriving DecidableEq, Repr

structure CreatedUser where
  userId : Uuid
  sub : Uuid
  generatedPassword : String
  deriving DecidableEq, Repr

structure PreparedUser where
  user : User
  generatedPassword : String
  deriving DecidableEq, Repr

def userManagementErrors : CreationErrors UserManagementError := ⟨.conflict, .internal⟩

/-- `prepare_user`: a user that an administrator creates has its mail address verified and a generated
password to be changed. -/
def prepareUser (tenantId : TenantId) (cmd : CreateUserCommand) :
    ServiceFlow UserManagementError PreparedUser := do
  let a := attributesOf cmd
  orThrow (validateEmail a.email) (.validation ·.display)
  orThrow (validatePreferredUsername a.preferredUsername) (.validation ·.display)
  ensureUnique userManagementErrors tenantId a
  let generatedPassword ← randomToken generatedPasswordBytes
  let passwordHash ← orLeave (hashPassword generatedPassword) (.internal ·.display)
  let user ← newUser tenantId a passwordHash true true
  return ⟨user, generatedPassword⟩

/-- `create_user`. -/
def createUser (tenantId : TenantId) (cmd : CreateUserCommand) :
    ServiceFlow UserManagementError CreatedUser := do
  let prepared ← prepareUser tenantId cmd
  storeUser userManagementErrors prepared.user
  return ⟨prepared.user.id, prepared.user.sub, prepared.generatedPassword⟩

end IdpMvp
