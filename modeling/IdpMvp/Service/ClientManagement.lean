import IdpMvp.Store.Ops

/-!
# Clients

Model of `application/client_management.rs`: the clients of a tenant are registered, changed, and given a
new secret. `update` and `rotateSecret` load the whole client, change some of its fields and write every
column back.
-/

namespace IdpMvp

open Program Program.Flow

/-- `Scope::parse`. -/
def Scope.parse (s : String) : Option Scope :=
  [Scope.openId, .profile, .email, .offlineAccess].find? (·.asStr = s)

inductive ClientManagementError where
  | validation (detail : String)
  | notFound
  | conflict (detail : String)
  | internal (detail : String)
  deriving DecidableEq, Repr

structure RegisterClientCommand where
  appName : String
  clientType : ClientType
  redirectUris : List String
  scopes : List String
  requirePkce : Option Bool
  postLogoutRedirectUris : List String
  frontchannelLogoutUri : Option String
  backchannelLogoutUri : Option String
  deriving DecidableEq, Repr

/-- A field that is `none` is not changed. -/
structure UpdateClientCommand where
  appName : Option String
  redirectUris : Option (List String)
  scopes : Option (List String)
  status : Option ClientStatus
  postLogoutRedirectUris : Option (List String)
  frontchannelLogoutUri : Option (Option String)
  backchannelLogoutUri : Option (Option String)
  deriving DecidableEq, Repr

/-- The secret is there for a confidential client only, in plain text. -/
structure RegisteredClient where
  client : Client
  clientSecret : Option String
  deriving DecidableEq, Repr

namespace ClientManagement

def clientIdBytes : Nat := 16

def clientSecretBytes : Nat := 32

/-! ## Validation -/

/-- `validate_app_name`. -/
def validateAppName (appName : String) : Except ClientManagementError String :=
  let trimmed := trimWhitespace appName
  if trimmed = "" then .error (.validation "app_name must not be empty") else .ok trimmed

/-- `validate_redirect_uri`. -/
def validateRedirectUri (D : Deploy) (uri : String) : Except ClientManagementError Unit :=
  if '*' ∈ uri.toList then .error (.validation ("redirect_uri must not contain a wildcard: " ++ uri))
  else
    match D.urlParse uri with
    | none => .error (.validation ("invalid redirect_uri: " ++ uri))
    | some parsed =>
      if D.urlScheme parsed ∉ ["http", "https"] then
        .error (.validation ("redirect_uri scheme must be http or https: " ++ uri))
      else if (D.urlFragment parsed).isSome then
        .error (.validation ("redirect_uri must not contain a fragment: " ++ uri))
      else .ok ()

/-- The loop of both validations of a list: each element is valid and was not seen before. -/
def checkEach (check : String → Except ClientManagementError Unit) (duplicate : String)
    (seen : List String) : List String → Except ClientManagementError Unit
  | [] => .ok ()
  | x :: rest => do
    check x
    if x ∈ seen then .error (.validation (duplicate ++ x)) else checkEach check duplicate (x :: seen) rest

/-- `validate_redirect_uris`. -/
def validateRedirectUris (D : Deploy) (uris : List String) : Except ClientManagementError (List String) :=
  if uris.isEmpty then .error (.validation "at least one redirect_uri is required")
  else do
    checkEach (validateRedirectUri D) "duplicate redirect_uri: " [] uris
    return uris

/-- A scope of the list in `validate_scopes`. -/
def validateScope (scope : String) : Except ClientManagementError Unit :=
  if (Scope.parse scope).isSome then .ok () else .error (.validation ("unsupported scope: " ++ scope))

/-- `validate_scopes`. -/
def validateScopes (scopes : List String) : Except ClientManagementError (List String) :=
  if scopes.isEmpty then .error (.validation "at least one scope is required")
  else do
    checkEach validateScope "duplicate scope: " [] scopes
    if scopes.any (· = Scope.openId.asStr) then return scopes
    else .error (.validation "scopes must include `openid`")

/-! ## `ClientManagementService` -/

/-- `load`. -/
def load (tenantId : TenantId) (clientId : String) : ServiceFlow ClientManagementError Client := do
  let row ← orLeave (db (.clients (.findByClientId tenantId clientId))) (.internal ·.display)
  found row .notFound

/-- A new secret and its hash. -/
def drawSecret : ServiceFlow ClientManagementError (String × String) := do
  let plain ← randomToken clientSecretBytes
  let hash ← orLeave (hashPassword plain) (.internal ·.display)
  return (plain, hash)

/-- The secret of a new client: only a confidential one has one. -/
def initialSecret (clientType : ClientType) :
    ServiceFlow ClientManagementError (Option (String × String)) :=
  match clientType with
  | .publicClient => return none
  | .confidential => do return some (← drawSecret)

/-- A public client has to use PKCE. -/
def usesPkce (cmd : RegisterClientCommand) : Bool :=
  match cmd.clientType with
  | .publicClient => true
  | .confidential => cmd.requirePkce.getD true

/-- How `register` reports a client that could not be stored. -/
def storeError : DomainError → ClientManagementError
  | .conflict detail => .conflict detail
  | e => .internal e.display

/-- `ClientManagementService::register`. -/
def register (D : Deploy) (tenantId : TenantId) (cmd : RegisterClientCommand) :
    ServiceFlow ClientManagementError RegisteredClient := do
  let appName ← orThrow (validateAppName cmd.appName) id
  let redirectUris ← orThrow (validateRedirectUris D cmd.redirectUris) id
  let scopes ← orThrow (validateScopes cmd.scopes) id
  let secret ← initialSecret cmd.clientType
  let _ ← clockNow
  let id ← newId
  let clientId ← randomHex clientIdBytes
  let client : Client := {
    id := id
    tenantId := tenantId
    clientId := clientId
    clientSecretHash := secret.map (·.2)
    clientType := cmd.clientType
    clientStatus := .active
    appName := appName
    redirectUris := redirectUris
    grantTypes := ["authorization_code"]
    responseTypes := ["code"]
    scopes := scopes
    tokenEndpointAuthMethod := match cmd.clientType with
      | .publicClient => .none
      | .confidential => .clientSecretBasic
    requirePkce := usesPkce cmd
    postLogoutRedirectUris := cmd.postLogoutRedirectUris
    frontchannelLogoutUri := cmd.frontchannelLogoutUri
    backchannelLogoutUri := cmd.backchannelLogoutUri }
  orLeave (db (.clientAdmin (.create client))) storeError
  return ⟨client, secret.map (·.1)⟩

/-- A field of a command after its validation, or the old value if it is not there. -/
def changed {α β : Type} (field : Option α) (old : β) (validate : α → Except ClientManagementError β) :
    Except ClientManagementError β :=
  match field with
  | none => .ok old
  | some value => validate value

/-- The client with the fields of the command. -/
def applyUpdate (D : Deploy) (cmd : UpdateClientCommand) (client : Client) :
    Except ClientManagementError Client := do
  let appName ← changed cmd.appName client.appName validateAppName
  let redirectUris ← changed cmd.redirectUris client.redirectUris (validateRedirectUris D)
  let scopes ← changed cmd.scopes client.scopes validateScopes
  return { client with
    appName := appName
    redirectUris := redirectUris
    scopes := scopes
    clientStatus := cmd.status.getD client.clientStatus
    postLogoutRedirectUris := cmd.postLogoutRedirectUris.getD client.postLogoutRedirectUris
    frontchannelLogoutUri := cmd.frontchannelLogoutUri.getD client.frontchannelLogoutUri
    backchannelLogoutUri := cmd.backchannelLogoutUri.getD client.backchannelLogoutUri }

/-- An update that is applied has validated the fields of its command. -/
lemma applyUpdate_ok {D : Deploy} {cmd : UpdateClientCommand} {client client' : Client}
    (applied : applyUpdate D cmd client = .ok client') :
    ∃ appName redirectUris scopes, changed cmd.appName client.appName validateAppName = .ok appName ∧
      changed cmd.redirectUris client.redirectUris (validateRedirectUris D) = .ok redirectUris ∧
      changed cmd.scopes client.scopes validateScopes = .ok scopes ∧
      client' = { client with
        appName := appName
        redirectUris := redirectUris
        scopes := scopes
        clientStatus := cmd.status.getD client.clientStatus
        postLogoutRedirectUris := cmd.postLogoutRedirectUris.getD client.postLogoutRedirectUris
        frontchannelLogoutUri := cmd.frontchannelLogoutUri.getD client.frontchannelLogoutUri
        backchannelLogoutUri := cmd.backchannelLogoutUri.getD client.backchannelLogoutUri } := by
  unfold applyUpdate at applied
  cases name : changed cmd.appName client.appName validateAppName with
  | error e =>
    rw [name] at applied
    cases applied
  | ok appName =>
    rw [name] at applied
    cases uris : changed cmd.redirectUris client.redirectUris (validateRedirectUris D) with
    | error e =>
      rw [uris] at applied
      cases applied
    | ok redirectUris =>
      rw [uris] at applied
      cases list : changed cmd.scopes client.scopes validateScopes with
      | error e =>
        rw [list] at applied
        cases applied
      | ok scopes =>
        rw [list] at applied
        exact ⟨appName, redirectUris, scopes, rfl, rfl, rfl, (Except.ok.inj applied).symm⟩

/-- `ClientManagementService::update`. -/
def update (D : Deploy) (tenantId : TenantId) (clientId : String) (cmd : UpdateClientCommand) :
    ServiceFlow ClientManagementError Client := do
  let client ← load tenantId clientId
  let client ← orThrow (applyUpdate D cmd client) id
  orLeave (db (.clientAdmin (.update client))) (.internal ·.display)
  return client

/-- `ClientManagementService::rotate_secret`. -/
def rotateSecret (tenantId : TenantId) (clientId : String) :
    ServiceFlow ClientManagementError (Client × String) := do
  let client ← load tenantId clientId
  ensure (client.clientType = .confidential) (.validation "only confidential clients have a secret")
  let (plain, hash) ← drawSecret
  let client := { client with clientSecretHash := some hash }
  orLeave (db (.clientAdmin (.update client))) (.internal ·.display)
  return (client, plain)

end ClientManagement
end IdpMvp
