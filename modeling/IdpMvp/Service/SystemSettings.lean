import IdpMvp.Domain.Settings
import IdpMvp.Service.KeyService
import IdpMvp.Service.MailLinks

/-!
# System settings

Model of `application/system_settings.rs`. A runtime setting is checked against the type of its key and written over
the one in the table; it takes effect at the next start. The settings of the mail server are six rows, written one
after another, the password encrypted.
-/

namespace IdpMvp

open Program Program.Flow

namespace SystemSettings

/-- `upsert_plain`. -/
def upsertPlain (key value : String) : ServiceFlow DomainError Unit :=
  orLeave (db (.systemSettings (.upsert ⟨key, value, false⟩))) id

/-- The check of a value that is not empty. -/
def validateKind (key value : String) : SettingKind → Except DomainError Unit
  | .unsignedInteger =>
    match parseU32 value with
    | .ok _ => .ok ()
    | .error _ => .error (.invalidValue
        ("setting " ++ key ++ " must be a non-negative integer (max " ++ toString u32Max ++ ")"))
  | .boolean =>
    if value ≠ "true" ∧ value ≠ "false" then
      .error (.invalidValue ("setting " ++ key ++ " must be true or false"))
    else .ok ()
  | .text => .ok ()

/-- The value that is saved. -/
def savedValue (value : Option String) : String := (value.map trimWhitespace).getD ""

/-- The checks of `update_runtime_setting`. -/
def validate (key : String) (value : Option String) : Except DomainError Unit :=
  match runtimeSettingDefinition key with
  | none => .error (.invalidValue ("unknown runtime setting key: " ++ key))
  | some d =>
    if d.owner ≠ .dbManaged ∨ d.secret then
      .error (.invalidValue ("setting " ++ key ++ " is not DB-managed"))
    else if savedValue value ≠ "" then validateKind key (savedValue value) d.kind
    else .ok ()

/-- `SystemSettingsService::update_runtime_setting`. -/
def updateRuntimeSetting (key : String) (value : Option String) : ServiceFlow DomainError Unit := do
  orThrow (validate key value) id
  upsertPlain key (savedValue value)

end SystemSettings

/-! ## SMTP -/

/-- `SmtpSettingsView`: whether there is a password, not which. -/
structure SmtpSettingsView where
  host : String
  port : Option UInt16
  username : String
  passwordSet : Bool
  fromAddress : String
  useTls : Bool
  deriving DecidableEq, Repr

/-- `UpdateSmtpCommand`: no password leaves the stored one, an empty one clears it. -/
structure UpdateSmtpCommand where
  host : String
  port : Option UInt16
  username : String
  password : Option String
  fromAddress : String
  useTls : Bool
  deriving DecidableEq, Repr

/-- `SmtpServerConfig` of `mailer.rs` with all that a mailer needs. -/
structure SmtpConnection where
  host : String
  port : Option UInt16
  username : String
  password : String
  fromAddress : String
  useTls : Bool
  deriving DecidableEq, Repr

namespace SystemSettings

/-- `v.parse().ok()` of a port. -/
def parsePort (text : String) : Option UInt16 := (parseUnsigned 65535 text).toOption.map UInt16.ofNat

/-- `p.to_string()` of a port, and nothing for no port. -/
def portText (port : Option UInt16) : String := (port.map fun p => toString p.toNat).getD ""

def smtpPort (settings : List SystemSetting) : Option UInt16 := (settingValue settings "smtp.port").bind parsePort

def smtpUseTls (settings : List SystemSetting) : Bool := (settingValue settings "smtp.use_tls").any (· = "true")

/-- The view of the loaded settings. -/
def smtpView (settings : List SystemSetting) : SmtpSettingsView where
  host := (settingValue settings "smtp.host").getD ""
  port := smtpPort settings
  username := (settingValue settings "smtp.username").getD ""
  passwordSet := (settingValue settings "smtp.password").any (· ≠ "")
  fromAddress := (settingValue settings "smtp.from_address").getD ""
  useTls := smtpUseTls settings

/-- `get_smtp`. -/
def getSmtp : ServiceFlow DomainError SmtpSettingsView := do
  let settings ← orLeave (db (.systemSettings .loadAll)) id
  return smtpView settings

/-- `smtp_server`. -/
def smtpServer (D : Deploy) : ServiceFlow DomainError (Option SmtpConnection) := do
  let settings ← orLeave (db (.systemSettings .loadAll)) id
  let host := (settingValue settings "smtp.host").getD ""
  let fromAddress := (settingValue settings "smtp.from_address").getD ""
  if host = "" || fromAddress = "" then return none
  let password ← orThrow (smtpPassword D settings) id
  return some ⟨host, smtpPort settings, (settingValue settings "smtp.username").getD "", password, fromAddress,
    smtpUseTls settings⟩

/-- What is stored for a password. -/
def storedPassword (password : String) : ServiceFlow DomainError String :=
  if password = "" then return ""
  else orLeave (encrypt (asBytes password)) (fun e => .repository ("smtp password encrypt: " ++ e))

/-- The part of `update_smtp` that writes the password. -/
def updatePassword : Option String → ServiceFlow DomainError Unit
  | some password => do
    let stored ← storedPassword password
    orLeave (db (.systemSettings (.upsert ⟨"smtp.password", stored, true⟩))) id
  | none => return ()

/-- `update_smtp`. -/
def updateSmtp (cmd : UpdateSmtpCommand) : ServiceFlow DomainError SmtpSettingsView := do
  upsertPlain "smtp.host" cmd.host
  upsertPlain "smtp.port" (portText cmd.port)
  upsertPlain "smtp.username" cmd.username
  upsertPlain "smtp.from_address" cmd.fromAddress
  upsertPlain "smtp.use_tls" (if cmd.useTls then "true" else "false")
  updatePassword cmd.password
  getSmtp

end SystemSettings
end IdpMvp
