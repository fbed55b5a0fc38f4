import IdpMvp.Store.Ops

/-!
# Second factors and passkeys

Model of `application/totp_registration.rs` and `application/passkey_registration.rs`: a signed-in user
sets up, confirms and deletes a TOTP secret, and registers passkeys.
-/

namespace IdpMvp

open Program Program.Flow

/-- The user of a live SSO session, as both services resolve it. -/
def resolveSsoUser {ε : Type} (D : Deploy) (ssoSessionId : String) (expired : ε)
    (internal : String → ε) : ServiceFlow ε Uuid := do
  let row ← orLeave (db (.ssoSessions (.findByHash (D.sha256Hex ssoSessionId)))) (internal ·.display)
  let session ← found row expired
  let now ← clockNow
  ensure (!(session.idleExpiresAt ≤ now || session.absoluteExpiresAt ≤ now)) expired
  return session.userId

/-! ## `TotpRegistrationService` -/

inductive TotpRegistrationError where
  | alreadyConfigured
  | invalidCode
  | notFound
  | sessionExpired
  | internal (detail : String)
  deriving DecidableEq, Repr

structure TotpSetupData where
  totpUri : String
  secretBase32 : String
  deriving DecidableEq, Repr

namespace TotpRegistration

def secretBytes : Nat := 20

/-- `resolve_user`. -/
def resolveUser (D : Deploy) (ssoSessionId : String) : ServiceFlow TotpRegistrationError Uuid :=
  resolveSsoUser D ssoSessionId .sessionExpired .internal

/-- `TotpRegistrationService::setup`. -/
def setup (D : Deploy) (ssoSessionId accountName : String) :
    ServiceFlow TotpRegistrationError TotpSetupData := do
  let userId ← resolveUser D ssoSessionId
  -- A confirmed secret is not replaced.
  let existing ← orLeave (db (.totpSecrets (.findByUserId userId))) (.internal ·.display)
  ensure (!existing.any (·.isConfirmed)) .alreadyConfigured
  let bytes ← randomBytes secretBytes
  let totpUri ← orThrow (D.buildTotpUri bytes accountName D.baseIssuer) .internal
  let secretEncrypted ← orLeave (encrypt bytes) .internal
  let _ ← clockNow
  orLeave (db (.totpSecrets (.upsert ⟨userId, secretEncrypted, none⟩))) (.internal ·.display)
  return ⟨totpUri, D.toBase32 bytes⟩

/-- `TotpRegistrationService::confirm`. -/
def confirm (D : Deploy) (ssoSessionId code : String) : ServiceFlow TotpRegistrationError Unit := do
  let userId ← resolveUser D ssoSessionId
  let row ← orLeave (db (.totpSecrets (.findByUserId userId))) (.internal ·.display)
  let record ← found row .notFound
  -- Only a pending secret can be confirmed.
  ensure (!record.isConfirmed) .alreadyConfigured
  let bytes ← orThrow (D.decrypt record.secretEncrypted) .internal
  let valid ← orLeave (verifyTotpCode bytes code) .internal
  ensure valid .invalidCode
  let now ← clockNow
  orLeave (db (.totpSecrets (.confirm userId now))) (.internal ·.display)

/-- `TotpRegistrationService::delete`. -/
def delete (D : Deploy) (ssoSessionId : String) : ServiceFlow TotpRegistrationError Unit := do
  let userId ← resolveUser D ssoSessionId
  orLeave (db (.totpSecrets (.delete userId))) (.internal ·.display)

end TotpRegistration

/-! ## `PasskeyRegistrationService` -/

inductive PasskeyRegistrationError where
  | sessionExpired
  | challengeNotFound
  | invalidCredential (detail : String)
  | duplicateCredential
  | notFound
  | internal (detail : String)
  deriving DecidableEq, Repr

structure CredentialInfo where
  id : Uuid
  name : String
  lastUsedAt : Option DateTime
  deriving DecidableEq, Repr

namespace PasskeyRegistration

def challengeTtl : Duration := 300 * 1000000

/-- `resolve_user`, of which only the user id is used. -/
def resolveUser (D : Deploy) (ssoSessionId : String) : ServiceFlow PasskeyRegistrationError Uuid :=
  resolveSsoUser D ssoSessionId .sessionExpired .internal

/-- `PasskeyRegistrationService::begin`. -/
def begin (D : Deploy) (ssoSessionId userName : String) :
    ServiceFlow PasskeyRegistrationError (Uuid × String) := do
  let userId ← resolveUser D ssoSessionId
  -- A stored passkey that cannot be read is passed over.
  let existing ← orLeave (db (.passkeys (.credentialListByUserId userId))) (.internal ·.display)
  let passkeys := existing.filterMap fun c => (D.parsePasskey c.passkeyJson).toOption
  let (options, stateJson) ← orLeave (beginRegistration userId userName passkeys) .invalidCredential
  let now ← clockNow
  let challengeId ← uuidV4
  orLeave (db (.passkeys (.challengeCreate {
    id := challengeId
    userId := some userId
    challengeType := .register
    stateJson := stateJson
    authSessionId := none
    expiresAt := now + challengeTtl }))) (.internal ·.display)
  return (challengeId, options)

/-- How `complete` reports a credential that could not be stored. -/
def storeError : DomainError → PasskeyRegistrationError
  | .conflict _ => .duplicateCredential
  | e => .internal e.display

/-- The challenge of `complete`: it must be the user's and not expired. -/
def loadChallenge (challengeId userId : Uuid) (now : DateTime) :
    ServiceFlow PasskeyRegistrationError PasskeyChallenge := do
  let row ← orLeave (db (.passkeys (.challengeFindById challengeId))) (.internal ·.display)
  let challenge ← found row .challengeNotFound
  ensureOr (!(challenge.expiresAt ≤ now || challenge.userId ≠ some userId)) (do
    let _ ← db (.passkeys (.challengeDelete challengeId))
    return .challengeNotFound)
  return challenge

/-- `PasskeyRegistrationService::complete`. -/
def complete (D : Deploy) (ssoSessionId : String) (challengeId : Uuid) (name credentialValue : String) :
    ServiceFlow PasskeyRegistrationError Uuid := do
  let userId ← resolveUser D ssoSessionId
  let now ← clockNow
  let challenge ← loadChallenge challengeId userId now
  let regState ← orThrow (D.parseRegState challenge.stateJson) .internal
  let regCredential ← orThrow (D.parseRegCredential credentialValue) .invalidCredential
  let (credentialId, passkeyJson) ← orThrow (D.finishRegistration regCredential regState)
    .invalidCredential
  let id ← newId
  -- The challenge goes first; whether that succeeds is not looked at.
  let _ ← db (.passkeys (.challengeDelete challengeId))
  orLeave (db (.passkeys (.credentialCreate {
    id := id
    userId := userId
    credentialId := credentialId
    passkeyJson := passkeyJson
    name := trimWhitespace name
    lastUsedAt := none }))) storeError
  return id

/-- `PasskeyRegistrationService::delete`. -/
def delete (D : Deploy) (ssoSessionId : String) (credentialId : Uuid) :
    ServiceFlow PasskeyRegistrationError Unit := do
  let userId ← resolveUser D ssoSessionId
  orLeave (db (.passkeys (.credentialDelete credentialId userId))) (.internal ·.display)

/-- `PasskeyRegistrationService::list`. -/
def list (D : Deploy) (ssoSessionId : String) :
    ServiceFlow PasskeyRegistrationError (List CredentialInfo) := do
  let userId ← resolveUser D ssoSessionId
  let credentials ← orLeave (db (.passkeys (.credentialListByUserId userId))) (.internal ·.display)
  return credentials.map fun c => ⟨c.id, c.name, c.lastUsedAt⟩

end PasskeyRegistration
end IdpMvp
