import IdpMvp.Service.Token

/-!
# Signing keys

Model of `application/key_service.rs`: the bootstrap of the first key, the rotation in the background
and the operations of the administrators. `active_signing_key` is in `Service/Token.lean`.
-/

namespace IdpMvp

open Program Program.Flow

/-- `KEY_VALIDITY_DAYS`. -/
def keyValidityDays : Int := 365

/-- `algorithm.as_str().to_lowercase().replace("256", "")`. -/
def SigningAlgorithm.tag : SigningAlgorithm → String
  | rs256 => "rs"
  | es256 => "es"

/-- `str::as_bytes`. -/
def asBytes (s : String) : Bytes := s.toUTF8.data.toList

/-- `new_key_material`. -/
def newKeyMaterial (D : Deploy) (algorithm : SigningAlgorithm) : ServiceFlow String SigningKey := do
  let pair ← orLeave (generateKeypair algorithm) id
  let now ← clockNow
  let suffix ← randomToken 6
  let privateKeyEncrypted ← orLeave (encrypt (asBytes pair.1)) id
  return {
    kid := D.formatDate now ++ "-" ++ algorithm.tag ++ "-" ++ suffix
    algorithm := algorithm.asStr
    publicKey := pair.2
    privateKeyEncrypted := privateKeyEncrypted
    status := .active
    notBefore := now
    notAfter := now + Duration.days keyValidityDays }

/-- `find_active_key`. -/
def findActiveKey : ServiceFlow String (Option SigningKey) :=
  orLeave (db (.signingKeys .findActive)) ("find active key: " ++ ·.display)

/-- `generate_key_internal`. -/
def generateKeyInternal (D : Deploy) (algorithm : SigningAlgorithm) : ServiceFlow String SigningKey := do
  let key ← newKeyMaterial D algorithm
  orLeave (db (.signingKeyAdmin (.insert key))) ("insert signing key: " ++ ·.display)
  return key

/-- `insert_if_no_active` of the repository: any `ACTIVE` row counts, whatever its validity. -/
def insertIfNoActive (key : SigningKey) : ServiceFlow DomainError Bool := do
  orLeave (db (.signingKeys .bootstrapLock)) id
  let active ← orLeave (db (.signingKeys .anyActive)) id
  if active then return false
  orLeave (db (.signingKeyAdmin (.insert key))) id
  return true

/-- `ensure_active_key`. -/
def ensureActiveKey (D : Deploy) : ServiceFlow String Unit := do
  let active ← findActiveKey
  if active.isSome then return ()
  let key ← newKeyMaterial D .rs256
  let _ ← orLeave (insertIfNoActive key).run ("bootstrap signing key: " ++ ·.display)
  return ()

/-- `jwks`. -/
def jwks (D : Deploy) : ServiceFlow String (List Jwk) := do
  let keys ← orLeave (db (.signingKeys .listPublished)) ("list published keys: " ++ ·.display)
  orThrow (keys.mapM fun key => D.publicJwk key.kid key.algorithm key.publicKey) id

/-- `rotate_if_needed`. -/
def rotateIfNeeded (D : Deploy) (leadDays : Nat) : ServiceFlow String Unit := do
  let now ← clockNow
  match ← findActiveKey with
  | none =>
    let _ ← generateKeyInternal D .rs256
    return ()
  | some active =>
    if active.notAfter - now > Duration.days leadDays then return ()
    let algorithm ← orThrow (SigningAlgorithm.parse active.algorithm)
      ("unknown algorithm on active key: " ++ ·.display)
    let _ ← generateKeyInternal D algorithm
    orLeave (db (.signingKeyAdmin (.updateStatus active.kid .retired)))
      (fun e => "retire old key " ++ active.kid ++ ": " ++ e.display)

/-! ## `KeyManagementError` -/

inductive KeyManagementError where
  | notFound (kid : String)
  | validation (detail : String)
  | internal (detail : String)
  deriving DecidableEq, Repr

/-- `generate_key`. -/
def generateKey (D : Deploy) (algorithm : SigningAlgorithm) : ServiceFlow KeyManagementError SigningKey :=
  orLeave (generateKeyInternal D algorithm).run .internal

/-- The key an operation names. -/
def loadKey (kid : String) : ServiceFlow KeyManagementError SigningKey := do
  let row ← orLeave (db (.signingKeys (.findByKid kid))) (.internal ·.display)
  found row (.notFound kid)

/-- `retire_key`. -/
def retireKey (kid : String) : ServiceFlow KeyManagementError Unit := do
  let key ← loadKey kid
  ensure (key.status ≠ .retired) (.validation ("key " ++ kid ++ " is already RETIRED"))
  orLeave (db (.signingKeyAdmin (.updateStatus kid .retired))) fun
    | .notFound => .notFound kid
    | e => .internal e.display

/-- `delete_key`. -/
def deleteKey (kid : String) : ServiceFlow KeyManagementError Unit := do
  let key ← loadKey kid
  ensure (key.status ≠ .active) (.validation "cannot delete an ACTIVE key; retire it first")
  orLeave (db (.signingKeyAdmin (.delete kid))) (.internal ·.display)

end IdpMvp
