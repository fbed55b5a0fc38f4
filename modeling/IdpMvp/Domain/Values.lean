import Mathlib.Tactic.Common

/-!
# Domain values

Model of `crates/core/src/domain/values.rs`, `error.rs`, `password.rs` and of the time and
identifier types the entities are made of.

Times are microseconds since the Unix epoch, the precision of the `DATETIME(6)` columns; durations
are microseconds too. Identifiers are the 128 bits of a UUID. The string-valued enumerations of
`values.rs` are inductive types with their `as_str`.
-/

namespace IdpMvp

/-- A point in time (`chrono::DateTime<Utc>`), in microseconds. -/
abbrev DateTime := Int

/-- A span of time (`chrono::Duration`), in microseconds. -/
abbrev Duration := Int

/-- Whole seconds since the epoch (`DateTime::timestamp`). -/
def DateTime.timestamp (t : DateTime) : Int := Int.fdiv t 1000000

/-- Whole seconds of a span, towards zero (`Duration::num_seconds`). -/
def Duration.numSeconds (d : Duration) : Int := Int.tdiv d 1000000

/-- A span of `n` minutes (`Duration::minutes`). -/
def Duration.minutes (n : Int) : Duration := n * 60000000

/-- A span of `n` days (`Duration::days`). -/
def Duration.days (n : Int) : Duration := n * 86400000000

/-- A UUID (`uuid::Uuid`). -/
structure Uuid where
  bits : BitVec 128
  deriving DecidableEq, Repr

/-- A tenant's identifier (`domain/tenant.rs`). -/
abbrev TenantId := Uuid

/-- An account's state. -/
inductive UserStatus where
  | active
  | disabled
  | locked
  deriving DecidableEq, Repr

inductive TenantStatus where
  | active
  | disabled
  deriving DecidableEq, Repr

inductive MembershipType where
  | home
  | guest
  deriving DecidableEq, Repr

inductive MembershipStatus where
  | invited
  | active
  deriving DecidableEq, Repr

inductive ClientType where
  | publicClient
  | confidential
  deriving DecidableEq, Repr

inductive ClientStatus where
  | active
  | disabled
  deriving DecidableEq, Repr

inductive TokenEndpointAuthMethod where
  | clientSecretBasic
  | none
  deriving DecidableEq, Repr

inductive SigningKeyStatus where
  | active
  | retired
  deriving DecidableEq, Repr

/-- The algorithms the `algorithm` column of `signing_keys` admits. -/
inductive SigningAlgorithm where
  | rs256
  | es256
  deriving DecidableEq, Repr

def SigningAlgorithm.asStr : SigningAlgorithm → String
  | rs256 => "RS256"
  | es256 => "ES256"

inductive CodeChallengeMethod where
  | s256
  deriving DecidableEq, Repr

def CodeChallengeMethod.asStr : CodeChallengeMethod → String
  | s256 => "S256"

inductive Scope where
  | openId
  | profile
  | email
  | offlineAccess
  deriving DecidableEq, Repr

def Scope.asStr : Scope → String
  | openId => "openid"
  | profile => "profile"
  | email => "email"
  | offlineAccess => "offline_access"

/-- `DomainError` of `error.rs`. -/
inductive DomainError where
  | notFound
  | conflict (detail : String)
  | invalidValue (detail : String)
  | repository (detail : String)
  deriving DecidableEq, Repr

/-- The `Display` text of a `DomainError`. -/
def DomainError.display : DomainError → String
  | notFound => "resource not found"
  | conflict detail => "conflict: " ++ detail
  | invalidValue detail => "invalid value: " ++ detail
  | repository detail => "repository error: " ++ detail

/-- `SigningAlgorithm::parse`. -/
def SigningAlgorithm.parse (s : String) : Except DomainError SigningAlgorithm :=
  if s = "RS256" then .ok .rs256
  else if s = "ES256" then .ok .es256
  else .error (.invalidValue ("SigningAlgorithm: " ++ s))

/-- `OAuthErrorCode` of `error.rs`. -/
inductive OAuthErrorCode where
  | invalidRequest
  | invalidClient
  | invalidGrant
  | unauthorizedClient
  | unsupportedGrantType
  | unsupportedResponseType
  | invalidScope
  | accessDenied
  | serverError
  | loginRequired
  | consentRequired
  | interactionRequired
  deriving DecidableEq, Repr

def OAuthErrorCode.asStr : OAuthErrorCode → String
  | invalidRequest => "invalid_request"
  | invalidClient => "invalid_client"
  | invalidGrant => "invalid_grant"
  | unauthorizedClient => "unauthorized_client"
  | unsupportedGrantType => "unsupported_grant_type"
  | unsupportedResponseType => "unsupported_response_type"
  | invalidScope => "invalid_scope"
  | accessDenied => "access_denied"
  | serverError => "server_error"
  | loginRequired => "login_required"
  | consentRequired => "consent_required"
  | interactionRequired => "interaction_required"

/-! ## Passwords (`password.rs`) -/

def minPasswordLen : Nat := 8

def maxPasswordLen : Nat := 256

/-- `validate_password_strength`: the length in bytes is between the two bounds. -/
def validatePasswordStrength (password : String) : Except String Unit :=
  if password.utf8ByteSize < minPasswordLen then
    .error ("password must be at least " ++ toString minPasswordLen ++ " characters")
  else if password.utf8ByteSize > maxPasswordLen then
    .error ("password must be at most " ++ toString maxPasswordLen ++ " characters")
  else
    .ok ()

/-! ## Strings -/

/-- Unicode `White_Space` (`char::is_whitespace`). -/
def isWhiteSpace (c : Char) : Bool :=
  (0x09 ≤ c.toNat && c.toNat ≤ 0x0D) || c.toNat = 0x20 || c.toNat = 0x85 || c.toNat = 0xA0 ||
    c.toNat = 0x1680 || (0x2000 ≤ c.toNat && c.toNat ≤ 0x200A) || c.toNat = 0x2028 ||
    c.toNat = 0x2029 || c.toNat = 0x202F || c.toNat = 0x205F || c.toNat = 0x3000

/-- `str::split_whitespace` on characters, with the word read so far in `cur`. -/
def splitWhitespaceAux : List Char → List Char → List String
  | cur, [] => if cur.isEmpty then [] else [String.ofList cur]
  | cur, c :: cs =>
    if isWhiteSpace c then
      if cur.isEmpty then splitWhitespaceAux [] cs
      else String.ofList cur :: splitWhitespaceAux [] cs
    else splitWhitespaceAux (cur ++ [c]) cs

/-- The maximal runs of non-whitespace characters (`str::split_whitespace`). -/
def splitWhitespace (s : String) : List String := splitWhitespaceAux [] s.toList

/-- `v.join(" ")`. -/
def joinScope (scope : List String) : String := String.intercalate " " scope

/-- `str::trim`. -/
def trimWhitespace (s : String) : String :=
  String.ofList ((s.toList.dropWhile isWhiteSpace).reverse.dropWhile isWhiteSpace).reverse

/-- An option that holds a non-empty string (`v.filter(|s| !s.is_empty())`). -/
def nonEmpty : Option String → Option String
  | some s => if s = "" then none else some s
  | none => none

lemma nonEmpty_some {o : Option String} {v : String} (given : nonEmpty o = some v) : o = some v ∧ v ≠ "" := by
  cases o with
  | none => cases given
  | some w =>
    by_cases empty : w = ""
    · rw [nonEmpty, if_pos empty] at given
      cases given
    · rw [nonEmpty, if_neg empty] at given
      obtain rfl := Option.some.inj given
      exact ⟨rfl, empty⟩

/-! ## Attributes of users (`values.rs`) -/

/-- `validate_email`: one `@` with text on both sides. -/
def validateEmail (email : String) : Except DomainError Unit :=
  match email.toList.splitOn '@' with
  | [local_, domain] =>
    if local_.isEmpty || domain.isEmpty then .error (.invalidValue "invalid email format") else .ok ()
  | _ => .error (.invalidValue "invalid email format")

/-- The limit of a `VARCHAR(255)` column, in characters. -/
def validateLength (maxLen : Nat) (field value : String) : Except DomainError Unit :=
  if value.length > maxLen then
    .error (.invalidValue (field ++ " must be at most " ++ toString maxLen ++ " characters"))
  else .ok ()

def preferredUsernameMaxLen : Nat := 255

/-- `validate_preferred_username`. -/
def validatePreferredUsername (value : String) : Except DomainError Unit :=
  validateLength preferredUsernameMaxLen "preferred_username" value

def displayNameMaxLen : Nat := 255

/-- `validate_display_name`. -/
def validateDisplayName (value : String) : Except DomainError Unit :=
  validateLength displayNameMaxLen "name" value

/-- `normalize_optional`: trimmed, and nothing when that leaves nothing. -/
def normalizeOptional (value : Option String) : Option String := nonEmpty (value.map trimWhitespace)

/-- The rate limiters beside the one of the logins, each with a memory of its own. -/
inductive Limiter where
  | register
  | passwordReset
  deriving DecidableEq, Repr

/-! ## Permission codes (`permission.rs`) -/

/-- `TENANT_ADMIN`. -/
def tenantAdmin : String := "idp.tenant.admin"

/-- `SYSTEM_ADMIN`. -/
def systemAdmin : String := "idp.system.admin"

/-- `PermissionCode`: a text that is not blank. -/
structure PermissionCode where
  text : String
  nonblank : ¬ text.toList.all isWhiteSpace
  deriving DecidableEq, Repr

/-- `PermissionCode::parse`. -/
def PermissionCode.parse (s : String) : Except DomainError PermissionCode :=
  if blank : s.toList.all isWhiteSpace then
    .error (.invalidValue "permission code must not be empty")
  else
    .ok ⟨s, blank⟩

end IdpMvp
