import Mathlib.Data.List.Basic
import IdpMvp.Encoding.Base64
import IdpMvp.Encoding.Percent
import IdpMvp.Service.KeyService

/-!
# Basic credentials

Model of `parse_basic_credentials` in the handlers `token.rs`, `revoke.rs` and `introspect.rs`: the client id and
secret of an `Authorization` header.
-/

namespace IdpMvp

open Encoding

/-- `HeaderValue::to_str`: visible ASCII, spaces and tabs. -/
def headerText (value : Bytes) : Option String :=
  if value.all fun b => b = 9 ∨ (32 ≤ b.toNat ∧ b.toNat < 127) then some (asciiText value) else none

/-- `str::split_once`. -/
def splitOnce (sep : Char) (text : String) : Option (String × String) :=
  match text.toList.span (· ≠ sep) with
  | (first, _ :: second) => some (String.ofList first, String.ofList second)
  | (_, []) => none

/-- `percent_decode_str(text).decode_utf8()`. -/
def percentDecodeStr (text : String) : Option String := fromUtf8 (percentDecode (asBytes text))

/-- The credentials of a header value, if it is well formed. -/
def readBasic (base64 : Base64) (value : Bytes) : Option (String × String) := do
  let value ← headerText value
  let encoded ← value.toList.dropPrefix? "Basic ".toList
  let decoded ← (base64.decode (trimWhitespace (String.ofList encoded))).toOption
  let decoded ← fromUtf8 decoded
  let (id, secret) ← splitOnce ':' decoded
  let id ← percentDecodeStr id
  let secret ← percentDecodeStr secret
  return (id, secret)

/-- `parse_basic_credentials`, which the three handlers have each of their own: they differ in the error. -/
def basicCredentials {E : Type} (base64 : Base64) (malformed : E) :
    Option Bytes → Except E (Option (String × String))
  | none => .ok none
  | some value =>
    match readBasic base64 value with
    | some pair => .ok (some pair)
    | none => .error malformed

/-- The error of the token endpoint. -/
inductive MalformedBasicHeader where
  | malformedBasicHeader
  deriving DecidableEq, Repr

/-- `parse_basic_credentials` of `token.rs`. -/
def TokenEndpoint.parseBasicCredentials (base64 : Base64) :
    Option Bytes → Except MalformedBasicHeader (Option (String × String)) :=
  basicCredentials base64 .malformedBasicHeader

/-- `parse_basic_credentials` of `revoke.rs`. -/
def RevokeEndpoint.parseBasicCredentials (base64 : Base64) :
    Option Bytes → Except Unit (Option (String × String)) :=
  basicCredentials base64 ()

/-- `parse_basic_credentials` of `introspect.rs`. -/
def IntrospectEndpoint.parseBasicCredentials (base64 : Base64) :
    Option Bytes → Except Unit (Option (String × String)) :=
  basicCredentials base64 ()

end IdpMvp
