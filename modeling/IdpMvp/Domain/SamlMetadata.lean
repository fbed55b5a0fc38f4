import IdpMvp.Domain.Values
import IdpMvp.Markup.Content

/-!
# SAML metadata of service providers

The import of `saml_metadata.rs`. Reading the text is `quick-xml`'s: the parser is given the events it
delivers, an error among them where it fails and the end of the list where it is at the end of the
file. Names are compared without their prefix, as the source does.
-/

namespace IdpMvp

open Markup

/-- `BINDING_HTTP_REDIRECT`. -/
def bindingHttpRedirect : String := "urn:oasis:names:tc:SAML:2.0:bindings:HTTP-Redirect"

/-- `BINDING_HTTP_POST`. -/
def bindingHttpPost : String := "urn:oasis:names:tc:SAML:2.0:bindings:HTTP-POST"

/-- `ImportedSpMetadata`. -/
structure ImportedSpMetadata where
  entityId : String
  acsUrl : String
  x509Certificate : String
  nameIdFormat : Option String
  displayName : Option String
  deriving DecidableEq, Repr

/-- What the text of an element is collected for. -/
inductive Capture where
  | certificate
  | displayName
  | nameIdFormat
  deriving DecidableEq, Repr

/-- The variables of the loop of `parse_sp_metadata`. -/
structure SpMetadata where
  entityId : Option String := none
  inSp : Bool := false
  acsCandidates : List (String × String) := []
  keyUse : Option String := none
  signingCert : Option String := none
  fallbackCert : Option String := none
  nameIdFormat : Option String := none
  displayName : Option String := none
  capture : Option Capture := none
  textBuf : String := ""
  inEntity : Bool := false
  deriving DecidableEq, Repr

/-- `push_sso`: a candidate has both its binding and its location. -/
def pushSso (e : StartTag) (out : List (String × String)) : List (String × String) :=
  match e.attributeOf "Binding", e.attributeOf "Location" with
  | some binding, some location => out ++ [(binding, location)]
  | _, _ => out

/-- `pick_by_binding`. -/
def pickByBinding (candidates : List (String × String)) : List String → Option String
  | [] => candidates.head?.map Prod.snd
  | binding :: rest =>
    match candidates.find? (·.1 = binding) with
    | some (_, loc) => some loc
    | none => pickByBinding candidates rest

/-- `pick_acs_url`. -/
def pickAcsUrl (candidates : List (String × String)) : Option String :=
  pickByBinding candidates [bindingHttpPost, bindingHttpRedirect]

/-- `strip_whitespace`. -/
def stripWhitespace (s : String) : String := String.ofList (s.toList.filter fun c => !isWhiteSpace c)

namespace SpMetadata

/-- `Event::Start`. -/
def onStart (s : SpMetadata) (e : StartTag) : SpMetadata :=
  let name := e.localName
  if name = "EntityDescriptor" ∧ s.entityId.isNone then
    { s with entityId := e.attributeOf "entityID", inEntity := true }
  else if name = "SPSSODescriptor" ∧ s.inEntity then { s with inSp := true }
  else if name = "KeyDescriptor" ∧ s.inEntity ∧ s.inSp then { s with keyUse := e.attributeOf "use" }
  else if name = "AssertionConsumerService" ∧ s.inEntity ∧ s.inSp then
    { s with acsCandidates := pushSso e s.acsCandidates }
  else if name = "X509Certificate" ∧ s.inEntity ∧ s.inSp ∧ s.keyUse ≠ some "encryption" then
    { s with capture := some .certificate, textBuf := "" }
  else if name = "NameIDFormat" ∧ s.inEntity ∧ s.inSp ∧ s.nameIdFormat.isNone then
    { s with capture := some .nameIdFormat, textBuf := "" }
  else if (name = "OrganizationDisplayName" ∨ name = "OrganizationName") ∧ s.inEntity ∧
      s.displayName.isNone then
    { s with capture := some .displayName, textBuf := "" }
  else s

/-- `Event::Empty`. -/
def onEmpty (s : SpMetadata) (e : StartTag) : SpMetadata :=
  let name := e.localName
  if name = "EntityDescriptor" ∧ s.entityId.isNone then { s with entityId := e.attributeOf "entityID" }
  else if name = "KeyDescriptor" ∧ s.inEntity ∧ s.inSp then { s with keyUse := e.attributeOf "use" }
  else if name = "AssertionConsumerService" ∧ s.inEntity ∧ s.inSp then
    { s with acsCandidates := pushSso e s.acsCandidates }
  else s

/-- `Event::Text`: the text is unescaped only where it is collected. -/
def onText (s : SpMetadata) (unescaped : Except String String) : Except DomainError SpMetadata :=
  if s.capture.isSome then
    match unescaped with
    | .error err => .error (.invalidValue ("invalid SAML metadata text: " ++ err))
    | .ok decoded => .ok { s with textBuf := s.textBuf ++ decoded }
  else .ok s

/-- The text collected for a certificate, once its element ends. -/
def keepCertificate (s : SpMetadata) : SpMetadata :=
  let normalized := stripWhitespace s.textBuf
  if normalized = "" then s
  else if s.keyUse = some "signing" then { s with signingCert := s.signingCert.or (some normalized) }
  else { s with fallbackCert := s.fallbackCert.or (some normalized) }

/-- The text collected for the format of names. -/
def keepNameIdFormat (s : SpMetadata) : SpMetadata :=
  let trimmed := trimWhitespace s.textBuf
  if trimmed = "" then s else { s with nameIdFormat := s.nameIdFormat.or (some trimmed) }

/-- The text collected for the display name. -/
def keepDisplayName (s : SpMetadata) : SpMetadata :=
  let trimmed := trimWhitespace s.textBuf
  if trimmed = "" then s else { s with displayName := s.displayName.or (some trimmed) }

/-- `Event::End`, where it does not end the entity. -/
def onEnd (s : SpMetadata) (name : String) : SpMetadata :=
  if name = "SPSSODescriptor" then { s with inSp := false }
  else if name = "KeyDescriptor" then { s with keyUse := none }
  else if name = "X509Certificate" then
    { (if s.capture = some .certificate then s.keepCertificate else s) with capture := none }
  else if name = "NameIDFormat" then
    { (if s.capture = some .nameIdFormat then s.keepNameIdFormat else s) with capture := none }
  else if name = "OrganizationDisplayName" ∨ name = "OrganizationName" then
    { (if s.capture = some .displayName then s.keepDisplayName else s) with capture := none }
  else s

/-- The loop: to the end of the entity or of the file. -/
def loop (s : SpMetadata) : List (Except String Event) → Except DomainError SpMetadata
  | [] => .ok s
  | .error e :: _ => .error (.invalidValue ("invalid SAML metadata XML: " ++ e))
  | .ok (.start e) :: rest => (s.onStart e).loop rest
  | .ok (.empty e) :: rest => (s.onEmpty e).loop rest
  | .ok (.text t) :: rest =>
    match s.onText t with
    | .error err => .error err
    | .ok s => s.loop rest
  | .ok (.endTag name) :: rest =>
    if stripPrefix name = "EntityDescriptor" ∧ s.inEntity then .ok s
    else (s.onEnd (stripPrefix name)).loop rest
  | .ok (.cdata _) :: rest | .ok .other :: rest => s.loop rest

/-- What the loop has found. -/
def imported (s : SpMetadata) : Except DomainError ImportedSpMetadata :=
  match s.entityId.filter fun id => trimWhitespace id ≠ "" with
  | none => .error (.invalidValue "SAML metadata is missing entityID")
  | some entityId =>
    match pickAcsUrl s.acsCandidates with
    | none => .error (.invalidValue "SAML metadata is missing an SP AssertionConsumerService")
    | some acsUrl =>
      .ok { entityId := trimWhitespace entityId, acsUrl
            x509Certificate := (s.signingCert.or s.fallbackCert).getD ""
            nameIdFormat := s.nameIdFormat, displayName := s.displayName }

end SpMetadata

/-- `parse_sp_metadata`. -/
def parseSpMetadata (events : List (Except String Event)) : Except DomainError ImportedSpMetadata :=
  match ({} : SpMetadata).loop events with
  | .error err => .error err
  | .ok s => s.imported

end IdpMvp
