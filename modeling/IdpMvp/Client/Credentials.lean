import Mathlib.Data.List.TakeDrop
import IdpMvp.Key.Bootstrap
import IdpMvp.Service.BasicCredentials

/-!
# Basic credentials are read back but for their spaces

A client writes its id and secret as form data, joins them with a colon and sends them in base64. The endpoints undo
the percent encoding of form data, but not its plus signs: they read back the pair that was sent exactly if there is no
space in it (`basic_credentials_read_back_iff`).
-/

namespace IdpMvp

open Encoding

/-- The form encoding of a text. -/
def formText (text : String) : Bytes := formEncode (asBytes text)

/-- The header with which a client sends its credentials. -/
def basicHeader (base64 : Base64) (id secret : String) : Bytes :=
  asBytes ("Basic " ++ base64.encode (formText id ++ 58 :: formText secret))

/-- The three endpoints read the pair that was sent. -/
structure ReadBack (base64 : Base64) (id secret : String) : Prop where
  token : TokenEndpoint.parseBasicCredentials base64 (some (basicHeader base64 id secret)) = .ok (some (id, secret))
  revoke : RevokeEndpoint.parseBasicCredentials base64 (some (basicHeader base64 id secret)) = .ok (some (id, secret))
  introspect :
    IntrospectEndpoint.parseBasicCredentials base64 (some (basicHeader base64 id secret)) = .ok (some (id, secret))

/-- The three endpoints have the same result on a header. -/
structure EndpointsAgree (base64 : Base64) (value : Option Bytes) : Prop where
  token : (TokenEndpoint.parseBasicCredentials base64 value).mapError (fun _ => ()) =
    RevokeEndpoint.parseBasicCredentials base64 value
  introspect : IntrospectEndpoint.parseBasicCredentials base64 value =
    RevokeEndpoint.parseBasicCredentials base64 value

/-! ## The layers of a header -/

/-- ASCII bytes as text and back. -/
lemma asBytes_asciiText {bytes : Bytes} (ascii : ∀ b ∈ bytes, b.toNat < 128) : asBytes (asciiText bytes) = bytes :=
  toUTF8_asciiText ascii

lemma fromUtf8_ascii {bytes : Bytes} (ascii : ∀ b ∈ bytes, b.toNat < 128) :
    fromUtf8 bytes = some (asciiText bytes) := by
  conv_lhs => rw [← asBytes_asciiText ascii]
  exact fromUtf8_asBytes _

/-- Only a text has its bytes. -/
lemma asBytes_of_fromUtf8 {bytes : Bytes} {text : String} (read : fromUtf8 bytes = some text) :
    asBytes text = bytes := by
  unfold fromUtf8 String.fromUTF8? at read
  split_ifs at read with valid
  obtain rfl := Option.some.inj read
  rfl

/-- A text of visible characters and spaces is the text of its header. -/
lemma headerText_asBytes {text : String} (visible : ∀ c ∈ text.toList, 32 ≤ c.toNat ∧ c.toNat < 127) :
    headerText (asBytes text) = some text := by
  have codes := asciiText_codes fun c mem => Nat.lt_trans (visible c mem).2 (by decide)
  have bytes : ∀ b ∈ text.toList.map (fun c => UInt8.ofNat c.toNat), 32 ≤ b.toNat ∧ b.toNat < 127 := by
    intro b mem
    obtain ⟨c, written, rfl⟩ := List.mem_map.mp mem
    have code := visible c written
    rw [UInt8.toNat_ofNat_of_lt' (by change c.toNat < 256; omega)]
    exact code
  have same : asBytes text = text.toList.map fun c => UInt8.ofNat c.toNat := by
    conv_lhs => rw [← codes]
    exact asBytes_asciiText fun b mem => Nat.lt_trans (bytes b mem).2 (by decide)
  rw [headerText, same, if_pos, codes]
  exact List.all_eq_true.mpr fun b mem => decide_eq_true (.inr (bytes b mem))

/-- Nothing is trimmed from a text without white space. -/
lemma trimWhitespace_plain {text : String} (plain : ∀ c ∈ text.toList, isWhiteSpace c = false) :
    trimWhitespace text = text := by
  have kept : ∀ cs : List Char, (∀ c ∈ cs, isWhiteSpace c = false) → cs.dropWhile isWhiteSpace = cs := by
    intro cs plain
    cases cs with
    | nil => rfl
    | cons c cs => exact List.dropWhile_cons_of_neg (by simp [plain c List.mem_cons_self])
  unfold trimWhitespace
  rw [kept _ plain, kept _ fun c mem => plain c (List.mem_reverse.mp mem), List.reverse_reverse, String.ofList_toList]

lemma visible_not_whiteSpace {c : Char} (visible : 32 < c.toNat ∧ c.toNat < 127) : isWhiteSpace c = false := by
  unfold isWhiteSpace
  simp only [Bool.or_eq_false_iff, Bool.and_eq_false_iff, decide_eq_false_iff_not]
  omega

/-- A text is split at the first separator. -/
lemma splitOnce_append {sep : Char} {first second : List Char} (absent : sep ∉ first) :
    splitOnce sep (String.ofList (first ++ sep :: second)) = some (String.ofList first, String.ofList second) := by
  have keep : ∀ c ∈ first, decide (c ≠ sep) = true := by
    intro c mem
    refine decide_eq_true ?_
    rintro rfl
    exact absent mem
  have span : (first ++ sep :: second).span (· ≠ sep) = (first, sep :: second) := by
    rw [List.span_eq_takeWhile_dropWhile, List.takeWhile_append_of_pos keep, List.dropWhile_append_of_pos keep]
    simp
  rw [splitOnce, String.toList_ofList, span]

lemma formText_ascii (text : String) : ∀ b ∈ formText text, b.toNat < 128 := formEncode_ascii _

/-- The colon is escaped. -/
lemma colon_not_mem_formText {text : String} : ':' ∉ (asciiText (formText text)).toList := by
  have colon : ∀ n < 128, Char.ofNat n = ':' → n = 58 := by decide
  rw [asciiText, String.toList_ofList]
  intro mem
  obtain ⟨b, written, code⟩ := List.mem_map.mp mem
  obtain rfl : b = 58 := UInt8.toNat_inj.mp (colon _ (formText_ascii text b written) code)
  rcases mem_formEncode written with kept | sign | sign
  · cases kept
  · cases sign
  · cases sign

/-- Both parts of the credentials, with the colon between them. -/
lemma fromUtf8_credentials {id secret : String} :
    fromUtf8 (formText id ++ 58 :: formText secret) =
      some (String.ofList ((asciiText (formText id)).toList ++ ':' :: (asciiText (formText secret)).toList)) := by
  rw [fromUtf8_ascii]
  · rw [asciiText, List.map_append, List.map_cons, asciiText, asciiText, String.toList_ofList, String.toList_ofList]
    rfl
  · intro b mem
    rcases List.mem_append.mp mem with mem | mem
    · exact formText_ascii id b mem
    rcases List.mem_cons.mp mem with rfl | mem
    · decide
    · exact formText_ascii secret b mem

/-! ## The whole header -/

/-- The form encoding is read back exactly if there is no space in the text. -/
lemma percentDecodeStr_formText {text : String} :
    percentDecodeStr (asciiText (formText text)) = fromUtf8 ((asBytes text).map plusForSpace) := by
  rw [percentDecodeStr, asBytes_asciiText (formText_ascii text), formText, ← List.append_nil (formEncode _),
    percentDecode_formEncode, percentDecode, List.append_nil]

lemma fromUtf8_plusForSpace {text : String} :
    fromUtf8 ((asBytes text).map plusForSpace) = some text ↔ ' ' ∉ text.toList := by
  have space : 32 ∈ asBytes text ↔ ' ' ∈ text.toList := space_mem_toUTF8
  rw [← space, ← map_plusForSpace]
  constructor
  · intro read
    exact (asBytes_of_fromUtf8 read).symm
  · intro same
    rw [same]
    exact fromUtf8_asBytes text

/-- What the endpoints make of the header of a client. -/
lemma readBasic_basicHeader {base64 : Base64} (lawful : base64.Lawful) {id secret : String} :
    readBasic base64 (basicHeader base64 id secret) = do
      let id ← fromUtf8 ((asBytes id).map plusForSpace)
      let secret ← fromUtf8 ((asBytes secret).map plusForSpace)
      return (id, secret) := by
  have visible := lawful.visible (formText id ++ 58 :: formText secret)
  have decoded := lawful.decode_encode (formText id ++ 58 :: formText secret)
  unfold readBasic basicHeader
  generalize base64.encode (formText id ++ 58 :: formText secret) = encoded at visible decoded ⊢
  have header : headerText (asBytes ("Basic " ++ encoded)) = some ("Basic " ++ encoded) := by
    refine headerText_asBytes fun c mem => ?_
    rw [String.toList_append] at mem
    rcases List.mem_append.mp mem with mem | mem
    · have all : ("Basic ".toList.all fun c => 32 ≤ c.toNat && c.toNat < 127) = true := rfl
      simpa using List.all_eq_true.mp all c mem
    · exact ⟨Nat.le_of_lt (visible c mem).1, (visible c mem).2⟩
  have rest : ("Basic " ++ encoded).toList.dropPrefix? "Basic ".toList = some encoded.toList := by
    rw [String.toList_append]
    exact List.dropPrefix?_append_of_beq _ (beq_self_eq_true _)
  have trimmed : trimWhitespace (String.ofList encoded.toList) = encoded := by
    rw [String.ofList_toList]
    exact trimWhitespace_plain fun c mem => visible_not_whiteSpace (visible c mem)
  rw [header, Option.bind_eq_bind, Option.bind_some, rest, Option.bind_eq_bind, Option.bind_some, trimmed, decoded,
    Except.toOption, Option.bind_eq_bind, Option.bind_some, fromUtf8_credentials, Option.bind_eq_bind, Option.bind_some,
    splitOnce_append colon_not_mem_formText, Option.bind_some, String.ofList_toList, String.ofList_toList]
  dsimp only
  rw [percentDecodeStr_formText, percentDecodeStr_formText]

/-- A handler reads the pair exactly if it has no space. -/
lemma basicCredentials_iff {E : Type} {malformed : E} {base64 : Base64} (lawful : base64.Lawful)
    {id secret : String} :
    basicCredentials base64 malformed (some (basicHeader base64 id secret)) = .ok (some (id, secret)) ↔
      ' ' ∉ id.toList ∧ ' ' ∉ secret.toList := by
  rw [basicCredentials, readBasic_basicHeader lawful, ← fromUtf8_plusForSpace, ← fromUtf8_plusForSpace]
  cases fromUtf8 ((asBytes id).map plusForSpace) <;> cases fromUtf8 ((asBytes secret).map plusForSpace) <;> simp

/-- The three endpoints read back what a client sends exactly if neither the id nor the secret has a space, and have
the same result on every header. -/
theorem basic_credentials_read_back_iff {base64 : Base64} (lawful : base64.Lawful) (id secret : String) :
    (ReadBack base64 id secret ↔ ' ' ∉ id.toList ∧ ' ' ∉ secret.toList) ∧ ∀ value, EndpointsAgree base64 value := by
  constructor
  · constructor
    · intro read
      exact (basicCredentials_iff lawful).mp read.token
    · intro plain
      exact ⟨(basicCredentials_iff lawful).mpr plain, (basicCredentials_iff lawful).mpr plain,
        (basicCredentials_iff lawful).mpr plain⟩
  · intro value
    refine ⟨?_, rfl⟩
    cases value with
    | none => rfl
    | some value =>
      unfold TokenEndpoint.parseBasicCredentials RevokeEndpoint.parseBasicCredentials basicCredentials
      dsimp only
      cases readBasic base64 value with
      | none => rfl
      | some pair => rfl

/-- So it is for the standard base64. -/
theorem basic_credentials_read_back_sample :
    (ReadBack Base64.standard "my:client" "s3cret!" ↔ ' ' ∉ "my:client".toList ∧ ' ' ∉ "s3cret!".toList) ∧
      ∀ value, EndpointsAgree Base64.standard value :=
  basic_credentials_read_back_iff Base64.standard_lawful "my:client" "s3cret!"

/-- A space of the secret is read as a plus sign. -/
theorem space_of_secret_read_as_plus :
    basicHeader Base64.standard "app" "my secret" = asBytes "Basic YXBwOm15K3NlY3JldA==" ∧
      TokenEndpoint.parseBasicCredentials Base64.standard (some (basicHeader Base64.standard "app" "my secret")) =
        .ok (some ("app", "my+secret")) ∧
      ¬ ReadBack Base64.standard "app" "my secret" := by
  have header : basicHeader Base64.standard "app" "my secret" = asBytes "Basic YXBwOm15K3NlY3JldA==" := by
    decide +kernel
  have read : TokenEndpoint.parseBasicCredentials Base64.standard
      (some (basicHeader Base64.standard "app" "my secret")) = .ok (some ("app", "my+secret")) := by
    decide +kernel
  refine ⟨header, read, fun back => ?_⟩
  have token := back.token
  rw [read] at token
  exact absurd token (by decide)

end IdpMvp
