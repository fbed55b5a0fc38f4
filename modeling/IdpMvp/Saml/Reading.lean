import IdpMvp.Domain.SamlMetadata

/-!
# Reading the metadata of an entity

The loop of the import keeps flags and no stack. Read on well-nested content it is a reading of the
tree: what stands before the entity changes nothing, and within the entity every piece of content
leads from the variables before it to the variables after it. The flags then say what is open around
the place the loop is at.
-/

namespace IdpMvp

open Markup

/-- The names of the elements whose text is collected. -/
def collected : List String :=
  ["X509Certificate", "NameIDFormat", "OrganizationDisplayName", "OrganizationName"]

/-- A tag of some name is open. -/
def Inside (around : List StartTag) (name : String) : Prop := ∃ t ∈ around, t.localName = name

/-- The key descriptor that is open within the role that is open. -/
def openKey (around : List StartTag) : Option StartTag :=
  (around.takeWhile (·.localName ≠ "SPSSODescriptor")).find? (·.localName = "KeyDescriptor")

namespace SpMetadata

/-- What reading some content makes of the variables, within some open tags. -/
inductive Reads : List StartTag → SpMetadata → Content → SpMetadata → Prop where
  | nil {around s} : Reads around s .nil s
  | element {around s tag inside rest s₁ s₂} (inner : Reads (tag :: around) (s.onStart tag) inside s₁)
    (later : Reads around (s₁.onEnd tag.localName) rest s₂) :
    Reads around s (.element tag inside rest) s₂
  | empty {around s tag rest s₁} (later : Reads around (s.onEmpty tag) rest s₁) :
    Reads around s (.empty tag rest) s₁
  | text {around s t rest s₁ s₂} (collects : s.onText t = .ok s₁) (later : Reads around s₁ rest s₂) :
    Reads around s (.text t rest) s₂
  | cdata {around s t rest s₁} (later : Reads around s rest s₁) : Reads around s (.cdata t rest) s₁
  | other {around s rest s₁} (later : Reads around s rest s₁) : Reads around s (.other rest) s₁

/-- The events of some content, all of them delivered. -/
def delivered (c : Content) : List (Except String Event) := c.events.map .ok

lemma delivered_element (tag : StartTag) (inside rest : Content) :
    delivered (.element tag inside rest) =
      .ok (.start tag) :: (delivered inside ++ .ok (.endTag tag.name) :: delivered rest) := by
  simp [delivered, Content.events]

/-- Content without an entity is read to its end, and what follows it after that. -/
theorem loop_content {c : Content} (none : ¬ c.mentions "EntityDescriptor")
    (around : List StartTag) {s s' : SpMetadata} {next : List (Except String Event)}
    (ok : s.loop (delivered c ++ next) = .ok s') :
    ∃ s₁, Reads around s c s₁ ∧ s₁.loop next = .ok s' := by
  induction c generalizing around s next with
  | nil => exact ⟨s, .nil, ok⟩
  | element tag inside rest ih_inside ih_rest =>
    obtain ⟨other, none_inside, none_rest⟩ := not_or.mp none |>.imp_right not_or.mp
    rw [delivered_element] at ok
    simp only [List.cons_append, List.append_assoc, loop] at ok
    obtain ⟨s₁, inner, after⟩ := ih_inside none_inside (tag :: around) ok
    have passes : ¬ (stripPrefix tag.name = "EntityDescriptor" ∧ s₁.inEntity) := fun h => other h.1
    rw [loop, if_neg passes] at after
    obtain ⟨s₂, later, done⟩ := ih_rest none_rest around after
    exact ⟨s₂, .element inner later, done⟩
  | empty tag rest ih =>
    obtain ⟨s₁, later, done⟩ := ih (not_or.mp none).2 around ok
    exact ⟨s₁, .empty later, done⟩
  | text t rest ih =>
    have here : delivered (.text t rest) = .ok (.text t) :: delivered rest := rfl
    rw [here, List.cons_append, loop] at ok
    cases collects : s.onText t with
    | error err =>
      rw [collects] at ok
      cases ok
    | ok s₀ =>
      rw [collects] at ok
      obtain ⟨s₁, later, done⟩ := ih none around ok
      exact ⟨s₁, .text collects later, done⟩
  | cdata t rest ih =>
    obtain ⟨s₁, later, done⟩ := ih none around ok
    exact ⟨s₁, .cdata later, done⟩
  | other rest ih =>
    obtain ⟨s₁, later, done⟩ := ih none around ok
    exact ⟨s₁, .other later, done⟩

lemma onStart_outside {s : SpMetadata} {e : StartTag} (outside : s.inEntity = false)
    (other : ¬ (e.localName = "EntityDescriptor" ∧ s.entityId.isNone)) : s.onStart e = s := by
  unfold onStart
  dsimp only
  rw [if_neg other]
  simp [outside]

lemma onEmpty_outside {s : SpMetadata} {e : StartTag} (outside : s.inEntity = false)
    (other : ¬ (e.localName = "EntityDescriptor" ∧ s.entityId.isNone)) : s.onEmpty e = s := by
  unfold onEmpty
  dsimp only
  rw [if_neg other]
  simp [outside]

lemma onStart_inEntity {s : SpMetadata} (e : StartTag) (inside : s.inEntity = true) :
    (s.onStart e).inEntity = true := by
  unfold onStart
  dsimp only
  split_ifs <;> simp [inside]

lemma onEmpty_inEntity (s : SpMetadata) (e : StartTag) : (s.onEmpty e).inEntity = s.inEntity := by
  unfold onEmpty
  dsimp only
  split_ifs <;> rfl

lemma onText_ok {s s' : SpMetadata} {t : Except String String} (ok : s.onText t = .ok s') :
    (s.capture = none ∧ s' = s) ∨
      ∃ decoded, t = .ok decoded ∧ s.capture.isSome ∧ s' = { s with textBuf := s.textBuf ++ decoded } := by
  unfold onText at ok
  split at ok
  case isTrue collects =>
    cases t with
    | error err => cases ok
    | ok decoded => exact .inr ⟨decoded, rfl, collects, (Except.ok.inj ok).symm⟩
  case isFalse idle =>
    exact .inl ⟨by simpa using idle, (Except.ok.inj ok).symm⟩

/-- What the end of a collected element keeps. -/
lemma keep_frame (s : SpMetadata) :
    (∀ t ∈ [s.keepCertificate, s.keepNameIdFormat, s.keepDisplayName],
      t.entityId = s.entityId ∧ t.inEntity = s.inEntity ∧ t.inSp = s.inSp ∧ t.keyUse = s.keyUse ∧
        t.acsCandidates = s.acsCandidates ∧ t.textBuf = s.textBuf) := by
  intro t mem
  simp only [List.mem_cons, List.not_mem_nil, or_false] at mem
  rcases mem with rfl | rfl | rfl
  · unfold keepCertificate
    dsimp only
    split_ifs <;> simp
  · unfold keepNameIdFormat
    dsimp only
    split_ifs <;> simp
  · unfold keepDisplayName
    dsimp only
    split_ifs <;> simp

/-- An end tag moves none of the flags but those of its own element. -/
lemma onEnd_frame (s : SpMetadata) (name : String) :
    (s.onEnd name).entityId = s.entityId ∧ (s.onEnd name).inEntity = s.inEntity ∧
      (s.onEnd name).inSp = (s.inSp && name ≠ "SPSSODescriptor") ∧
      (s.onEnd name).keyUse = (if name = "KeyDescriptor" then none else s.keyUse) ∧
      (s.onEnd name).acsCandidates = s.acsCandidates ∧ (s.onEnd name).textBuf = s.textBuf ∧
      (s.onEnd name).capture = if name ∈ collected then none else s.capture := by
  have kept := s.keep_frame
  simp only [List.mem_cons, List.not_mem_nil, or_false, forall_eq_or_imp, forall_eq] at kept
  obtain ⟨cert, format, display⟩ := kept
  unfold onEnd
  split_ifs <;> simp_all [collected]

lemma onEnd_inEntity (s : SpMetadata) (name : String) : (s.onEnd name).inEntity = s.inEntity :=
  (s.onEnd_frame name).2.1

/-- Only the end of a collected element keeps a text. -/
lemma onEnd_kept (s : SpMetadata) {name : String} (other : name ∉ collected) :
    (s.onEnd name).signingCert = s.signingCert ∧ (s.onEnd name).fallbackCert = s.fallbackCert ∧
      (s.onEnd name).nameIdFormat = s.nameIdFormat ∧ (s.onEnd name).displayName = s.displayName := by
  unfold onEnd
  split_ifs <;> simp_all [collected]

/-- Once an entity without an end tag of its own has been taken, nothing more is. -/
lemma loop_taken {events : List (Except String Event)} {s s' : SpMetadata}
    (taken : s.entityId.isSome) (outside : s.inEntity = false) (ok : s.loop events = .ok s') :
    s'.acsCandidates = s.acsCandidates := by
  induction events generalizing s with
  | nil =>
    cases ok
    rfl
  | cons delivered rest ih =>
    have other : ∀ e : StartTag, ¬ (e.localName = "EntityDescriptor" ∧ s.entityId.isNone) :=
      fun e h => by simp_all
    cases delivered with
    | error err => cases ok
    | ok event =>
      cases event with
      | start e =>
        rw [loop, onStart_outside outside (other e)] at ok
        exact ih taken outside ok
      | empty e =>
        rw [loop, onEmpty_outside outside (other e)] at ok
        exact ih taken outside ok
      | text t =>
        rw [loop] at ok
        split at ok
        case h_1 => cases ok
        case h_2 s₁ collects =>
          rcases onText_ok collects with ⟨-, rfl⟩ | ⟨decoded, -, -, rfl⟩
          · exact ih taken outside ok
          · exact ih (s := { s with textBuf := s.textBuf ++ decoded }) taken outside ok
      | endTag name =>
        rw [loop, if_neg (by simp [outside])] at ok
        obtain ⟨same_id, same_entity, -, -, same_acs, -, -⟩ := s.onEnd_frame (stripPrefix name)
        rw [ih (by rw [same_id]; exact taken) (by rw [same_entity]; exact outside) ok, same_acs]
      | cdata content => exact ih taken outside ok
      | other => exact ih taken outside ok

/-- The variables keep that they are of an entity. -/
lemma Reads.inEntity {around : List StartTag} {s s' : SpMetadata} {c : Content}
    (reads : Reads around s c s') (inside : s.inEntity = true) : s'.inEntity = true := by
  induction reads with
  | nil => exact inside
  | element _ _ ih_inner ih_later =>
    refine ih_later ?_
    rw [onEnd_inEntity]
    exact ih_inner (onStart_inEntity _ inside)
  | empty _ ih => exact ih (by rw [onEmpty_inEntity]; exact inside)
  | text collects _ ih =>
    rcases onText_ok collects with ⟨-, rfl⟩ | ⟨decoded, -, -, rfl⟩
    · exact ih inside
    · exact ih inside
  | cdata _ ih => exact ih inside
  | other _ ih => exact ih inside

/-- The variables at the start tag of an entity. -/
def atEntity (tag : StartTag) : SpMetadata :=
  { entityId := tag.attributeOf "entityID", inEntity := true }

/-- Before the entity nothing is remembered, so that the import is of the first `EntityDescriptor`
element, whatever is around it and after it. -/
theorem loop_entity {c : Content} (apart : c.NotInItself "EntityDescriptor") {s' : SpMetadata}
    {next : List (Except String Event)}
    (ok : ({} : SpMetadata).loop (delivered c ++ next) = .ok s')
    (some_acs : s'.acsCandidates ≠ []) :
    (∃ tag inside, c.firstElement "EntityDescriptor" = some (tag, inside) ∧
      ¬ inside.mentions "EntityDescriptor" ∧
      Reads [tag] (atEntity tag) inside s') ∨
    c.firstElement "EntityDescriptor" = none ∧ ({} : SpMetadata).loop next = .ok s' := by
  induction c generalizing next with
  | nil => exact .inr ⟨rfl, ok⟩
  | element tag inside rest ih_inside ih_rest =>
    obtain ⟨alone, apart_inside, apart_rest⟩ := apart
    rw [delivered_element] at ok
    simp only [List.cons_append, List.append_assoc] at ok
    rw [loop] at ok
    by_cases entity : tag.localName = "EntityDescriptor"
    · -- the entity ends the loop with its end tag
      have begins : ({} : SpMetadata).onStart tag = atEntity tag := by
        simp [onStart, entity, atEntity]
      rw [begins] at ok
      obtain ⟨s₁, reads, after⟩ := loop_content (alone entity) [tag] ok
      have ends : stripPrefix tag.name = "EntityDescriptor" ∧ s₁.inEntity :=
        ⟨entity, reads.inEntity rfl⟩
      rw [loop, if_pos ends] at after
      obtain rfl := Except.ok.inj after
      exact .inl ⟨tag, inside, by simp [Content.firstElement, entity], alone entity, reads⟩
    · rw [onStart_outside rfl (fun h => entity h.1)] at ok
      rcases ih_inside apart_inside ok with ⟨t, c, first, none, reads⟩ | ⟨no_first, after⟩
      · exact .inl ⟨t, c, by simp [Content.firstElement, entity, first], none, reads⟩
      · have idle : ({} : SpMetadata).onEnd (stripPrefix tag.name) = {} := by
          unfold onEnd
          split_ifs <;> simp_all
        rw [loop, if_neg (fun h => entity h.1), idle] at after
        have first : (Content.element tag inside rest).firstElement "EntityDescriptor" =
            rest.firstElement "EntityDescriptor" := by
          simp [Content.firstElement, entity, no_first]
        rw [first]
        exact ih_rest apart_rest after
  | empty tag rest ih =>
    change (({} : SpMetadata).onEmpty tag).loop (delivered rest ++ next) = .ok s' at ok
    by_cases entity : tag.localName = "EntityDescriptor"
    · have begins : ({} : SpMetadata).onEmpty tag =
          { entityId := tag.attributeOf "entityID" } := by
        simp [onEmpty, entity]
      rw [begins] at ok
      cases id : tag.attributeOf "entityID" with
      | none =>
        rw [id] at ok
        exact ih apart ok
      | some id' =>
        rw [id] at ok
        exact absurd (loop_taken rfl rfl ok) some_acs
    · rw [onEmpty_outside rfl (fun h => entity h.1)] at ok
      exact ih apart ok
  | text t rest ih => exact ih apart ok
  | cdata t rest ih => exact ih apart ok
  | other rest ih => exact ih apart ok

/-! ## The flags -/

/-- Where the start of an element begins to collect its text. -/
def Starts (s : SpMetadata) (e : StartTag) : Capture → Prop
  | .certificate => e.localName = "X509Certificate" ∧ s.inSp ∧ s.keyUse ≠ some "encryption"
  | .nameIdFormat => e.localName = "NameIDFormat" ∧ s.inSp ∧ s.nameIdFormat = none
  | .displayName => (e.localName = "OrganizationDisplayName" ∨ e.localName = "OrganizationName") ∧
      s.displayName = none

lemma onStart_kept (s : SpMetadata) (e : StartTag) : (s.onStart e).signingCert = s.signingCert ∧
    (s.onStart e).fallbackCert = s.fallbackCert ∧ (s.onStart e).nameIdFormat = s.nameIdFormat ∧
    (s.onStart e).displayName = s.displayName := by
  unfold onStart
  dsimp only
  split_ifs <;> simp

section Entity

variable {s : SpMetadata} {e : StartTag} (inside : s.inEntity = true)
  (other : e.localName ≠ "EntityDescriptor")

include inside other

lemma onStart_frame : (s.onStart e).entityId = s.entityId ∧
    (s.onStart e).inSp = (s.inSp || e.localName = "SPSSODescriptor") ∧
    (s.onStart e).keyUse = (if e.localName = "KeyDescriptor" ∧ s.inSp then e.attributeOf "use"
      else s.keyUse) ∧
    (s.onStart e).acsCandidates = (if e.localName = "AssertionConsumerService" ∧ s.inSp then
      pushSso e s.acsCandidates else s.acsCandidates) := by
  unfold onStart
  dsimp only
  split_ifs <;> simp_all

lemma onStart_capture : (∃ K, s.Starts e K ∧ (s.onStart e).capture = some K ∧
      (s.onStart e).textBuf = "") ∨
    (∀ K, ¬ s.Starts e K) ∧ (s.onStart e).capture = s.capture ∧
      (s.onStart e).textBuf = s.textBuf := by
  unfold onStart
  dsimp only
  split_ifs
  case pos h => exact absurd h.1 other
  case pos h =>
    refine .inr ⟨fun K => ?_, rfl, rfl⟩
    cases K <;> simp [Starts, h.1]
  case pos h =>
    refine .inr ⟨fun K => ?_, rfl, rfl⟩
    cases K <;> simp [Starts, h.1]
  case pos h =>
    refine .inr ⟨fun K => ?_, rfl, rfl⟩
    cases K <;> simp [Starts, h.1]
  case pos h => exact .inl ⟨.certificate, ⟨h.1, h.2.2.1, h.2.2.2⟩, rfl, rfl⟩
  case pos h =>
    exact .inl ⟨.nameIdFormat, ⟨h.1, h.2.2.1, Option.isNone_iff_eq_none.mp h.2.2.2⟩, rfl, rfl⟩
  case pos h => exact .inl ⟨.displayName, ⟨h.1, Option.isNone_iff_eq_none.mp h.2.2⟩, rfl, rfl⟩
  case neg _ _ _ _ h₅ h₆ h₇ =>
    refine .inr ⟨fun K => ?_, rfl, rfl⟩
    cases K with
    | certificate => exact fun h => h₅ ⟨h.1, inside, h.2.1, h.2.2⟩
    | nameIdFormat => exact fun h => h₆ ⟨h.1, inside, h.2.1, by simp [h.2.2]⟩
    | displayName => exact fun h => h₇ ⟨h.1, inside, by simp [h.2]⟩

lemma onEmpty_frame : (s.onEmpty e).entityId = s.entityId ∧ (s.onEmpty e).inSp = s.inSp ∧
    (s.onEmpty e).keyUse = (if e.localName = "KeyDescriptor" ∧ s.inSp then e.attributeOf "use"
      else s.keyUse) ∧
    (s.onEmpty e).acsCandidates = (if e.localName = "AssertionConsumerService" ∧ s.inSp then
      pushSso e s.acsCandidates else s.acsCandidates) := by
  unfold onEmpty
  dsimp only
  split_ifs <;> simp_all

omit inside in
lemma onEmpty_kept : (s.onEmpty e).signingCert = s.signingCert ∧
    (s.onEmpty e).fallbackCert = s.fallbackCert ∧ (s.onEmpty e).nameIdFormat = s.nameIdFormat ∧
    (s.onEmpty e).displayName = s.displayName ∧ (s.onEmpty e).capture = s.capture ∧
    (s.onEmpty e).textBuf = s.textBuf := by
  unfold onEmpty
  dsimp only
  split_ifs <;> simp_all

end Entity

end SpMetadata

end IdpMvp
