import IdpMvp.Saml.Reading

/-!
# Where imported metadata comes from

The flags of the import say what is open around the place it is at: whether a role is, which key
descriptor is, and for which element text is collected. What it keeps then comes from elements that
stand where they should.
-/

namespace IdpMvp

open Markup

/-- The elements that are not to be within another of their name. -/
def metadataElements : List String :=
  ["EntityDescriptor", "SPSSODescriptor", "KeyDescriptor", "X509Certificate", "NameIDFormat"]

/-- An element within a role of a service provider. -/
def Markup.Element.InSp (el : Element) : Prop := Inside el.around "SPSSODescriptor"

/-- The elements whose text is kept, where they stand. -/
def Markup.Element.Kept (el : Element) : Capture → Prop
  | .certificate => el.tag.localName = "X509Certificate" ∧ el.InSp ∧
      ∀ k, openKey el.around = some k → k.attributeOf "use" ≠ some "encryption"
  | .nameIdFormat => el.tag.localName = "NameIDFormat" ∧ el.InSp
  | .displayName => el.tag.localName = "OrganizationDisplayName" ∨ el.tag.localName = "OrganizationName"

namespace SpMetadata

/-- The flags say what is open. -/
structure Tracks (s : SpMetadata) (around : List StartTag) : Prop where
  inEntity : s.inEntity = true
  inSp : s.inSp = true ↔ Inside around "SPSSODescriptor"
  keyUse : s.inSp → ∀ k, openKey around = some k → s.keyUse = k.attributeOf "use"
  certificate : s.capture = some .certificate → Inside around "X509Certificate"
  nameIdFormat : s.capture = some .nameIdFormat → Inside around "NameIDFormat"
  displayName : s.capture = some .displayName → s.displayName = none

section Inside

variable {around : List StartTag} {tag : StartTag} {name : String}

lemma inside_cons : Inside (tag :: around) name ↔ tag.localName = name ∨ Inside around name := by
  simp [Inside]

lemma openKey_cons (tag : StartTag) (around : List StartTag) : openKey (tag :: around) =
    if tag.localName = "SPSSODescriptor" then none
    else if tag.localName = "KeyDescriptor" then some tag else openKey around := by
  unfold openKey
  by_cases role : tag.localName = "SPSSODescriptor"
  · simp [role]
  · by_cases key : tag.localName = "KeyDescriptor" <;> simp [role, key]

/-- A key descriptor that is open is one of the open tags. -/
lemma inside_of_openKey {k : StartTag} (key : openKey around = some k) :
    Inside around "KeyDescriptor" := by
  unfold openKey at key
  have named := List.find?_some key
  exact ⟨k, List.takeWhile_subset _ (List.mem_of_find?_eq_some key), by simpa using named⟩

end Inside

section Tracks

variable {s s' : SpMetadata} {around : List StartTag} {tag : StartTag} {inside rest : Content}

lemma not_entity {c : Content} (apart : c.Apart metadataElements around)
    (entity : Inside around "EntityDescriptor") : ¬ c.mentions "EntityDescriptor" :=
  (apart "EntityDescriptor" (by simp [metadataElements])).2 entity

/-- A start tag opens its element. -/
lemma Tracks.start (h : s.Tracks around) (entity : tag.localName ≠ "EntityDescriptor") :
    (s.onStart tag).Tracks (tag :: around) := by
  obtain ⟨-, inSp, keyUse, -⟩ := onStart_frame h.inEntity entity
  obtain ⟨-, -, -, display⟩ := onStart_kept s tag
  refine ⟨onStart_inEntity tag h.inEntity, ?_, ?_, ?_, ?_, ?_⟩
  · rw [inSp, inside_cons, ← h.inSp]
    simp [or_comm]
  · intro role k key
    rw [openKey_cons] at key
    split_ifs at key with is_role is_key
    · obtain rfl := Option.some.inj key
      have role : s.inSp = true := by simpa [inSp, is_role] using role
      rw [keyUse, if_pos ⟨is_key, role⟩]
    · have role : s.inSp = true := by simpa [inSp, is_role] using role
      rw [keyUse, if_neg (fun h => is_key h.1)]
      exact h.keyUse role k key
  · intro collects
    rcases onStart_capture h.inEntity entity with ⟨K, starts, capture, -⟩ | ⟨-, capture, -⟩
    · rw [capture] at collects
      obtain rfl := Option.some.inj collects
      exact inside_cons.mpr (.inl starts.1)
    · exact inside_cons.mpr (.inr (h.certificate (capture ▸ collects)))
  · intro collects
    rcases onStart_capture h.inEntity entity with ⟨K, starts, capture, -⟩ | ⟨-, capture, -⟩
    · rw [capture] at collects
      obtain rfl := Option.some.inj collects
      exact inside_cons.mpr (.inl starts.1)
    · exact inside_cons.mpr (.inr (h.nameIdFormat (capture ▸ collects)))
  · intro collects
    rw [display]
    rcases onStart_capture h.inEntity entity with ⟨K, starts, capture, -⟩ | ⟨-, capture, -⟩
    · rw [capture] at collects
      obtain rfl := Option.some.inj collects
      exact starts.2
    · exact h.displayName (capture ▸ collects)

/-- An end tag closes its element. -/
lemma Tracks.close (h : s.Tracks (tag :: around))
    (apart : (Content.element tag inside rest).Apart metadataElements around) :
    (s.onEnd tag.localName).Tracks around := by
  obtain ⟨-, -, inSp, keyUse, -, -, capture⟩ := s.onEnd_frame tag.localName
  -- what is collected after the end tag was collected before it, for an element further out
  have still : ∀ K, (s.onEnd tag.localName).capture = some K →
      tag.localName ∉ collected ∧ s.capture = some K := by
    intro K collects
    rw [capture] at collects
    split_ifs at collects with here
    exact ⟨here, collects⟩
  refine ⟨by rw [onEnd_inEntity]; exact h.inEntity, ?_, ?_, ?_, ?_, ?_⟩
  · have outer := h.inSp
    rw [inside_cons] at outer
    by_cases role : tag.localName = "SPSSODescriptor"
    · have out : ¬ Inside around "SPSSODescriptor" := fun ⟨t, open_t, same⟩ =>
        apart.outermost (by simp [role, metadataElements]) t open_t (same.trans role.symm)
      rw [inSp]
      simp [role, out]
    · rw [inSp]
      simpa [role] using outer
  · intro role k key
    rw [inSp, Bool.and_eq_true] at role
    have not_role : tag.localName ≠ "SPSSODescriptor" := by simpa using role.2
    have not_key : tag.localName ≠ "KeyDescriptor" := by
      intro is_key
      obtain ⟨t, open_t, same⟩ := inside_of_openKey key
      exact apart.outermost (by simp [is_key, metadataElements]) t open_t (same.trans is_key.symm)
    rw [keyUse, if_neg not_key]
    refine h.keyUse role.1 k ?_
    rw [openKey_cons, if_neg not_role, if_neg not_key, key]
  · intro collects
    obtain ⟨here, before⟩ := still _ collects
    have not_cert : tag.localName ≠ "X509Certificate" := fun h => here (by simp [h, collected])
    exact (inside_cons.mp (h.certificate before)).resolve_left not_cert
  · intro collects
    obtain ⟨here, before⟩ := still _ collects
    have not_format : tag.localName ≠ "NameIDFormat" := fun h => here (by simp [h, collected])
    exact (inside_cons.mp (h.nameIdFormat before)).resolve_left not_format
  · intro collects
    obtain ⟨here, before⟩ := still _ collects
    rw [(onEnd_kept s here).2.2.2]
    exact h.displayName before

lemma Tracks.empty (h : s.Tracks around) (entity : tag.localName ≠ "EntityDescriptor")
    (apart : (Content.empty tag rest).Apart metadataElements around) :
    (s.onEmpty tag).Tracks around := by
  obtain ⟨-, inSp, keyUse, -⟩ := onEmpty_frame h.inEntity entity
  obtain ⟨-, -, -, display, capture, -⟩ := onEmpty_kept (s := s) entity
  refine ⟨by rw [onEmpty_inEntity]; exact h.inEntity, by rw [inSp]; exact h.inSp, ?_, ?_, ?_, ?_⟩
  · intro role k key
    rw [inSp] at role
    have not_key : tag.localName ≠ "KeyDescriptor" := by
      intro is_key
      exact (apart "KeyDescriptor" (by simp [metadataElements])).2 (inside_of_openKey key) (.inl is_key)
    rw [keyUse, if_neg fun h => not_key h.1]
    exact h.keyUse role k key
  · rw [capture]
    exact h.certificate
  · rw [capture]
    exact h.nameIdFormat
  · rw [capture, display]
    exact h.displayName

lemma Tracks.text {t : Except String String} (h : s.Tracks around) (collects : s.onText t = .ok s') :
    s'.Tracks around := by
  rcases onText_ok collects with ⟨-, rfl⟩ | ⟨decoded, -, -, rfl⟩
  · exact h
  · exact ⟨h.inEntity, h.inSp, h.keyUse, h.certificate, h.nameIdFormat, h.displayName⟩

/-- Reading content keeps track of what is open around it. -/
lemma Tracks.reads {c : Content} (reads : Reads around s c s') (h : s.Tracks around)
    (entity : Inside around "EntityDescriptor") (apart : c.Apart metadataElements around) :
    s'.Tracks around := by
  induction reads with
  | nil => exact h
  | @element around s tag inside rest s₁ s₂ inner later ih_inner ih_later =>
    have other : tag.localName ≠ "EntityDescriptor" := fun same =>
      not_entity apart entity (.inl same)
    have within := ih_inner (h.start other) (inside_cons.mpr (.inr entity)) apart.inside
    exact ih_later (within.close apart) entity apart.rest
  | @empty around s tag rest s₁ later ih =>
    have other : tag.localName ≠ "EntityDescriptor" := fun same =>
      not_entity apart entity (.inl same)
    exact ih (h.empty other apart) entity apart.empty
  | text collects _ ih => exact ih (h.text collects) entity apart.text
  | cdata _ ih => exact ih h entity apart.cdata
  | other _ ih => exact ih h entity apart.other

/-- Induction on a reading within an entity: at every tag the flags say what is open. -/
theorem Reads.tracked {P : List StartTag → SpMetadata → Content → SpMetadata → Prop}
    (nil : ∀ around s, P around s .nil s)
    (element : ∀ around s tag inside rest s₁ s₂, s.Tracks around →
      Inside around "EntityDescriptor" →
      (Content.element tag inside rest).Apart metadataElements around →
      Reads (tag :: around) (s.onStart tag) inside s₁ → P (tag :: around) (s.onStart tag) inside s₁ →
      P around (s₁.onEnd tag.localName) rest s₂ → P around s (.element tag inside rest) s₂)
    (empty : ∀ around s tag rest s₁, s.Tracks around → tag.localName ≠ "EntityDescriptor" →
      P around (s.onEmpty tag) rest s₁ → P around s (.empty tag rest) s₁)
    (text : ∀ around s t rest s₁ s₂, s.onText t = .ok s₁ → P around s₁ rest s₂ →
      P around s (.text t rest) s₂)
    (cdata : ∀ around s t rest s₁, P around s rest s₁ → P around s (.cdata t rest) s₁)
    (skip : ∀ around s rest s₁, P around s rest s₁ → P around s (.other rest) s₁)
    {c : Content} (reads : Reads around s c s') (h : s.Tracks around)
    (entity : Inside around "EntityDescriptor") (apart : c.Apart metadataElements around) :
    P around s c s' := by
  induction reads with
  | nil => exact nil _ _
  | @element around s tag inside rest s₁ s₂ inner later ih_inner ih_later =>
    have other : tag.localName ≠ "EntityDescriptor" := fun same =>
      not_entity apart entity (.inl same)
    have within_inside : Inside (tag :: around) "EntityDescriptor" := inside_cons.mpr (.inr entity)
    have starts := h.start other
    have ends := (starts.reads inner within_inside apart.inside).close apart
    exact element around s tag inside rest s₁ s₂ h entity apart inner
      (ih_inner starts within_inside apart.inside) (ih_later ends entity apart.rest)
  | @empty around s tag rest s₁ later ih =>
    have other : tag.localName ≠ "EntityDescriptor" := fun same =>
      not_entity apart entity (.inl same)
    exact empty around s tag rest s₁ h other (ih (h.empty other apart) entity apart.empty)
  | text collects _ ih => exact text _ _ _ _ _ _ collects (ih (h.text collects) entity apart.text)
  | cdata _ ih => exact cdata _ _ _ _ _ (ih h entity apart.cdata)
  | other _ ih => exact skip _ _ _ _ (ih h entity apart.other)

end Tracks

end SpMetadata

namespace SpMetadata

section Collecting

variable {s s' : SpMetadata} {around : List StartTag} {tag : StartTag} {inside rest : Content}

lemma mem_collected {e : StartTag} {K : Capture} (starts : s.Starts e K) :
    e.localName ∈ collected := by
  cases K with
  | certificate => simp [collected, starts.1]
  | nameIdFormat => simp [collected, starts.1]
  | displayName => rcases starts.1 with name | name <;> simp [collected, name]

/-- Content without a collected element adds its text to what is collected and keeps nothing. -/
lemma Reads.quiet {c : Content} (reads : Reads around s c s') (inEntity : s.inEntity = true)
    (entity : ¬ c.mentions "EntityDescriptor") (none : ¬ c.opens collected) :
    s'.capture = s.capture ∧ (s.capture.isSome → s'.textBuf = s.textBuf ++ c.characters) := by
  induction reads with
  | nil => exact ⟨rfl, fun _ => by simp [Content.characters]⟩
  | @element around s tag inside rest s₁ s₂ inner later ih_inner ih_later =>
    obtain ⟨other, entity_inside, entity_rest⟩ := not_or.mp entity |>.imp_right not_or.mp
    obtain ⟨here, none_inside, none_rest⟩ := not_or.mp none |>.imp_right not_or.mp
    have idle := (onStart_capture inEntity other).resolve_left fun ⟨K, starts, _⟩ =>
      here (mem_collected starts)
    obtain ⟨capture_in, text_in⟩ := ih_inner (onStart_inEntity tag inEntity) entity_inside none_inside
    obtain ⟨-, -, -, -, -, same_text, end_capture⟩ := s₁.onEnd_frame tag.localName
    rw [if_neg here] at end_capture
    obtain ⟨capture_out, text_out⟩ := ih_later
      (by rw [onEnd_inEntity]; exact inner.inEntity (onStart_inEntity tag inEntity))
      entity_rest none_rest
    rw [end_capture, capture_in, idle.2.1] at capture_out text_out
    refine ⟨capture_out, fun collects => ?_⟩
    rw [idle.2.1, idle.2.2] at text_in
    rw [text_out collects, same_text, text_in collects, Content.characters, String.append_assoc]
  | @empty around s tag rest s₁ later ih =>
    obtain ⟨other, entity_rest⟩ := not_or.mp entity
    obtain ⟨-, -, -, -, capture, text⟩ := onEmpty_kept (s := s) other
    obtain ⟨capture_out, text_out⟩ := ih (by rw [onEmpty_inEntity]; exact inEntity) entity_rest none
    rw [capture] at capture_out text_out
    rw [text] at text_out
    exact ⟨capture_out, text_out⟩
  | @text around s t rest s₁ s₂ collects later ih =>
    rcases onText_ok collects with ⟨idle, rfl⟩ | ⟨decoded, rfl, -, rfl⟩
    · obtain ⟨capture_out, -⟩ := ih inEntity entity none
      exact ⟨capture_out, fun some => by simp [idle] at some⟩
    · obtain ⟨capture_out, text_out⟩ := ih inEntity entity none
      refine ⟨capture_out, fun some => ?_⟩
      rw [text_out some, Content.characters, String.append_assoc]
  | cdata _ ih => exact ih inEntity entity none
  | other _ ih => exact ih inEntity entity none

/-- A collected element leaves nothing being collected. -/
lemma Reads.loud {c : Content} (reads : Reads around s c s') (inEntity : s.inEntity = true)
    (entity : ¬ c.mentions "EntityDescriptor") (some_element : c.opens collected) :
    s'.capture = none := by
  induction reads with
  | nil => cases some_element
  | @element around s tag inside rest s₁ s₂ inner later ih_inner ih_later =>
    obtain ⟨other, entity_inside, entity_rest⟩ := not_or.mp entity |>.imp_right not_or.mp
    have within := onStart_inEntity tag inEntity
    have ended : (s₁.onEnd tag.localName).inEntity = true := by
      rw [onEnd_inEntity]
      exact inner.inEntity within
    by_cases later_element : rest.opens collected
    · exact ih_later ended entity_rest later_element
    · -- the last collected element is this one or within it
      rw [(later.quiet ended entity_rest later_element).1]
      obtain ⟨-, -, -, -, -, -, end_capture⟩ := s₁.onEnd_frame tag.localName
      rw [end_capture]
      split_ifs with here
      · rfl
      · exact ih_inner within entity_inside
          ((some_element.resolve_left here).resolve_right later_element)
  | @empty around s tag rest s₁ later ih =>
    exact ih (by rw [onEmpty_inEntity]; exact inEntity) (not_or.mp entity).2 some_element
  | @text around s t rest s₁ s₂ collects later ih =>
    rcases onText_ok collects with ⟨-, rfl⟩ | ⟨decoded, -, -, rfl⟩
    · exact ih inEntity entity some_element
    · exact ih inEntity entity some_element
  | cdata _ ih => exact ih inEntity entity some_element
  | other _ ih => exact ih inEntity entity some_element

end Collecting

end SpMetadata

namespace SpMetadata

/-- The names of the elements that a text is collected from for something. -/
def Names : Capture → String → Prop
  | .certificate, name => name = "X509Certificate"
  | .nameIdFormat, name => name = "NameIDFormat"
  | .displayName, name => name = "OrganizationDisplayName" ∨ name = "OrganizationName"

section Keeping

variable {s s' : SpMetadata} {around : List StartTag} {tag : StartTag} {inside rest : Content}

/-- What is collected at the end of an element is the text of that element, which stands where its
text is kept. -/
lemma Tracks.collects {K : Capture} (h : s.Tracks around)
    (entity : Inside around "EntityDescriptor")
    (apart : (Content.element tag inside rest).Apart metadataElements around)
    (inner : Reads (tag :: around) (s.onStart tag) inside s') (collects : s'.capture = some K)
    (named : Names K tag.localName) :
    Element.Kept ⟨tag, around, inside⟩ K ∧ s'.textBuf = inside.characters := by
  have other : tag.localName ≠ "EntityDescriptor" := fun same =>
    not_entity apart entity (.inl same)
  have within := onStart_inEntity tag h.inEntity
  have entity_inside : ¬ inside.mentions "EntityDescriptor" := fun found =>
    not_entity apart entity (.inr (.inl found))
  have none : ¬ inside.opens collected := fun opened => by
    rw [inner.loud within entity_inside opened] at collects
    cases collects
  obtain ⟨capture, text⟩ := inner.quiet within entity_inside none
  rw [capture] at collects
  -- it was collected from its own start tag on, since nothing of its kind is around it
  have started : s.Starts tag K ∧ (s.onStart tag).textBuf = "" := by
    rcases onStart_capture h.inEntity other with ⟨K', starts, here, cleared⟩ | ⟨none, here, -⟩
    · rw [here] at collects
      obtain rfl := Option.some.inj collects
      exact ⟨starts, cleared⟩
    · rw [here] at collects
      exfalso
      cases K with
      | certificate =>
        obtain ⟨t, open_t, same⟩ := h.certificate collects
        have mem : tag.localName ∈ metadataElements := by
          rw [show tag.localName = "X509Certificate" from named]
          decide
        exact apart.outermost mem t open_t (same.trans named.symm)
      | nameIdFormat =>
        obtain ⟨t, open_t, same⟩ := h.nameIdFormat collects
        have mem : tag.localName ∈ metadataElements := by
          rw [show tag.localName = "NameIDFormat" from named]
          decide
        exact apart.outermost mem t open_t (same.trans named.symm)
      | displayName => exact none .displayName ⟨named, h.displayName collects⟩
  refine ⟨?_, ?_⟩
  · cases K with
    | certificate =>
      obtain ⟨name, role, use⟩ := started.1
      refine ⟨name, h.inSp.mp role, fun k key encrypts => use ?_⟩
      rw [h.keyUse role k key, encrypts]
    | nameIdFormat => exact ⟨started.1.1, h.inSp.mp started.1.2.1⟩
    | displayName => exact started.1.1
  · rw [text (by rw [collects]; rfl), started.2, String.empty_append]

/-- A text is kept where none was kept before and it is not blank. -/
lemma or_cases (x y : Option String) : x.or y = x ∨ x = none ∧ x.or y = y := by
  cases x with
  | none => exact .inr ⟨rfl, rfl⟩
  | some v => exact .inl rfl

@[simp] lemma keepCertificate_kept (s : SpMetadata) :
    s.keepCertificate.nameIdFormat = s.nameIdFormat ∧
      s.keepCertificate.displayName = s.displayName := by
  unfold keepCertificate
  dsimp only
  split_ifs <;> simp

@[simp] lemma keepNameIdFormat_kept (s : SpMetadata) :
    s.keepNameIdFormat.signingCert = s.signingCert ∧
      s.keepNameIdFormat.fallbackCert = s.fallbackCert ∧
      s.keepNameIdFormat.displayName = s.displayName := by
  unfold keepNameIdFormat
  dsimp only
  split_ifs <;> simp

@[simp] lemma keepDisplayName_kept (s : SpMetadata) :
    s.keepDisplayName.signingCert = s.signingCert ∧
      s.keepDisplayName.fallbackCert = s.fallbackCert ∧
      s.keepDisplayName.nameIdFormat = s.nameIdFormat := by
  unfold keepDisplayName
  dsimp only
  split_ifs <;> simp

lemma onEnd_certificate (s : SpMetadata) (collects : s.capture = some .certificate) :
    (s.onEnd "X509Certificate").signingCert = s.keepCertificate.signingCert ∧
      (s.onEnd "X509Certificate").fallbackCert = s.keepCertificate.fallbackCert := by
  simp [onEnd, collects]

lemma onEnd_signingCert (s : SpMetadata) (name : String) :
    (s.onEnd name).signingCert = s.signingCert ∨
      Names .certificate name ∧ s.capture = some .certificate ∧ s.keyUse = some "signing" ∧
        s.signingCert = none ∧ stripWhitespace s.textBuf ≠ "" ∧
        (s.onEnd name).signingCert = some (stripWhitespace s.textBuf) := by
  by_cases ends : name = "X509Certificate" ∧ s.capture = some .certificate
  · obtain ⟨rfl, collects⟩ := ends
    rw [(s.onEnd_certificate collects).1]
    unfold keepCertificate
    dsimp only
    split_ifs with blank use
    · exact .inl rfl
    · rcases or_cases s.signingCert (some (stripWhitespace s.textBuf)) with same | ⟨none, kept⟩
      · exact .inl same
      · exact .inr ⟨rfl, collects, use, none, blank, kept⟩
    · exact .inl rfl
  · refine .inl ?_
    unfold onEnd
    split_ifs <;> simp_all

lemma onEnd_fallbackCert (s : SpMetadata) (name : String) :
    (s.onEnd name).fallbackCert = s.fallbackCert ∨
      Names .certificate name ∧ s.capture = some .certificate ∧
        (s.onEnd name).fallbackCert = some (stripWhitespace s.textBuf) := by
  by_cases ends : name = "X509Certificate" ∧ s.capture = some .certificate
  · obtain ⟨rfl, collects⟩ := ends
    rw [(s.onEnd_certificate collects).2]
    unfold keepCertificate
    dsimp only
    split_ifs with blank use
    · exact .inl rfl
    · exact .inl rfl
    · rcases or_cases s.fallbackCert (some (stripWhitespace s.textBuf)) with same | ⟨-, kept⟩
      · exact .inl same
      · exact .inr ⟨rfl, collects, kept⟩
  · refine .inl ?_
    unfold onEnd
    split_ifs <;> simp_all

lemma onEnd_nameIdFormat (s : SpMetadata) (name : String) :
    (s.onEnd name).nameIdFormat = s.nameIdFormat ∨
      Names .nameIdFormat name ∧ s.capture = some .nameIdFormat ∧
        (s.onEnd name).nameIdFormat = some (trimWhitespace s.textBuf) := by
  by_cases ends : name = "NameIDFormat" ∧ s.capture = some .nameIdFormat
  · obtain ⟨rfl, collects⟩ := ends
    have kept : (s.onEnd "NameIDFormat").nameIdFormat = s.keepNameIdFormat.nameIdFormat := by
      simp [onEnd, collects]
    rw [kept]
    unfold keepNameIdFormat
    dsimp only
    split_ifs with blank
    · exact .inl rfl
    · rcases or_cases s.nameIdFormat (some (trimWhitespace s.textBuf)) with same | ⟨-, kept⟩
      · exact .inl same
      · exact .inr ⟨rfl, collects, kept⟩
  · refine .inl ?_
    unfold onEnd
    split_ifs <;> simp_all

lemma onEnd_displayName (s : SpMetadata) (name : String) :
    (s.onEnd name).displayName = s.displayName ∨
      Names .displayName name ∧ s.capture = some .displayName ∧
        (s.onEnd name).displayName = some (trimWhitespace s.textBuf) := by
  by_cases ends : Names .displayName name ∧ s.capture = some .displayName
  · obtain ⟨named, collects⟩ := ends
    have kept : (s.onEnd name).displayName = s.keepDisplayName.displayName := by
      rcases named with rfl | rfl <;> simp [onEnd, collects]
    rw [kept]
    unfold keepDisplayName
    dsimp only
    split_ifs with blank
    · exact .inl rfl
    · rcases or_cases s.displayName (some (trimWhitespace s.textBuf)) with same | ⟨-, kept⟩
      · exact .inl same
      · exact .inr ⟨named, collects, kept⟩
  · refine .inl ?_
    unfold onEnd
    split_ifs <;> simp_all [Names]

/-- A value that only the ends of some collected elements set is the text of one of them. -/
lemma Reads.provenance (K : Capture) (f : SpMetadata → Option String) (norm : String → String)
    (on_start : ∀ s e, f (s.onStart e) = f s)
    (on_empty : ∀ s e, e.localName ≠ "EntityDescriptor" → f (s.onEmpty e) = f s)
    (on_text : ∀ s t, f { s with textBuf := t } = f s)
    (on_end : ∀ s name, f (s.onEnd name) = f s ∨
      Names K name ∧ s.capture = some K ∧ f (s.onEnd name) = some (norm s.textBuf))
    {c : Content} (reads : Reads around s c s') (h : s.Tracks around)
    (entity : Inside around "EntityDescriptor") (apart : c.Apart metadataElements around) :
    f s' = f s ∨ ∃ el ∈ c.elements around, el.Kept K ∧ f s' = some (norm el.inside.characters) := by
  refine Reads.tracked (P := fun around s c s' => f s' = f s ∨
    ∃ el ∈ c.elements around, el.Kept K ∧ f s' = some (norm el.inside.characters))
    ?nil ?element ?empty ?text ?cdata ?skip reads h entity apart
  case nil => exact fun _ _ => .inl rfl
  case element =>
    intro around s tag inside rest s₁ s₂ h entity apart inner ih_inner ih_later
    have other : tag.localName ≠ "EntityDescriptor" := fun same =>
      not_entity apart entity (.inl same)
    rcases ih_later with kept | ⟨el, mem, good, value⟩
    · rcases on_end s₁ tag.localName with same | ⟨named, collects, value⟩
      · rcases ih_inner with same_in | ⟨el, mem, good, value⟩
        · exact .inl (by rw [kept, same, same_in, on_start s tag])
        · refine .inr ⟨el, ?_, good, by rw [kept, same, value]⟩
          simp [Content.elements, mem]
      · obtain ⟨good, text⟩ := h.collects entity apart inner collects named
        refine .inr ⟨⟨tag, around, inside⟩, ?_, good, by rw [kept, value, text]⟩
        simp [Content.elements]
    · refine .inr ⟨el, ?_, good, value⟩
      simp [Content.elements, mem]
  case empty =>
    intro around s tag rest s₁ h other ih
    rcases ih with same | ⟨el, mem, good, value⟩
    · exact .inl (by rw [same, on_empty s tag other])
    · refine .inr ⟨el, ?_, good, value⟩
      simp [Content.elements, mem]
  case text =>
    intro around s t rest s₁ s₂ collects ih
    rcases ih with same | found
    · rcases onText_ok collects with ⟨-, rfl⟩ | ⟨decoded, -, -, rfl⟩
      · exact .inl same
      · exact .inl (by rw [same, on_text])
    · exact .inr found
  case cdata => exact fun _ _ _ _ _ ih => ih
  case skip => exact fun _ _ _ _ ih => ih

end Keeping

end SpMetadata

instance (around : List StartTag) (name : String) : Decidable (Inside around name) :=
  inferInstanceAs (Decidable (∃ t ∈ around, t.localName = name))

/-- The binding and the location of an element that has both. -/
def Markup.StartTag.endpoint (tag : StartTag) : Option (String × String) :=
  match tag.attributeOf "Binding", tag.attributeOf "Location" with
  | some binding, some location => some (binding, location)
  | _, _ => none

/-- The endpoints of the consumer services within the roles of service providers, in their order. -/
def consumers (els : List Element) : List (String × String) :=
  els.filterMap fun el =>
    if el.tag.localName = "AssertionConsumerService" ∧ Inside el.around "SPSSODescriptor" then
      el.tag.endpoint
    else none

namespace SpMetadata

section Candidates

variable {s s' : SpMetadata} {around : List StartTag} {tag : StartTag} {inside rest : Content}

lemma pushSso_eq (e : StartTag) (out : List (String × String)) :
    pushSso e out = out ++ e.endpoint.toList := by
  unfold pushSso StartTag.endpoint
  cases e.attributeOf "Binding" <;> cases e.attributeOf "Location" <;> simp

lemma consumers_cons (el : Element) (els : List Element) : consumers (el :: els) =
    (if el.tag.localName = "AssertionConsumerService" ∧ Inside el.around "SPSSODescriptor" then
      el.tag.endpoint.toList else []) ++ consumers els := by
  unfold consumers
  rw [List.filterMap_cons]
  split_ifs
  · cases el.tag.endpoint <;> rfl
  · rfl

lemma consumers_append (els els' : List Element) :
    consumers (els ++ els') = consumers els ++ consumers els' :=
  List.filterMap_append ..

/-- A tag adds its endpoint where it is a consumer service within a role. -/
lemma Tracks.pushes (h : s.Tracks around) (e : StartTag) (inside : Content) :
    (if e.localName = "AssertionConsumerService" ∧ s.inSp then pushSso e s.acsCandidates
      else s.acsCandidates) = s.acsCandidates ++ consumers [⟨e, around, inside⟩] := by
  rw [consumers_cons]
  simp only [h.inSp]
  split_ifs <;> simp [pushSso_eq, consumers]

/-- Reading content adds the endpoints of its consumer services. -/
lemma Reads.candidates {c : Content} (reads : Reads around s c s') (h : s.Tracks around)
    (entity : Inside around "EntityDescriptor") (apart : c.Apart metadataElements around) :
    s'.acsCandidates = s.acsCandidates ++ consumers (c.elements around) := by
  refine Reads.tracked (P := fun around s c s' =>
    s'.acsCandidates = s.acsCandidates ++ consumers (c.elements around))
    ?nil ?element ?empty ?text ?cdata ?skip reads h entity apart
  case nil => simp [Content.elements, consumers]
  case element =>
    intro around s tag inside rest s₁ s₂ h entity apart inner ih_inner ih_later
    have other : tag.localName ≠ "EntityDescriptor" := fun same =>
      not_entity apart entity (.inl same)
    obtain ⟨-, -, -, pushed⟩ := onStart_frame h.inEntity other
    rw [h.pushes tag inside] at pushed
    have split : (Content.element tag inside rest).elements around =
        [⟨tag, around, inside⟩] ++ (inside.elements (tag :: around) ++ rest.elements around) := rfl
    rw [ih_later, (s₁.onEnd_frame tag.localName).2.2.2.2.1, ih_inner, pushed, split,
      consumers_append, consumers_append]
    simp only [List.append_assoc]
  case empty =>
    intro around s tag rest s₁ h other ih
    obtain ⟨-, -, -, pushed⟩ := onEmpty_frame h.inEntity other
    rw [h.pushes tag .nil] at pushed
    rw [ih, pushed, Content.elements, List.append_assoc, ← consumers_append, List.singleton_append]
  case text =>
    intro around s t rest s₁ s₂ collects ih
    have same : s₁.acsCandidates = s.acsCandidates := by
      rcases onText_ok collects with ⟨-, rfl⟩ | ⟨decoded, -, -, rfl⟩ <;> rfl
    rw [ih, same]
    rfl
  case cdata => exact fun _ _ _ _ _ ih => ih
  case skip => exact fun _ _ _ _ ih => ih

end Candidates

section Signing

variable {s s' : SpMetadata} {around : List StartTag} {tag : StartTag} {inside rest : Content}

/-- A certificate of a key descriptor for signing, with a text. -/
def Signing (el : Element) : Prop :=
  el.tag.localName = "X509Certificate" ∧ Inside el.around "SPSSODescriptor" ∧
    (openKey el.around).bind (·.attributeOf "use") = some "signing" ∧
    stripWhitespace el.inside.characters ≠ ""

instance (el : Element) : Decidable (Signing el) :=
  inferInstanceAs (Decidable (_ ∧ _ ∧ _ ∧ _))

/-- The key descriptors for signing have an end tag of their own. -/
def NoEmptyKey (c : Content) : Prop :=
  ∀ tag ∈ c.emptyTags, tag.localName = "KeyDescriptor" → tag.attributeOf "use" ≠ some "signing"

/-- What the flag says of a use for signing is so. -/
def Signs (s : SpMetadata) (around : List StartTag) : Prop :=
  s.keyUse = some "signing" →
    s.inSp = true ∧ ∃ k, openKey around = some k ∧ k.attributeOf "use" = some "signing"

lemma Signs.start (signs : s.Signs around) (h : s.Tracks around)
    (other : tag.localName ≠ "EntityDescriptor")
    (apart : (Content.element tag inside rest).Apart metadataElements around) :
    (s.onStart tag).Signs (tag :: around) := by
  obtain ⟨-, inSp, keyUse, -⟩ := onStart_frame h.inEntity other
  intro use
  rw [keyUse] at use
  rw [openKey_cons, inSp]
  split_ifs at use with key
  · have not_role : tag.localName ≠ "SPSSODescriptor" := by
      rw [key.1]
      decide
    rw [if_neg not_role, if_pos key.1]
    exact ⟨by simp [key.2], tag, rfl, use⟩
  · obtain ⟨role, k, open_k, signing⟩ := signs use
    -- the role is open, so neither a role nor a key descriptor begins here
    have not_role : tag.localName ≠ "SPSSODescriptor" := fun same => by
      obtain ⟨t, open_t, named⟩ := h.inSp.mp role
      exact apart.outermost (by simp [same, metadataElements]) t open_t (named.trans same.symm)
    have not_key : tag.localName ≠ "KeyDescriptor" := fun same => key ⟨same, role⟩
    rw [if_neg not_role, if_neg not_key]
    exact ⟨by simp [role], k, open_k, signing⟩

lemma Signs.close (signs : s.Signs (tag :: around)) : (s.onEnd tag.localName).Signs around := by
  obtain ⟨-, -, inSp, keyUse, -⟩ := s.onEnd_frame tag.localName
  intro use
  rw [keyUse] at use
  split_ifs at use with key
  obtain ⟨role, k, open_k, signing⟩ := signs use
  rw [openKey_cons] at open_k
  split_ifs at open_k with is_role
  exact ⟨by rw [inSp]; simp [role, is_role], k, open_k, signing⟩

lemma Signs.empty (signs : s.Signs around) (h : s.Tracks around)
    (other : tag.localName ≠ "EntityDescriptor") (tags : NoEmptyKey (.empty tag rest)) :
    (s.onEmpty tag).Signs around := by
  obtain ⟨-, inSp, keyUse, -⟩ := onEmpty_frame h.inEntity other
  intro use
  rw [keyUse] at use
  split_ifs at use with key
  · exact absurd use (tags tag List.mem_cons_self key.1)
  · rw [inSp]
    exact signs use

/-- Reading keeps that the flag is right, where every key descriptor for signing has an end tag. -/
lemma Signs.reads {c : Content} (reads : Reads around s c s') (h : s.Tracks around)
    (entity : Inside around "EntityDescriptor") (apart : c.Apart metadataElements around) :
    NoEmptyKey c → s.Signs around → s'.Signs around := by
  refine Reads.tracked (P := fun around s c s' => NoEmptyKey c → s.Signs around → s'.Signs around)
    ?nil ?element ?empty ?text ?cdata ?skip reads h entity apart
  case nil => exact fun _ _ _ signs => signs
  case element =>
    intro around s tag inside rest s₁ s₂ h entity apart inner ih_inner ih_later tags signs
    have other : tag.localName ≠ "EntityDescriptor" := fun same =>
      not_entity apart entity (.inl same)
    have signs_in := ih_inner (fun t mem => tags t (List.mem_append_left _ mem))
      (signs.start h other apart)
    exact ih_later (fun t mem => tags t (List.mem_append_right _ mem)) signs_in.close
  case empty =>
    intro around s tag rest s₁ h other ih tags signs
    exact ih (fun t mem => tags t (List.mem_cons_of_mem tag mem)) (signs.empty h other tags)
  case text =>
    intro around s t rest s₁ s₂ collects ih tags signs
    refine ih tags ?_
    rcases onText_ok collects with ⟨-, rfl⟩ | ⟨decoded, -, -, rfl⟩ <;> exact signs
  case cdata => exact fun _ _ _ _ _ ih => ih
  case skip => exact fun _ _ _ _ ih => ih

/-- A certificate that is kept for signing is of a key descriptor for signing. -/
lemma Reads.signing_sound {c : Content} (reads : Reads around s c s') (h : s.Tracks around)
    (entity : Inside around "EntityDescriptor") (apart : c.Apart metadataElements around) :
    NoEmptyKey c → s.Signs around → s'.signingCert = s.signingCert ∨
      ∃ el ∈ c.elements around, Signing el ∧
        s'.signingCert = some (stripWhitespace el.inside.characters) := by
  refine Reads.tracked (P := fun around s c s' => NoEmptyKey c → s.Signs around →
    s'.signingCert = s.signingCert ∨ ∃ el ∈ c.elements around, Signing el ∧
      s'.signingCert = some (stripWhitespace el.inside.characters))
    ?nil ?element ?empty ?text ?cdata ?skip reads h entity apart
  case nil => exact fun _ _ _ _ => .inl rfl
  case element =>
    intro around s tag inside rest s₁ s₂ h entity apart inner ih_inner ih_later tags signs
    have other : tag.localName ≠ "EntityDescriptor" := fun same =>
      not_entity apart entity (.inl same)
    have tags_in : NoEmptyKey inside := fun t mem => tags t (List.mem_append_left _ mem)
    have starts := signs.start h other apart
    have signs_in : s₁.Signs (tag :: around) := Signs.reads inner (h.start other)
      (inside_cons.mpr (.inr entity)) apart.inside tags_in starts
    rcases ih_later (fun t mem => tags t (List.mem_append_right _ mem)) signs_in.close with
      kept | ⟨el, mem, good, value⟩
    · rcases s₁.onEnd_signingCert tag.localName with same | ⟨named, collects, use, -, some_text, value⟩
      · rcases ih_inner tags_in starts with same_in | ⟨el, mem, good, value⟩
        · exact .inl (by rw [kept, same, same_in, (onStart_kept s tag).1])
        · refine .inr ⟨el, ?_, good, by rw [kept, same, value]⟩
          simp [Content.elements, mem]
      · -- the element is a certificate, so that the key descriptor around it is the one that is open
        obtain ⟨good, text⟩ := h.collects entity apart inner collects named
        obtain ⟨-, k, open_k, signing⟩ := signs_in use
        rw [openKey_cons, show tag.localName = "X509Certificate" from named, if_neg (by decide),
          if_neg (by decide)] at open_k
        rw [text] at some_text value
        refine .inr ⟨⟨tag, around, inside⟩, ?_, ⟨named, good.2.1,
          Option.bind_eq_some_iff.mpr ⟨k, open_k, signing⟩, some_text⟩,
          kept.trans value⟩
        simp [Content.elements]
    · refine .inr ⟨el, ?_, good, value⟩
      simp [Content.elements, mem]
  case empty =>
    intro around s tag rest s₁ h other ih tags signs
    have signs_out : (s.onEmpty tag).Signs around := signs.empty h other tags
    rcases ih (fun t mem => tags t (List.mem_cons_of_mem tag mem)) signs_out with
      same | ⟨el, mem, good, value⟩
    · exact .inl (by rw [same, (onEmpty_kept (s := s) other).1])
    · refine .inr ⟨el, ?_, good, value⟩
      simp [Content.elements, mem]
  case text =>
    intro around s t rest s₁ s₂ collects ih tags signs
    rcases onText_ok collects with ⟨-, rfl⟩ | ⟨decoded, -, -, rfl⟩
    · exact ih tags signs
    · exact ih tags signs
  case cdata => exact fun _ _ _ _ _ ih => ih
  case skip => exact fun _ _ _ _ ih => ih

/-- A certificate of a key descriptor for signing is collected and kept. -/
lemma Tracks.keeps_signing (h : s.Tracks around) (entity : Inside around "EntityDescriptor")
    (apart : (Content.element tag inside rest).Apart metadataElements around)
    (inner : Reads (tag :: around) (s.onStart tag) inside s')
    (signing : Signing ⟨tag, around, inside⟩) (plain : ¬ inside.opens collected) :
    ∃ v, (s'.onEnd tag.localName).signingCert = some v := by
  obtain ⟨named, role, uses, some_text⟩ := signing
  obtain ⟨k, open_k, use⟩ := Option.bind_eq_some_iff.mp uses
  have named : tag.localName = "X509Certificate" := named
  have other : tag.localName ≠ "EntityDescriptor" := by
    rw [named]
    decide
  have within := onStart_inEntity tag h.inEntity
  have starts : s.Starts tag .certificate := by
    refine ⟨named, h.inSp.mpr role, ?_⟩
    rw [h.keyUse (h.inSp.mpr role) k open_k, use]
    decide
  obtain ⟨capture, cleared⟩ : (s.onStart tag).capture = some .certificate ∧
      (s.onStart tag).textBuf = "" := by
    rcases onStart_capture h.inEntity other with ⟨K, starts_K, capture, cleared⟩ | ⟨none, -⟩
    · cases K with
      | certificate => exact ⟨capture, cleared⟩
      | nameIdFormat => exact absurd (named.symm.trans starts_K.1) (by decide)
      | displayName =>
        rcases starts_K.1 with name | name <;> exact absurd (named.symm.trans name) (by decide)
    · exact absurd starts (none .certificate)
  obtain ⟨same, text⟩ := inner.quiet within
    (fun found => not_entity apart entity (.inr (.inl found))) plain
  rw [capture] at same
  have text : s'.textBuf = inside.characters := by
    rw [text (by rw [capture]; rfl), cleared, String.empty_append]
  -- the key descriptor that is open is still the one for signing
  have tracks := (h.start other).reads inner (inside_cons.mpr (.inr entity)) apart.inside
  have uses : s'.keyUse = some "signing" := by
    rw [tracks.keyUse (tracks.inSp.mpr (inside_cons.mpr (.inr role))) k ?_, use]
    rw [openKey_cons, named, if_neg (by decide), if_neg (by decide), open_k]
  rw [named, (s'.onEnd_certificate same).1]
  unfold keepCertificate
  dsimp only
  rw [text, if_neg some_text, if_pos uses]
  cases s'.signingCert with
  | none => exact ⟨_, rfl⟩
  | some v => exact ⟨v, rfl⟩

/-- A certificate of a key descriptor for signing is kept, or one before it. -/
lemma Reads.signing_complete {c : Content} (reads : Reads around s c s') (h : s.Tracks around)
    (entity : Inside around "EntityDescriptor") (apart : c.Apart metadataElements around) :
    (∃ v, s.signingCert = some v) ∨ (∃ el ∈ c.elements around, Signing el ∧
      ¬ el.inside.opens collected) → ∃ v, s'.signingCert = some v := by
  refine Reads.tracked (P := fun around s c s' => (∃ v, s.signingCert = some v) ∨
    (∃ el ∈ c.elements around, Signing el ∧ ¬ el.inside.opens collected) →
      ∃ v, s'.signingCert = some v)
    ?nil ?element ?empty ?text ?cdata ?skip reads h entity apart
  case nil =>
    rintro around s (kept | ⟨el, none, -⟩)
    · exact kept
    · cases none
  case element =>
    intro around s tag inside rest s₁ s₂ h entity apart inner ih_inner ih_later found
    have other : tag.localName ≠ "EntityDescriptor" := fun same =>
      not_entity apart entity (.inl same)
    -- what is kept at the end of the content of this element is kept after it
    have passes : (∃ v, s₁.signingCert = some v) → ∃ v, s₂.signingCert = some v := by
      rintro ⟨v, kept⟩
      refine ih_later (.inl ⟨v, ?_⟩)
      rcases s₁.onEnd_signingCert tag.localName with same | ⟨-, -, -, none, -⟩
      · rw [same, kept]
      · rw [none] at kept
        cases kept
    rcases found with ⟨v, kept⟩ | ⟨el, mem, signing, plain⟩
    · exact passes (ih_inner (.inl ⟨v, by rw [(onStart_kept s tag).1, kept]⟩))
    · simp only [Content.elements, List.mem_cons, List.mem_append] at mem
      rcases mem with rfl | mem | mem
      · exact ih_later (.inl (h.keeps_signing entity apart inner signing plain))
      · exact passes (ih_inner (.inr ⟨el, mem, signing, plain⟩))
      · exact ih_later (.inr ⟨el, mem, signing, plain⟩)
  case empty =>
    intro around s tag rest s₁ h other ih found
    refine ih ?_
    rcases found with kept | ⟨el, mem, signing, plain⟩
    · rw [(onEmpty_kept (s := s) other).1]
      exact .inl kept
    · simp only [Content.elements, List.mem_cons] at mem
      rcases mem with rfl | mem
      · exact absurd rfl signing.2.2.2
      · exact .inr ⟨el, mem, signing, plain⟩
  case text =>
    intro around s t rest s₁ s₂ collects ih found
    refine ih ?_
    rcases onText_ok collects with ⟨-, rfl⟩ | ⟨decoded, -, -, rfl⟩ <;> exact found
  case cdata => exact fun _ _ _ _ _ ih => ih
  case skip => exact fun _ _ _ _ ih => ih

end Signing

end SpMetadata

namespace SpMetadata

/-- The identifier is that of the entity. -/
lemma Reads.entityId {s s' : SpMetadata} {around : List StartTag} {c : Content}
    (reads : Reads around s c s') (h : s.Tracks around) (entity : Inside around "EntityDescriptor")
    (apart : c.Apart metadataElements around) : s'.entityId = s.entityId := by
  refine Reads.tracked (P := fun _ s _ s' => s'.entityId = s.entityId)
    ?nil ?element ?empty ?text ?cdata ?skip reads h entity apart
  case nil => exact fun _ _ => rfl
  case element =>
    intro around s tag inside rest s₁ s₂ h entity apart inner ih_inner ih_later
    have other : tag.localName ≠ "EntityDescriptor" := fun same =>
      not_entity apart entity (.inl same)
    rw [ih_later, (s₁.onEnd_frame tag.localName).1, ih_inner, (onStart_frame h.inEntity other).1]
  case empty =>
    intro around s tag rest s₁ h other ih
    rw [ih, (onEmpty_frame h.inEntity other).1]
  case text =>
    intro around s t rest s₁ s₂ collects ih
    rw [ih]
    rcases onText_ok collects with ⟨-, rfl⟩ | ⟨decoded, -, -, rfl⟩ <;> rfl
  case cdata => exact fun _ _ _ _ _ ih => ih
  case skip => exact fun _ _ _ _ ih => ih

lemma tracks_atEntity {tag : StartTag} (entity : tag.localName = "EntityDescriptor") :
    (atEntity tag).Tracks [tag] := by
  refine ⟨rfl, ?_, ?_, ?_, ?_, ?_⟩
  · simp [atEntity, Inside, entity]
  all_goals simp [atEntity]

lemma imported_ok {s : SpMetadata} {r : ImportedSpMetadata} (ok : s.imported = .ok r) :
    (∃ id, s.entityId = some id ∧ r.entityId = trimWhitespace id) ∧
      pickAcsUrl s.acsCandidates = some r.acsUrl ∧
      r.x509Certificate = (s.signingCert.or s.fallbackCert).getD "" ∧
      r.nameIdFormat = s.nameIdFormat ∧ r.displayName = s.displayName := by
  unfold imported at ok
  split at ok
  case h_1 => cases ok
  case h_2 id found =>
    split at ok
    case h_1 => cases ok
    case h_2 acsUrl picked =>
      obtain rfl := Except.ok.inj ok
      exact ⟨⟨id, (Option.filter_eq_some_iff.mp found).1, rfl⟩, picked, rfl, rfl, rfl⟩

end SpMetadata

/-- The preferred consumer service: by POST, else by redirect, else the first. -/
lemma pickAcsUrl_eq (candidates : List (String × String)) : pickAcsUrl candidates =
    ((candidates.find? (·.1 = bindingHttpPost)).or
      ((candidates.find? (·.1 = bindingHttpRedirect)).or candidates.head?)).map Prod.snd := by
  unfold pickAcsUrl pickByBinding pickByBinding pickByBinding
  cases candidates.find? (·.1 = bindingHttpPost) with
  | some post => rfl
  | none =>
    cases candidates.find? (·.1 = bindingHttpRedirect) with
    | some redirect => rfl
    | none => rfl

open SpMetadata in
/-- The import is of the first `EntityDescriptor` element: its identifier, the consumer service that is
preferred among those within its roles of a service provider, a certificate and a format of names from
within these roles, the certificate of no key descriptor for encryption and of one for signing where
there is such a certificate, and a display name from within the entity. -/
theorem imported_from_entity (c : Content) (r : ImportedSpMetadata)
    (apart : ∀ n ∈ metadataElements, c.NotInItself n)
    (ok : parseSpMetadata (delivered c) = .ok r) :
    ∃ tag inside, c.firstElement "EntityDescriptor" = some (tag, inside) ∧
      (∃ id, tag.attributeOf "entityID" = some id ∧ r.entityId = trimWhitespace id) ∧
      some r.acsUrl =
        (((consumers (inside.elements [tag])).find? (·.1 = bindingHttpPost)).or
          (((consumers (inside.elements [tag])).find? (·.1 = bindingHttpRedirect)).or
            (consumers (inside.elements [tag])).head?)).map Prod.snd ∧
      (r.x509Certificate = "" ∨ ∃ el ∈ inside.elements [tag], el.Kept .certificate ∧
        r.x509Certificate = stripWhitespace el.inside.characters) ∧
      (NoEmptyKey inside →
        (∃ el ∈ inside.elements [tag], Signing el ∧ ¬ el.inside.opens collected) →
          ∃ el ∈ inside.elements [tag], Signing el ∧
            r.x509Certificate = stripWhitespace el.inside.characters) ∧
      (∀ format, r.nameIdFormat = some format → ∃ el ∈ inside.elements [tag],
        el.Kept .nameIdFormat ∧ format = trimWhitespace el.inside.characters) ∧
      ∀ name, r.displayName = some name → ∃ el ∈ inside.elements [tag],
        el.Kept .displayName ∧ name = trimWhitespace el.inside.characters := by
  unfold parseSpMetadata at ok
  split at ok
  case h_1 => cases ok
  case h_2 s' loops =>
  obtain ⟨identified, picked, certificate, format, display⟩ := imported_ok ok
  have some_acs : s'.acsCandidates ≠ [] := by
    intro none
    rw [none] at picked
    cases picked
  rw [← List.append_nil (delivered c)] at loops
  rcases loop_entity (apart _ (by simp [metadataElements])) loops some_acs with
    ⟨tag, inside, first, none_inside, reads⟩ | ⟨-, ends⟩
  case inr =>
    obtain rfl := Except.ok.inj ends
    exact absurd rfl some_acs
  case inl =>
  obtain ⟨named, apart_inside⟩ := Content.firstElement_spec first
  have tracks := tracks_atEntity named
  have entity : Inside [tag] "EntityDescriptor" := ⟨tag, List.mem_cons_self, named⟩
  have placed : inside.Apart metadataElements [tag] := by
    refine fun n mem => ⟨apart_inside n (apart n mem), ?_⟩
    rintro ⟨t, open_t, rfl⟩
    rw [List.mem_singleton.mp open_t, named]
    exact none_inside
  obtain ⟨id, held, trimmed⟩ := identified
  refine ⟨tag, inside, first, ⟨id, ?_, trimmed⟩, ?_, ?_, ?_, ?_, ?_⟩
  · rw [← held, reads.entityId tracks entity placed]
    rfl
  · have found : s'.acsCandidates = [] ++ consumers (inside.elements [tag]) :=
      reads.candidates tracks entity placed
    rw [← picked, pickAcsUrl_eq, found, List.nil_append]
  · have signing := reads.provenance .certificate signingCert stripWhitespace
      (fun s e => (onStart_kept s e).1) (fun s e other => (onEmpty_kept other).1) (fun _ _ => rfl)
      (fun s name => (s.onEnd_signingCert name).imp_right fun h => ⟨h.1, h.2.1, h.2.2.2.2.2⟩)
      tracks entity placed
    have fallback := reads.provenance .certificate fallbackCert stripWhitespace
      (fun s e => (onStart_kept s e).2.1) (fun s e other => (onEmpty_kept other).2.1)
      (fun _ _ => rfl) onEnd_fallbackCert tracks entity placed
    rw [certificate]
    rcases signing with none | ⟨el, mem, kept, value⟩
    · rcases fallback with none' | ⟨el, mem, kept, value⟩
      · exact .inl (by rw [none, none']; rfl)
      · exact .inr ⟨el, mem, kept, by rw [none, value]; rfl⟩
    · exact .inr ⟨el, mem, kept, by rw [value]; rfl⟩
  · intro tags found
    have signs : (atEntity tag).Signs [tag] := fun use => by cases use
    obtain ⟨v, kept⟩ := reads.signing_complete tracks entity placed (.inr found)
    rcases reads.signing_sound tracks entity placed tags signs with none | ⟨el, mem, signing, value⟩
    · rw [none] at kept
      cases kept
    · exact ⟨el, mem, signing, by rw [certificate, value]; rfl⟩
  · intro f is_format
    rcases reads.provenance .nameIdFormat nameIdFormat trimWhitespace
      (fun s e => (onStart_kept s e).2.2.1) (fun s e other => (onEmpty_kept other).2.2.1)
      (fun _ _ => rfl) onEnd_nameIdFormat tracks entity placed with none | ⟨el, mem, kept, value⟩
    · rw [format, none] at is_format
      cases is_format
    · rw [format, value] at is_format
      exact ⟨el, mem, kept, (Option.some.inj is_format).symm⟩
  · intro d is_display
    rcases reads.provenance .displayName displayName trimWhitespace
      (fun s e => (onStart_kept s e).2.2.2) (fun s e other => (onEmpty_kept other).2.2.2.1)
      (fun _ _ => rfl) onEnd_displayName tracks entity placed with none | ⟨el, mem, kept, value⟩
    · rw [display, none] at is_display
      cases is_display
    · rw [display, value] at is_display
      exact ⟨el, mem, kept, (Option.some.inj is_display).symm⟩

/-! ## Documents -/

namespace Sample

/-- A tag without attributes. -/
def plainTag (name : String) : StartTag := ⟨name, []⟩

/-- A tag with attributes. -/
def tagWith (name : String) (attributes : List (String × String)) : StartTag :=
  ⟨name, attributes.map fun a => .ok ⟨a.1, .ok a.2⟩⟩

/-- An element that holds a text, before some content. -/
def textElement (name text : String) (rest : Content) : Content :=
  .element (plainTag name) (.text (.ok text) .nil) rest

/-- A consumer service, before some content. -/
def consumer (binding location : String) (rest : Content) : Content :=
  .empty (tagWith "md:AssertionConsumerService" [("Binding", binding), ("Location", location)]) rest

/-- The metadata of a service provider with some content. -/
def metadata (inside : Content) : Content :=
  .element (tagWith "md:EntityDescriptor" [("entityID", "urn:sp")]) inside .nil

/-- A key descriptor with a certificate, before some content. -/
def keyDescriptor (attributes : List (String × String)) (certificate rest : Content) : Content :=
  .element (tagWith "md:KeyDescriptor" attributes) certificate rest

/-- A role of a service provider with some content, before some other. -/
def role (inside rest : Content) : Content :=
  .element (plainTag "md:SPSSODescriptor") inside rest

/-- A service provider that prefers POST, with a certificate for each use. -/
def spMetadata : Content := metadata (role
  (keyDescriptor [("use", "encryption")] (textElement "ds:X509Certificate" "ENC" .nil)
    (keyDescriptor [("use", "signing")] (textElement "ds:X509Certificate" " SIGN " .nil)
      (consumer bindingHttpRedirect "https://sp/redirect" (consumer bindingHttpPost "https://sp/post" .nil))))
  .nil)

/-- An entity that is an identity provider too, whose organization is named in that role. -/
def providerName : Content := metadata (.element (plainTag "md:IDPSSODescriptor")
  (.element (plainTag "md:Organization") (textElement "md:OrganizationDisplayName" "Provider" .nil) .nil)
  (role (consumer bindingHttpPost "https://sp/post" .nil) .nil))

/-- A key descriptor for encryption around the role. -/
def outerKey : Content := metadata (keyDescriptor [("use", "encryption")]
  (role (textElement "ds:X509Certificate" "CERT" (consumer bindingHttpPost "https://sp/post" .nil)) .nil)
  .nil)

/-- A certificate for signing that holds a format of names, and one for no use. -/
def coveredKey : Content := metadata (role
  (keyDescriptor [("use", "signing")]
    (.element (plainTag "ds:X509Certificate") (textElement "md:NameIDFormat" "" (.text (.ok "SIGN") .nil)) .nil)
    (keyDescriptor [] (textElement "ds:X509Certificate" "CERT" .nil)
      (consumer bindingHttpPost "https://sp/post" .nil)))
  .nil)

end Sample

open SpMetadata in
/-- A certificate that is imported is one of the role. -/
theorem imported_from_entity_sample :
    ∃ tag inside, Sample.spMetadata.firstElement "EntityDescriptor" = some (tag, inside) ∧
      ("SIGN" = "" ∨ ∃ el ∈ inside.elements [tag], el.Kept .certificate ∧
        "SIGN" = stripWhitespace el.inside.characters) := by
  obtain ⟨tag, inside, first, -, -, certificate, -⟩ := imported_from_entity Sample.spMetadata
    { entityId := "urn:sp", acsUrl := "https://sp/post", x509Certificate := "SIGN"
      nameIdFormat := none, displayName := none } (by decide +kernel) (by decide +kernel)
  exact ⟨tag, inside, first, certificate⟩

open SpMetadata in
/-- A display name is taken from the role of an identity provider, and it is the only one there is. A
key descriptor around the role does not keep its certificate out, and a certificate for signing is
passed over for what it holds. -/
theorem imported_beside_role :
    (∀ n ∈ metadataElements ++ ["IDPSSODescriptor", "AssertionConsumerService"],
      Sample.providerName.NotInItself n ∧ Sample.outerKey.NotInItself n ∧
        Sample.coveredKey.NotInItself n) ∧
    (parseSpMetadata (delivered Sample.providerName) = .ok
        { entityId := "urn:sp", acsUrl := "https://sp/post", x509Certificate := ""
          nameIdFormat := none, displayName := some "Provider" } ∧
      ∀ el ∈ Sample.providerName.elements [], el.tag.localName = "OrganizationDisplayName" ∨
        el.tag.localName = "OrganizationName" → Inside el.around "IDPSSODescriptor") ∧
    (parseSpMetadata (delivered Sample.outerKey) = .ok
        { entityId := "urn:sp", acsUrl := "https://sp/post", x509Certificate := "CERT"
          nameIdFormat := none, displayName := none } ∧
      ∀ el ∈ Sample.outerKey.elements [], el.tag.localName = "X509Certificate" →
        ∃ k ∈ el.around, k.localName = "KeyDescriptor" ∧ k.attributeOf "use" = some "encryption") ∧
    parseSpMetadata (delivered Sample.coveredKey) = .ok
        { entityId := "urn:sp", acsUrl := "https://sp/post", x509Certificate := "CERT"
          nameIdFormat := none, displayName := none } ∧
      ∃ el ∈ Sample.coveredKey.elements [], Signing el ∧
        stripWhitespace el.inside.characters = "SIGN" := by
  refine ⟨by decide +kernel, ⟨by decide +kernel, by decide +kernel⟩,
    ⟨by decide +kernel, by decide +kernel⟩, by decide +kernel, by decide +kernel⟩

end IdpMvp
