import IdpMvp.Saml.Provenance

/-!
# How metadata is written

A document can be written in more than one way: an empty element with one tag or with two, character
data as text or as a section. The loop of the import has an arm for each, and they do not always do
the same; a place is harmless where they do.
-/

namespace IdpMvp

open Markup

/-- Documents with the same content: tags and character data may be written otherwise. -/
inductive Alike : List Event → List Event → Prop where
  | nil : Alike [] []
  | same {ev d d'} (rest : Alike d d') : Alike (ev :: d) (ev :: d')
  | oneTag {e d d'} (rest : Alike d d') : Alike (.start e :: .endTag e.name :: d) (.empty e :: d')
  | twoTags {e d d'} (rest : Alike d d') : Alike (.empty e :: d) (.start e :: .endTag e.name :: d')
  | toSection {t d d'} (rest : Alike d d') : Alike (.text (.ok t) :: d) (.cdata t :: d')
  | toText {t d d'} (rest : Alike d d') : Alike (.cdata t :: d) (.text (.ok t) :: d')

lemma Alike.refl (d : List Event) : Alike d d := by
  induction d with
  | nil => exact .nil
  | cons ev d ih => exact .same ih

namespace SpMetadata

/-- The variables after an event, where the loop goes on. -/
def turn (s : SpMetadata) : Event → Option SpMetadata
  | .start e => some (s.onStart e)
  | .empty e => some (s.onEmpty e)
  | .text t =>
    match s.onText t with
    | .error _ => none
    | .ok s' => some s'
  | .endTag name =>
    if stripPrefix name = "EntityDescriptor" ∧ s.inEntity then none
    else some (s.onEnd (stripPrefix name))
  | .cdata _ | .other => some s

/-- Where an empty element is read alike with one tag and with two. -/
def HarmlessTag (s : SpMetadata) (e : StartTag) : Prop :=
  (e.localName = "EntityDescriptor" → s.entityId.isSome ∧ s.inEntity = false) ∧
    (e.localName = "SPSSODescriptor" → s.inSp = false) ∧
    (e.localName = "KeyDescriptor" →
      (if s.inEntity ∧ s.inSp then e.attributeOf "use" else s.keyUse) = none) ∧
    (e.localName ∈ collected → s.capture = none)

/-- Where character data is read alike as text and as a section. -/
def HarmlessText (s : SpMetadata) (t : String) : Prop := s.capture = none ∨ t = ""

/-- A document written otherwise, at harmless places only, for a loop that is at `s`. -/
inductive Respelled : SpMetadata → List Event → List Event → Prop where
  | nil {s} : Respelled s [] []
  | same {s s' ev d d'} (goes : s.turn ev = some s') (rest : Respelled s' d d') :
    Respelled s (ev :: d) (ev :: d')
  | stopped {s ev d d'} (stops : s.turn ev = none) (rest : Alike d d') :
    Respelled s (ev :: d) (ev :: d')
  | oneTag {s e d d'} (harmless : s.HarmlessTag e) (rest : Respelled (s.onEmpty e) d d') :
    Respelled s (.start e :: .endTag e.name :: d) (.empty e :: d')
  | twoTags {s e d d'} (harmless : s.HarmlessTag e) (rest : Respelled (s.onEmpty e) d d') :
    Respelled s (.empty e :: d) (.start e :: .endTag e.name :: d')
  | toSection {s t d d'} (harmless : s.HarmlessText t) (rest : Respelled s d d') :
    Respelled s (.text (.ok t) :: d) (.cdata t :: d')
  | toText {s t d d'} (harmless : s.HarmlessText t) (rest : Respelled s d d') :
    Respelled s (.cdata t :: d) (.text (.ok t) :: d')

/-- The same variables, but for a text that is not being collected. -/
structure Same (s t : SpMetadata) : Prop where
  but_text : t = { s with textBuf := t.textBuf }
  collected : s.capture.isSome → t.textBuf = s.textBuf

variable {s t : SpMetadata}

lemma Same.refl (s : SpMetadata) : Same s s := ⟨rfl, fun _ => rfl⟩

/-- While a text is collected nothing differs; else only the text that is left over. -/
lemma Same.cases (h : Same s t) : t = s ∨ s.capture = none ∧ ∃ text, t = { s with textBuf := text } := by
  by_cases collects : s.capture.isSome
  · refine .inl (h.but_text.trans ?_)
    rw [h.collected collects]
  · exact .inr ⟨by simpa using collects, t.textBuf, h.but_text⟩

lemma Same.onStart (h : Same s t) (e : StartTag) : Same (s.onStart e) (t.onStart e) := by
  rcases h.cases with rfl | ⟨none, text, rfl⟩
  · exact .refl _
  · unfold SpMetadata.onStart
    dsimp only
    split_ifs
    all_goals exact ⟨rfl, by simp [none]⟩

lemma Same.onEmpty (h : Same s t) (e : StartTag) : Same (s.onEmpty e) (t.onEmpty e) := by
  rcases h.cases with rfl | ⟨none, text, rfl⟩
  · exact .refl _
  · unfold SpMetadata.onEmpty
    dsimp only
    split_ifs
    all_goals exact ⟨rfl, by simp [none]⟩

/-- While nothing is collected, end tags only clear their flags. -/
lemma onEnd_idle (none : s.capture = none) (name : String) : s.onEnd name =
    if name = "SPSSODescriptor" then { s with inSp := false }
    else if name = "KeyDescriptor" then { s with keyUse := Option.none } else s := by
  have same : { s with capture := Option.none } = s := by rw [← none]
  unfold onEnd
  split_ifs <;> simp_all

lemma Same.onEnd (h : Same s t) (name : String) : Same (s.onEnd name) (t.onEnd name) := by
  rcases h.cases with rfl | ⟨none, text, rfl⟩
  · exact .refl _
  · rw [onEnd_idle none, onEnd_idle (s := { s with textBuf := text }) none]
    split_ifs
    all_goals exact ⟨rfl, by simp [none]⟩

/-- The import of a document by a loop that is at `s`. -/
def outcome (s : SpMetadata) (d : List Event) : Except DomainError ImportedSpMetadata :=
  match s.loop (d.map .ok) with
  | .error err => .error err
  | .ok s' => s'.imported

lemma parse_outcome (d : List Event) : parseSpMetadata (d.map .ok) = outcome {} d := rfl

lemma outcome_turn {s' : SpMetadata} {ev : Event} (goes : s.turn ev = some s') (d : List Event) :
    s.outcome (ev :: d) = s'.outcome d := by
  have loops : s.loop (.ok ev :: d.map .ok) = s'.loop (d.map .ok) := by
    cases ev with
    | start e =>
      obtain rfl := Option.some.inj goes
      rw [loop]
    | empty e =>
      obtain rfl := Option.some.inj goes
      rw [loop]
    | text t =>
      rw [turn] at goes
      rw [loop]
      cases collects : s.onText t with
      | error err =>
        rw [collects] at goes
        cases goes
      | ok s₁ =>
        rw [collects] at goes
        obtain rfl := Option.some.inj goes
        rfl
    | endTag name =>
      rw [turn] at goes
      rw [loop]
      split_ifs at goes with ends
      obtain rfl := Option.some.inj goes
      rw [if_neg ends]
    | cdata t =>
      obtain rfl := Option.some.inj goes
      rw [loop]
    | other =>
      obtain rfl := Option.some.inj goes
      rw [loop]
  unfold SpMetadata.outcome
  rw [List.map_cons, loops]

lemma outcome_stops {ev : Event} (stops : s.turn ev = none) (d d' : List Event) :
    s.outcome (ev :: d) = s.outcome (ev :: d') := by
  have loops : s.loop (.ok ev :: d.map .ok) = s.loop (.ok ev :: d'.map .ok) := by
    cases ev with
    | start e => cases stops
    | empty e => cases stops
    | text t =>
      rw [turn] at stops
      rw [loop, loop]
      cases collects : s.onText t with
      | error err => rfl
      | ok s₁ =>
        rw [collects] at stops
        cases stops
    | endTag name =>
      rw [turn] at stops
      split_ifs at stops with ends
      rw [loop, loop, if_pos ends, if_pos ends]
    | cdata t => cases stops
    | other => cases stops
  unfold SpMetadata.outcome
  rw [List.map_cons, List.map_cons, loops]

lemma Same.imported (h : Same s t) : s.imported = t.imported := by
  rw [h.but_text]
  rfl

/-- The same variables lead to the same import. -/
lemma Same.outcome (h : Same s t) (d : List Event) : s.outcome d = t.outcome d := by
  induction d generalizing s t with
  | nil => exact h.imported
  | cons ev d ih =>
    -- both go on from the same variables, or both stop
    have step : (∃ s' t', s.turn ev = some s' ∧ t.turn ev = some t' ∧ Same s' t') ∨
        s.outcome (ev :: d) = t.outcome (ev :: d) := by
      cases ev with
      | start e => exact .inl ⟨_, _, rfl, rfl, h.onStart e⟩
      | empty e => exact .inl ⟨_, _, rfl, rfl, h.onEmpty e⟩
      | text text =>
        rcases h.cases with rfl | ⟨none, left, rfl⟩
        · exact .inr rfl
        · exact .inl ⟨s, { s with textBuf := left }, by simp [turn, SpMetadata.onText, none],
            by simp [turn, SpMetadata.onText, none], h⟩
      | endTag name =>
        have entity : t.inEntity = s.inEntity := by rw [h.but_text]
        by_cases ends : stripPrefix name = "EntityDescriptor" ∧ s.inEntity
        · refine .inr ?_
          unfold SpMetadata.outcome
          rw [List.map_cons, loop, loop, if_pos ends, if_pos (entity.symm ▸ ends)]
          exact h.imported
        · refine .inl ⟨s.onEnd (stripPrefix name), t.onEnd (stripPrefix name), ?_, ?_, h.onEnd _⟩
          · rw [turn, if_neg ends]
          · rw [turn, if_neg (entity.symm ▸ ends)]
      | cdata text => exact .inl ⟨s, t, rfl, rfl, h⟩
      | other => exact .inl ⟨s, t, rfl, rfl, h⟩
    rcases step with ⟨s', t', goes, goes', same⟩ | equal
    · rw [outcome_turn goes, outcome_turn goes', ih same]
    · exact equal

section Tags

variable {e : StartTag}

lemma turn_end (e : StartTag) : s.turn (.endTag e.name) =
    if e.localName = "EntityDescriptor" ∧ s.inEntity then none else some (s.onEnd e.localName) := rfl

lemma harmless_entity (named : e.localName = "EntityDescriptor") : s.HarmlessTag e ↔
    ∃ s₂, (s.onStart e).turn (.endTag e.name) = some s₂ ∧ Same (s.onEmpty e) s₂ := by
  have only : s.HarmlessTag e ↔ s.entityId.isSome ∧ s.inEntity = false := by
    simp [HarmlessTag, named, collected]
  rw [only, turn_end]
  constructor
  · rintro ⟨taken, outside⟩
    have none : ¬ (e.localName = "EntityDescriptor" ∧ s.entityId.isNone) := fun h => by simp_all
    rw [onStart_outside outside none, onEmpty_outside outside none, if_neg (by simp [outside])]
    exact ⟨_, rfl, by simpa [onEnd, named] using Same.refl s⟩
  · rintro ⟨s₂, goes, -⟩
    split_ifs at goes with ends
    have outside : (s.onStart e).inEntity = false := by simpa [named] using ends
    cases id : s.entityId with
    | none => simp [onStart, named, id] at outside
    | some id' =>
      refine ⟨rfl, ?_⟩
      simpa [onStart, named, id] using outside

lemma harmless_role (named : e.localName = "SPSSODescriptor") : s.HarmlessTag e ↔
    ∃ s₂, (s.onStart e).turn (.endTag e.name) = some s₂ ∧ Same (s.onEmpty e) s₂ := by
  have only : s.HarmlessTag e ↔ s.inSp = false := by simp [HarmlessTag, named, collected]
  have read : (s.onStart e).turn (.endTag e.name) = some { s with inSp := false } := by
    rw [turn_end, if_neg (by simp [named])]
    by_cases inside : s.inEntity <;> simp [onStart, onEnd, named, inside]
  have empty : s.onEmpty e = s := by simp [onEmpty, named]
  rw [only, read, empty]
  constructor
  · intro out
    refine ⟨_, rfl, ?_⟩
    rw [← out]
    exact Same.refl s
  · rintro ⟨s₂, goes, same⟩
    obtain rfl := Option.some.inj goes
    exact (congrArg SpMetadata.inSp same.but_text).symm

lemma harmless_key (named : e.localName = "KeyDescriptor") : s.HarmlessTag e ↔
    ∃ s₂, (s.onStart e).turn (.endTag e.name) = some s₂ ∧ Same (s.onEmpty e) s₂ := by
  have only : s.HarmlessTag e ↔
      (if s.inEntity ∧ s.inSp then e.attributeOf "use" else s.keyUse) = none := by
    simp [HarmlessTag, named, collected]
  have read : (s.onStart e).turn (.endTag e.name) = some { s with keyUse := none } := by
    rw [turn_end, if_neg (by simp [named])]
    by_cases inside : s.inEntity ∧ s.inSp <;> simp [onStart, onEnd, named, inside]
  have empty : s.onEmpty e =
      { s with keyUse := if s.inEntity ∧ s.inSp then e.attributeOf "use" else s.keyUse } := by
    by_cases inside : s.inEntity ∧ s.inSp <;> simp [onEmpty, named, inside]
  rw [only, read, empty]
  constructor
  · intro unused
    refine ⟨_, rfl, ?_⟩
    rw [unused]
    exact Same.refl _
  · rintro ⟨s₂, goes, same⟩
    obtain rfl := Option.some.inj goes
    exact (congrArg SpMetadata.keyUse same.but_text).symm

/-- A collected element without content leaves nothing behind. -/
lemma onEnd_onStart (none : s.capture = none) (named : e.localName ∈ collected) :
    Same s ((s.onStart e).onEnd e.localName) := by
  have blank : stripWhitespace "" = "" := rfl
  have blank' : trimWhitespace "" = "" := rfl
  simp only [collected, List.mem_cons, List.not_mem_nil, or_false] at named
  rcases named with named | named | named | named
  · by_cases starts : s.inEntity ∧ s.inSp ∧ s.keyUse ≠ some "encryption"
    · refine ⟨?_, fun some => by simp [none] at some⟩
      simp [onStart, onEnd, named, starts, keepCertificate, blank, none]
    · have idle : s.onStart e = s := by simp [onStart, named, starts]
      rw [idle, onEnd_idle none]
      simp [named, Same.refl]
  · by_cases starts : s.inEntity = true ∧ s.inSp = true ∧ s.nameIdFormat = Option.none
    · refine ⟨?_, fun some => by simp [none] at some⟩
      simp [onStart, onEnd, named, starts, keepNameIdFormat, blank', none]
    · have idle : s.onStart e = s := by
        simpa [onStart, named] using fun a b c => absurd ⟨a, b, c⟩ starts
      rw [idle, onEnd_idle none]
      simp [named, Same.refl]
  all_goals
    by_cases starts : s.inEntity = true ∧ s.displayName = Option.none
    · refine ⟨?_, fun some => by simp [none] at some⟩
      simp [onStart, onEnd, named, starts, keepDisplayName, blank', none]
    · have idle : s.onStart e = s := by
        simpa [onStart, named] using fun a b => absurd ⟨a, b⟩ starts
      rw [idle, onEnd_idle none]
      simp [named, Same.refl]

lemma harmless_collected (named : e.localName ∈ collected) : s.HarmlessTag e ↔
    ∃ s₂, (s.onStart e).turn (.endTag e.name) = some s₂ ∧ Same (s.onEmpty e) s₂ := by
  have apart : ∀ name ∈ ["EntityDescriptor", "SPSSODescriptor", "KeyDescriptor",
      "AssertionConsumerService"], e.localName ≠ name := by
    have disjoint : ∀ name ∈ ["EntityDescriptor", "SPSSODescriptor", "KeyDescriptor",
        "AssertionConsumerService"], name ∉ collected := by decide
    exact fun name mem same => disjoint name mem (same ▸ named)
  simp only [List.mem_cons, List.not_mem_nil, or_false, forall_eq_or_imp, forall_eq] at apart
  obtain ⟨entity, role, key, consumer⟩ := apart
  have only : s.HarmlessTag e ↔ s.capture = none := by
    simp [HarmlessTag, entity, role, key, named]
  have empty : s.onEmpty e = s := by simp [onEmpty, entity, key, consumer]
  rw [only, turn_end, if_neg (fun h => entity h.1), empty]
  constructor
  · exact fun none => ⟨_, rfl, onEnd_onStart none named⟩
  · rintro ⟨s₂, goes, same⟩
    obtain rfl := Option.some.inj goes
    obtain ⟨-, -, -, -, -, -, ended⟩ := (s.onStart e).onEnd_frame e.localName
    rw [if_pos named] at ended
    exact (congrArg SpMetadata.capture same.but_text).symm.trans ended

end Tags

/-- A place is harmless for a tag exactly when the two ways of writing it leave the same variables. -/
theorem harmlessTag_iff (e : StartTag) : s.HarmlessTag e ↔
    ∃ s₂, (s.onStart e).turn (.endTag e.name) = some s₂ ∧ Same (s.onEmpty e) s₂ := by
  by_cases entity : e.localName = "EntityDescriptor"
  · exact harmless_entity entity
  by_cases role : e.localName = "SPSSODescriptor"
  · exact harmless_role role
  by_cases key : e.localName = "KeyDescriptor"
  · exact harmless_key key
  by_cases collects : e.localName ∈ collected
  · exact harmless_collected collects
  · -- nothing is done at the end tag, nor at the start tag but what an empty-element tag does
    have only : s.HarmlessTag e := ⟨fun h => absurd h entity, fun h => absurd h role,
      fun h => absurd h key, fun h => absurd h collects⟩
    refine iff_of_true only ⟨s.onEmpty e, ?_, Same.refl _⟩
    rw [turn_end, if_neg (fun h => entity h.1)]
    simp only [collected, List.mem_cons, List.not_mem_nil, or_false, not_or] at collects
    obtain ⟨cert, format, display, name⟩ := collects
    simp [onStart, onEmpty, onEnd, entity, role, key, cert, format, display, name]

/-- A place is harmless for character data exactly when reading it as text changes no variable that a
section leaves. -/
theorem harmlessText_iff (text : String) : s.HarmlessText text ↔
    ∃ s₂, s.turn (.text (.ok text)) = some s₂ ∧ Same s s₂ := by
  by_cases collects : s.capture.isSome
  · have read : s.turn (.text (.ok text)) = some { s with textBuf := s.textBuf ++ text } := by
      simp [turn, SpMetadata.onText, collects]
    constructor
    · rintro (none | rfl)
      · simp [none] at collects
      · exact ⟨s, by rw [read, String.append_empty], .refl s⟩
    · rintro ⟨s₂, goes, same⟩
      rw [read] at goes
      obtain rfl := Option.some.inj goes
      have equal : s.textBuf ++ text = s.textBuf := same.collected collects
      exact .inr (by simpa using congrArg String.length equal)
  · have none : s.capture = none := by simpa using collects
    exact ⟨fun _ => ⟨s, by simp [turn, SpMetadata.onText, none], .refl s⟩, fun _ => .inl none⟩

/-- At harmless places a document can be written either way. -/
theorem Respelled.outcome {d d' : List Event} (h : Respelled s d d') : s.outcome d = s.outcome d' := by
  induction h with
  | nil => rfl
  | same goes _ ih => rw [outcome_turn goes, outcome_turn goes, ih]
  | stopped stops _ => exact outcome_stops stops _ _
  | @oneTag s e d d' harmless _ ih =>
    obtain ⟨s₂, goes, same⟩ := (harmlessTag_iff e).mp harmless
    have starts : s.turn (.start e) = some (s.onStart e) := rfl
    have empty : s.turn (.empty e) = some (s.onEmpty e) := rfl
    rw [outcome_turn starts, outcome_turn goes, outcome_turn empty, ← ih, same.outcome]
  | @twoTags s e d d' harmless _ ih =>
    obtain ⟨s₂, goes, same⟩ := (harmlessTag_iff e).mp harmless
    have starts : s.turn (.start e) = some (s.onStart e) := rfl
    have empty : s.turn (.empty e) = some (s.onEmpty e) := rfl
    rw [outcome_turn starts, outcome_turn goes, outcome_turn empty, ih, same.outcome]
  | @toSection s text d d' harmless _ ih =>
    obtain ⟨s₂, goes, same⟩ := (harmlessText_iff text).mp harmless
    have passes : s.turn (.cdata text) = some s := rfl
    rw [outcome_turn goes, outcome_turn passes, ← ih, same.outcome]
  | @toText s text d d' harmless _ ih =>
    obtain ⟨s₂, goes, same⟩ := (harmlessText_iff text).mp harmless
    have passes : s.turn (.cdata text) = some s := rfl
    rw [outcome_turn goes, outcome_turn passes, ih, same.outcome]

/-! ## Documents that are cut off -/

/-- An event with a name. -/
def Named (name : String) : Event → Prop
  | .start e | .empty e => e.localName = name
  | .endTag n => stripPrefix n = name
  | .text _ | .cdata _ | .other => False

/-- A loop that is at `s` meets an event of some kind. -/
inductive Meets (P : SpMetadata → Event → Prop) : SpMetadata → List Event → Prop where
  | here {s ev d} (met : P s ev) : Meets P s (ev :: d)
  | later {s s' ev d} (goes : s.turn ev = some s') (rest : Meets P s' d) : Meets P s (ev :: d)

/-- A text that cannot be unescaped, where text is collected. -/
def Malformed (s : SpMetadata) (ev : Event) : Prop :=
  s.capture.isSome ∧ ∃ err, ev = .text (.error err)

/-- A consumer service with both its binding and its location, where a role is open. -/
def Consumes (s : SpMetadata) (ev : Event) : Prop :=
  s.inSp = true ∧ ∃ e, (ev = .start e ∨ ev = .empty e) ∧ e.localName = "AssertionConsumerService" ∧
    e.endpoint.isSome

/-- Only a tag consumes. -/
lemma consumes_tag {e : StartTag} {ev : Event} (is_tag : ev = .start e ∨ ev = .empty e) :
    s.Consumes ev ↔
      (e.localName = "AssertionConsumerService" ∧ s.inSp = true) ∧ e.endpoint.isSome := by
  constructor
  · rintro ⟨role, e', same, named, some_endpoint⟩
    have equal : e' = e := by
      rcases is_tag with rfl | rfl <;> rcases same with same | same <;> cases same <;> rfl
    subst equal
    exact ⟨⟨named, role⟩, some_endpoint⟩
  · rintro ⟨⟨named, role⟩, some_endpoint⟩
    exact ⟨role, e, is_tag, named, some_endpoint⟩

lemma not_consumes {ev : Event} (no_tag : ∀ e, ev ≠ .start e ∧ ev ≠ .empty e) : ¬ s.Consumes ev := by
  rintro ⟨-, e, rfl | rfl, -⟩
  · exact (no_tag e).1 rfl
  · exact (no_tag e).2 rfl

/-- What a tag adds to the candidates. -/
lemma pushed_nil {e : StartTag} {ev : Event} (is_tag : ev = .start e ∨ ev = .empty e) :
    (if e.localName = "AssertionConsumerService" ∧ s.inSp then pushSso e s.acsCandidates
      else s.acsCandidates) = [] ↔ s.acsCandidates = [] ∧ ¬ s.Consumes ev := by
  rw [consumes_tag is_tag]
  split_ifs with here
  · rw [pushSso_eq, List.append_eq_nil_iff]
    cases e.endpoint <;> simp [here]
  · simp [here]

/-- The loop goes on after every event within an entity but a malformed text, and remembers the
consumer services. -/
lemma turn_inside {ev : Event} (inside : s.inEntity = true) (other : ¬ Named "EntityDescriptor" ev) :
    (∃ s', s.turn ev = some s' ∧ ¬ s.Malformed ev ∧ s'.inEntity = true ∧ s'.entityId = s.entityId ∧
      (s'.acsCandidates = [] ↔ s.acsCandidates = [] ∧ ¬ s.Consumes ev)) ∨
    s.turn ev = none ∧ s.Malformed ev := by
  cases ev with
  | start e =>
    refine .inl ⟨s.onStart e, rfl, ?_, onStart_inEntity e inside, (onStart_frame inside other).1, ?_⟩
    · rintro ⟨-, err, ⟨⟩⟩
    · rw [(onStart_frame inside other).2.2.2]
      exact pushed_nil (.inl rfl)
  | empty e =>
    refine .inl ⟨s.onEmpty e, rfl, ?_, by rw [onEmpty_inEntity]; exact inside,
      (onEmpty_frame inside other).1, ?_⟩
    · rintro ⟨-, err, ⟨⟩⟩
    · rw [(onEmpty_frame inside other).2.2.2]
      exact pushed_nil (.inr rfl)
  | text t =>
    have idle : ¬ s.Consumes (.text t) := not_consumes fun e => ⟨nofun, nofun⟩
    by_cases collects : s.capture.isSome
    · cases t with
      | error err => exact .inr ⟨by simp [turn, SpMetadata.onText, collects], collects, err, rfl⟩
      | ok decoded =>
        refine .inl ⟨{ s with textBuf := s.textBuf ++ decoded },
          by simp [turn, SpMetadata.onText, collects], ?_, inside, rfl, by simp [idle]⟩
        rintro ⟨-, err, ⟨⟩⟩
    · exact .inl ⟨s, by simp [turn, SpMetadata.onText, collects], fun h => collects h.1, inside, rfl,
        by simp [idle]⟩
  | endTag name =>
    have idle : ¬ s.Consumes (.endTag name) := not_consumes fun e => ⟨nofun, nofun⟩
    obtain ⟨id, still, -, -, acs, -, -⟩ := s.onEnd_frame (stripPrefix name)
    refine .inl ⟨s.onEnd (stripPrefix name), ?_, ?_, by rw [still]; exact inside, id, ?_⟩
    · rw [turn, if_neg (fun h => other h.1)]
    · rintro ⟨-, err, ⟨⟩⟩
    · rw [acs]
      simp [idle]
  | cdata t =>
    have idle : ¬ s.Consumes (.cdata t) := not_consumes fun e => ⟨nofun, nofun⟩
    refine .inl ⟨s, rfl, ?_, inside, rfl, by simp [idle]⟩
    rintro ⟨-, err, ⟨⟩⟩
  | other =>
    have idle : ¬ s.Consumes .other := not_consumes fun e => ⟨nofun, nofun⟩
    refine .inl ⟨s, rfl, ?_, inside, rfl, by simp [idle]⟩
    rintro ⟨-, err, ⟨⟩⟩

lemma Meets.cons_iff {P : SpMetadata → Event → Prop} {s' : SpMetadata} {ev : Event} {d : List Event}
    (goes : s.turn ev = some s') : Meets P s (ev :: d) ↔ P s ev ∨ Meets P s' d := by
  constructor
  · rintro (met | ⟨goes', rest⟩)
    · exact .inl met
    · rw [goes] at goes'
      obtain rfl := Option.some.inj goes'
      exact .inr rest
  · rintro (met | rest)
    · exact .here met
    · exact .later goes rest

lemma pickAcsUrl_none (candidates : List (String × String)) :
    pickAcsUrl candidates = none ↔ candidates = [] := by
  rw [pickAcsUrl_eq]
  constructor
  · intro h
    simp only [Option.map_eq_none_iff, Option.or_eq_none_iff, List.head?_eq_none_iff] at h
    exact h.2.2
  · rintro rfl
    rfl

/-- What is found within an entity is not imported where something is missing. -/
lemma imported_error : (∃ err, s.imported = .error err) ↔
    (∀ id, s.entityId = some id → trimWhitespace id = "") ∨ s.acsCandidates = [] := by
  rw [← pickAcsUrl_none]
  unfold imported
  constructor
  · rintro ⟨err, fails⟩
    split at fails
    case h_1 blank =>
      refine .inl fun id held => ?_
      by_contra named
      simp [held, named] at blank
    case h_2 =>
      split at fails
      case h_1 none => exact .inr none
      case h_2 => cases fails
  · rintro (blank | none)
    · have missing : (s.entityId.filter fun id => trimWhitespace id ≠ "") = Option.none := by
        rw [Option.filter_eq_none_iff]
        intro id held
        simp [blank id held]
      rw [missing]
      exact ⟨_, rfl⟩
    · rw [none]
      split
      · exact ⟨_, rfl⟩
      · exact ⟨_, rfl⟩

/-- Within an entity that is not closed the import fails for what is missing up to the end. -/
lemma outcome_inside {d : List Event} (inside : s.inEntity = true)
    (other : ∀ ev ∈ d, ¬ Named "EntityDescriptor" ev) : (∃ err, s.outcome d = .error err) ↔
      (∀ id, s.entityId = some id → trimWhitespace id = "") ∨ Meets Malformed s d ∨
        s.acsCandidates = [] ∧ ¬ Meets Consumes s d := by
  induction d generalizing s with
  | nil =>
    have none : ∀ P, ¬ Meets P s [] := by
      rintro P ⟨⟩
    simp only [none, not_false_eq_true, and_true, false_or]
    exact imported_error
  | cons ev d ih =>
    rcases turn_inside inside (other ev List.mem_cons_self) with
      ⟨s', goes, formed, still, id, acs⟩ | ⟨stops, malformed⟩
    · rw [outcome_turn goes, ih still fun ev mem => other ev (List.mem_cons_of_mem _ mem), id, acs,
        Meets.cons_iff goes, Meets.cons_iff goes]
      simp only [formed, false_or, not_or, and_assoc]
    · have fails : ∃ err, s.outcome (ev :: d) = .error err := by
        obtain ⟨collects, err, rfl⟩ := malformed
        refine ⟨.invalidValue ("invalid SAML metadata text: " ++ err), ?_⟩
        unfold SpMetadata.outcome
        rw [List.map_cons, loop]
        simp [SpMetadata.onText, collects]
      exact iff_of_true fails (.inr (.inl (.here malformed)))

/-- Nothing is remembered of what is before the entity. -/
lemma outcome_before {before d : List Event} (other : ∀ ev ∈ before, ¬ Named "EntityDescriptor" ev) :
    outcome {} (before ++ d) = outcome {} d := by
  induction before with
  | nil => rfl
  | cons ev before ih =>
    have idle : ({} : SpMetadata).turn ev = some {} := by
      have named := other ev List.mem_cons_self
      cases ev with
      | start e => simp [turn, onStart_outside, show e.localName ≠ "EntityDescriptor" from named]
      | empty e => simp [turn, onEmpty_outside, show e.localName ≠ "EntityDescriptor" from named]
      | text t => rfl
      | endTag name => simp [turn, onEnd_idle]
      | cdata t => rfl
      | other => rfl
    rw [List.cons_append, outcome_turn idle]
    exact ih fun ev mem => other ev (List.mem_cons_of_mem _ mem)

/-- A document that is cut off within its entity is rejected exactly when the entity has no
identifier, a text that is collected is malformed or no consumer service is read in a role. -/
theorem cut_rejected {before inside : List Event} {tag : StartTag}
    (entity : tag.localName = "EntityDescriptor")
    (first : ∀ ev ∈ before, ¬ Named "EntityDescriptor" ev)
    (cut : ∀ ev ∈ inside, ¬ Named "EntityDescriptor" ev) :
    (∃ err, parseSpMetadata ((before ++ .start tag :: inside).map .ok) = .error err) ↔
      (∀ id, tag.attributeOf "entityID" = some id → trimWhitespace id = "") ∨
        Meets Malformed (atEntity tag) inside ∨ ¬ Meets Consumes (atEntity tag) inside := by
  have starts : ({} : SpMetadata).turn (.start tag) = some (atEntity tag) := by
    simp [turn, onStart, entity, atEntity]
  rw [parse_outcome, outcome_before first, outcome_turn starts, outcome_inside rfl cut]
  simp [atEntity]

end SpMetadata

open SpMetadata in
/-- Written otherwise at harmless places, metadata is imported alike; a place is harmless exactly when
both ways of writing leave the loop with the same variables; and metadata that is cut off is rejected
exactly when something is missing up to the cut. -/
theorem written_otherwise (d d' : List Event) (s : SpMetadata) (e : StartTag) (text : String)
    (before inside : List Event) (tag : StartTag) :
    (Respelled {} d d' → parseSpMetadata (d.map .ok) = parseSpMetadata (d'.map .ok)) ∧
    (HarmlessTag s e ↔
      ∃ s₂, (s.onStart e).turn (.endTag e.name) = some s₂ ∧ Same (s.onEmpty e) s₂) ∧
    (HarmlessText s text ↔ ∃ s₂, s.turn (.text (.ok text)) = some s₂ ∧ Same s s₂) ∧
    (tag.localName = "EntityDescriptor" →
      (∀ ev ∈ before, ¬ Named "EntityDescriptor" ev) → (∀ ev ∈ inside, ¬ Named "EntityDescriptor" ev) →
      ((∃ err, parseSpMetadata ((before ++ .start tag :: inside).map .ok) = .error err) ↔
        (∀ id, tag.attributeOf "entityID" = some id → trimWhitespace id = "") ∨
          Meets Malformed (atEntity tag) inside ∨ ¬ Meets Consumes (atEntity tag) inside)) :=
  ⟨fun h => h.outcome, harmlessTag_iff e, harmlessText_iff text,
    fun entity first cut => cut_rejected entity first cut⟩

namespace Sample

/-- The start tag of an entity. -/
def entityTag : StartTag := tagWith "md:EntityDescriptor" [("entityID", "urn:sp")]

/-- The tag of a consumer service. -/
def consumerTag : StartTag := tagWith "md:AssertionConsumerService"
  [("Binding", bindingHttpPost), ("Location", "https://sp/post")]

/-- The start of the metadata of a service provider, up to a consumer service. -/
def cutMetadata (key : List Event) : List Event :=
  [.start entityTag, .start (plainTag "md:SPSSODescriptor")] ++ key ++ [.empty consumerTag]

/-- The metadata of a service provider. -/
def wholeMetadata (key : List Event) : List Event :=
  cutMetadata key ++ [.endTag "md:SPSSODescriptor", .endTag "md:EntityDescriptor"]

/-- A certificate. -/
def certificateEvents (text : Event) : List Event :=
  [.start (plainTag "ds:X509Certificate"), text, .endTag "ds:X509Certificate"]

/-- The tag of a key descriptor for signing. -/
def signingKey : StartTag := tagWith "md:KeyDescriptor" [("use", "signing")]

/-- A key descriptor for signing that is empty, a certificate outside any, and one for signing. -/
def emptyKey (key : List Event) : List Event :=
  key ++ certificateEvents (.text (.ok "OTHER")) ++ [.start signingKey] ++
    certificateEvents (.text (.ok "SIGN")) ++ [.endTag signingKey.name]

/-- What is imported of it, with a certificate. -/
def importedWith (certificate : String) : ImportedSpMetadata :=
  { entityId := "urn:sp", acsUrl := "https://sp/post", x509Certificate := certificate
    nameIdFormat := none, displayName := none }

end Sample

open SpMetadata in
/-- A consumer service is imported alike with one tag and with two. -/
theorem written_otherwise_sample :
    parseSpMetadata ([.start Sample.entityTag, .start (Sample.plainTag "md:SPSSODescriptor"),
      .start Sample.consumerTag, .endTag Sample.consumerTag.name, .endTag "md:SPSSODescriptor",
      .endTag "md:EntityDescriptor"].map .ok) =
    parseSpMetadata ([.start Sample.entityTag, .start (Sample.plainTag "md:SPSSODescriptor"),
      .empty Sample.consumerTag, .endTag "md:SPSSODescriptor", .endTag "md:EntityDescriptor"].map .ok) := by
  refine (written_otherwise _ _ {} Sample.consumerTag "" [] [] Sample.entityTag).1
    (.same rfl (.same rfl (.oneTag ?_ (.same rfl (.stopped ?_ .nil)))))
  · exact ⟨fun h => absurd h (by decide +kernel), fun h => absurd h (by decide +kernel),
      fun h => absurd h (by decide +kernel), fun h => absurd h (by decide +kernel)⟩
  · rfl

open SpMetadata in
/-- An empty key descriptor for signing lends its use to the next certificate only when it has one tag,
a certificate in a section of character data is not read, and metadata that is cut off before the role
and the entity end is imported. -/
theorem written_otherwise_differs :
    (∃ d d', Alike d d' ∧ parseSpMetadata (d.map .ok) = .ok (Sample.importedWith "SIGN") ∧
      parseSpMetadata (d'.map .ok) = .ok (Sample.importedWith "OTHER")) ∧
    (∃ d d', Alike d d' ∧ parseSpMetadata (d.map .ok) = .ok (Sample.importedWith "SIGN") ∧
      parseSpMetadata (d'.map .ok) = .ok (Sample.importedWith "")) ∧
    parseSpMetadata ((Sample.cutMetadata []).map .ok) = .ok (Sample.importedWith "") := by
  refine ⟨⟨Sample.wholeMetadata (Sample.emptyKey
      [.start Sample.signingKey, .endTag Sample.signingKey.name]),
    Sample.wholeMetadata (Sample.emptyKey [.empty Sample.signingKey]), ?_, ?_, ?_⟩,
    ⟨Sample.wholeMetadata (Sample.certificateEvents (.text (.ok "SIGN"))),
      Sample.wholeMetadata (Sample.certificateEvents (.cdata "SIGN")), ?_, ?_, ?_⟩, ?_⟩
  · exact .same (.same (.oneTag (.refl _)))
  · decide +kernel
  · decide +kernel
  · exact .same (.same (.same (.toSection (.refl _))))
  · decide +kernel
  · decide +kernel
  · decide +kernel

end IdpMvp
