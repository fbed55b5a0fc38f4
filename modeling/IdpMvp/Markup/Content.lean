import Mathlib.Tactic.Common
import Mathlib.Data.List.Basic

/-!
# Documents as events

A reader of markup delivers a document as a flat stream of events. Content is the same as a tree: its
events are the well-nested streams. The elements of some content are listed in the order of their
start tags, each with the tags that are open around it, innermost first.
-/

namespace IdpMvp.Markup

/-- An attribute, with its value unescaped or what was wrong in it. -/
structure Attribute where
  key : String
  value : Except String String

/-- A start tag or an empty-element tag. An attribute that cannot be read is an error among the
others. -/
structure StartTag where
  name : String
  attributes : List (Except String Attribute)

/-- What a reader delivers; `other` is a comment, a declaration or an instruction. -/
inductive Event where
  | start (tag : StartTag)
  | empty (tag : StartTag)
  | text (unescaped : Except String String)
  | cdata (content : String)
  | endTag (name : String)
  | other

/-- A name without its prefix. -/
def stripPrefix (name : String) : String :=
  match name.toList.dropWhile (· ≠ ':') with
  | [] => name
  | _ :: rest => String.ofList rest

namespace StartTag

/-- The name of the element without its prefix. -/
def localName (tag : StartTag) : String := stripPrefix tag.name

/-- The value of the first attribute of a name that can be read. -/
def attributeOf (tag : StartTag) (name : String) : Option String :=
  tag.attributes.findSome? fun
    | .ok ⟨key, .ok value⟩ => if stripPrefix key = name then some value else none
    | _ => none

end StartTag

/-- Well-nested content: siblings one after another, each element with its content. -/
inductive Content where
  | nil
  | element (tag : StartTag) (inside rest : Content)
  | empty (tag : StartTag) (rest : Content)
  | text (unescaped : Except String String) (rest : Content)
  | cdata (content : String) (rest : Content)
  | other (rest : Content)

/-- An element where it stands. -/
structure Element where
  tag : StartTag
  /-- The tags open around it, innermost first. -/
  around : List StartTag
  inside : Content

namespace Content

/-- The events of some content. -/
def events : Content → List Event
  | nil => []
  | element tag inside rest => .start tag :: (inside.events ++ .endTag tag.name :: rest.events)
  | empty tag rest => .empty tag :: rest.events
  | text t rest => .text t :: rest.events
  | cdata c rest => .cdata c :: rest.events
  | other rest => .other :: rest.events

/-- Its text, sections of character data aside. -/
def characters : Content → String
  | nil => ""
  | element _ inside rest => inside.characters ++ rest.characters
  | text (.ok t) rest => t ++ rest.characters
  | empty _ rest | text (.error _) rest | cdata _ rest | other rest => rest.characters

/-- Its elements, given the tags open around it. -/
def elements (around : List StartTag) : Content → List Element
  | nil => []
  | element tag inside rest =>
    ⟨tag, around, inside⟩ :: (inside.elements (tag :: around) ++ rest.elements around)
  | empty tag rest => ⟨tag, around, nil⟩ :: rest.elements around
  | text _ rest | cdata _ rest | other rest => rest.elements around

/-- Whether a tag of a name occurs in it. -/
def mentions (name : String) : Content → Prop
  | nil => False
  | element tag inside rest => tag.localName = name ∨ inside.mentions name ∨ rest.mentions name
  | empty tag rest => tag.localName = name ∨ rest.mentions name
  | text _ rest | cdata _ rest | other rest => rest.mentions name

/-- No element of a name is within another of it. -/
def NotInItself (name : String) : Content → Prop
  | nil => True
  | element tag inside rest =>
    (tag.localName = name → ¬ inside.mentions name) ∧ inside.NotInItself name ∧ rest.NotInItself name
  | empty _ rest | text _ rest | cdata _ rest | other rest => rest.NotInItself name

/-- Whether an element of one of some names is in it that is more than an empty-element tag. -/
def opens (names : List String) : Content → Prop
  | nil => False
  | element tag inside rest => tag.localName ∈ names ∨ inside.opens names ∨ rest.opens names
  | empty _ rest | text _ rest | cdata _ rest | other rest => rest.opens names

/-- Its empty-element tags. -/
def emptyTags : Content → List StartTag
  | nil => []
  | element _ inside rest => inside.emptyTags ++ rest.emptyTags
  | empty tag rest => tag :: rest.emptyTags
  | text _ rest | cdata _ rest | other rest => rest.emptyTags

instance decidableMentions (name : String) : (c : Content) → Decidable (c.mentions name)
  | nil => isFalse id
  | element tag inside rest =>
    have := decidableMentions name inside
    have := decidableMentions name rest
    inferInstanceAs (Decidable (tag.localName = name ∨ inside.mentions name ∨ rest.mentions name))
  | empty tag rest =>
    have := decidableMentions name rest
    inferInstanceAs (Decidable (tag.localName = name ∨ rest.mentions name))
  | text _ rest | cdata _ rest | other rest => decidableMentions name rest

instance decidableNotInItself (name : String) : (c : Content) → Decidable (c.NotInItself name)
  | nil => isTrue trivial
  | element tag inside rest =>
    have := decidableNotInItself name inside
    have := decidableNotInItself name rest
    inferInstanceAs (Decidable ((tag.localName = name → ¬ inside.mentions name) ∧
      inside.NotInItself name ∧ rest.NotInItself name))
  | empty _ rest | text _ rest | cdata _ rest | other rest => decidableNotInItself name rest

/-- The first element of a name that has an end tag of its own, with its content. -/
def firstElement (name : String) : Content → Option (StartTag × Content)
  | nil => none
  | element tag inside rest =>
    if tag.localName = name then some (tag, inside)
    else (inside.firstElement name).or (rest.firstElement name)
  | empty _ rest | text _ rest | cdata _ rest | other rest => rest.firstElement name

/-- Content within open tags in which no element of some names is within another of its name. -/
def Apart (names : List String) (around : List StartTag) (c : Content) : Prop :=
  ∀ n ∈ names, c.NotInItself n ∧ ((∃ t ∈ around, t.localName = n) → ¬ c.mentions n)

lemma firstElement_spec {name : String} {c : Content} {tag : StartTag} {inside : Content}
    (first : c.firstElement name = some (tag, inside)) :
    tag.localName = name ∧ ∀ n, c.NotInItself n → inside.NotInItself n := by
  induction c with
  | nil => cases first
  | element tag' inside' rest ih_inside ih_rest =>
    rw [firstElement] at first
    split_ifs at first with named
    · obtain ⟨rfl, rfl⟩ := Prod.mk.inj (Option.some.inj first)
      exact ⟨named, fun n h => h.2.1⟩
    · rcases Option.or_eq_some_iff.mp first with first | ⟨-, first⟩
      · exact ⟨(ih_inside first).1, fun n h => (ih_inside first).2 n h.2.1⟩
      · exact ⟨(ih_rest first).1, fun n h => (ih_rest first).2 n h.2.2⟩
  | empty _ rest ih => exact ih first
  | text _ rest ih => exact ih first
  | cdata _ rest ih => exact ih first
  | other rest ih => exact ih first

section Apart

variable {names : List String} {around : List StartTag} {tag : StartTag} {inner later : Content}

lemma Apart.inside (h : (element tag inner later).Apart names around) :
    inner.Apart names (tag :: around) := by
  intro n mem
  obtain ⟨own, above⟩ := h n mem
  refine ⟨own.2.1, ?_⟩
  rintro ⟨t, open_t, rfl⟩
  rcases List.mem_cons.mp open_t with rfl | open_t
  · exact own.1 rfl
  · exact fun found => above ⟨t, open_t, rfl⟩ (.inr (.inl found))

lemma Apart.rest (h : (element tag inner later).Apart names around) : later.Apart names around := by
  intro n mem
  obtain ⟨own, above⟩ := h n mem
  exact ⟨own.2.2, fun open_n found => above open_n (.inr (.inr found))⟩

/-- An element is in none of its name. -/
lemma Apart.outermost (h : (element tag inner later).Apart names around)
    (mem : tag.localName ∈ names) : ∀ t ∈ around, t.localName ≠ tag.localName :=
  fun t open_t same => (h _ mem).2 ⟨t, open_t, same⟩ (.inl rfl)

lemma Apart.empty (h : (empty tag later).Apart names around) : later.Apart names around := by
  intro n mem
  obtain ⟨own, above⟩ := h n mem
  exact ⟨own, fun open_n found => above open_n (.inr found)⟩

lemma Apart.text {t : Except String String} (h : (text t later).Apart names around) :
    later.Apart names around := h

lemma Apart.cdata {t : String} (h : (cdata t later).Apart names around) :
    later.Apart names around := h

lemma Apart.other (h : (other later).Apart names around) : later.Apart names around := h

end Apart

end Content

end IdpMvp.Markup
