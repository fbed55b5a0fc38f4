import Mathlib.Tactic.Common
import Mathlib.Data.List.Basic

/-!
# Quoted values and scripts in HTML

How a browser reads the value of a double-quoted attribute, the content of a script element and a string literal in it.
The value and the literal are written with the escapes of the four characters that would end or change them, and are
read back (`readAttribute_attributeText`, `readLiteral_literalText`). The content of a script is not escaped at all: it
is read by states (`ScriptState`), and the element ends where these say.
-/

namespace IdpMvp.Markup

/-! ## The input -/

/-- The input of the reader: line ends are normalised, and a NUL is replaced. -/
def preprocess : List Char → List Char
  | [] => []
  | '\r' :: '\n' :: cs => '\n' :: preprocess cs
  | c :: cs => (if c = '\r' then '\n' else if c = '\u0000' then '\uFFFD' else c) :: preprocess cs

/-- A text that is read as it is. -/
def Clean (cs : List Char) : Prop := '\r' ∉ cs ∧ '\u0000' ∉ cs

instance (cs : List Char) : Decidable (Clean cs) := inferInstanceAs (Decidable (_ ∧ _))

lemma clean_nil : Clean [] := ⟨List.not_mem_nil, List.not_mem_nil⟩

lemma Clean.head {c : Char} {cs : List Char} (clean : Clean (c :: cs)) : c ≠ '\r' ∧ c ≠ '\u0000' :=
  ⟨fun same => clean.1 (same ▸ List.mem_cons_self), fun same => clean.2 (same ▸ List.mem_cons_self)⟩

lemma Clean.tail {c : Char} {cs : List Char} (clean : Clean (c :: cs)) : Clean cs :=
  ⟨fun mem => clean.1 (List.mem_cons_of_mem _ mem), fun mem => clean.2 (List.mem_cons_of_mem _ mem)⟩

lemma Clean.cons {c : Char} {cs : List Char} (clean : Clean cs) (plain : c ≠ '\r' ∧ c ≠ '\u0000') : Clean (c :: cs) :=
  ⟨List.not_mem_cons_of_ne_of_not_mem plain.1.symm clean.1, List.not_mem_cons_of_ne_of_not_mem plain.2.symm clean.2⟩

lemma preprocess_clean (cs : List Char) : Clean (preprocess cs) := by
  induction cs using preprocess.induct with
  | case1 => exact ⟨List.not_mem_nil, List.not_mem_nil⟩
  | case2 cs ih =>
    rw [preprocess]
    exact ⟨List.not_mem_cons_of_ne_of_not_mem (by decide) ih.1, List.not_mem_cons_of_ne_of_not_mem (by decide) ih.2⟩
  | case3 c cs crlf ih =>
    rw [preprocess]
    · have kept : ∀ d, d = '\r' ∨ d = '\u0000' →
          d ≠ if c = '\r' then '\n' else if c = '\u0000' then '\uFFFD' else c := by
        rintro d (rfl | rfl)
        · split_ifs with cr nul
          · decide
          · decide
          · exact Ne.symm cr
        · split_ifs with cr nul
          · decide
          · decide
          · exact Ne.symm nul
      exact ⟨List.not_mem_cons_of_ne_of_not_mem (kept _ (.inl rfl)) ih.1,
        List.not_mem_cons_of_ne_of_not_mem (kept _ (.inr rfl)) ih.2⟩
    · exact crlf

lemma Clean.preprocess {cs : List Char} (clean : Clean cs) : preprocess cs = cs := by
  induction cs with
  | nil => rfl
  | cons c cs ih =>
    obtain ⟨cr, nul⟩ := clean
    rw [List.mem_cons, not_or] at cr nul
    rw [Markup.preprocess, if_neg (Ne.symm cr.1), if_neg (Ne.symm nul.1), ih ⟨cr.2, nul.2⟩]
    rintro ds rfl
    exact absurd rfl cr.1

lemma clean_append {cs ds : List Char} : Clean (cs ++ ds) ↔ Clean cs ∧ Clean ds := by
  simp only [Clean, List.mem_append, not_or]
  tauto

/-! ## Attribute values -/

/-- A character in a double-quoted value. -/
def attributeChar (c : Char) : List Char :=
  if c = '&' then "&amp;".toList
  else if c = '"' then "&quot;".toList
  else if c = '<' then "&lt;".toList
  else if c = '>' then "&gt;".toList
  else [c]

def attributeText (cs : List Char) : List Char := cs.flatMap attributeChar

/-- The value up to the quote that ends it, and what follows the quote. An ampersand that none of these four references
starts with stands for itself. -/
def readAttribute : List Char → Option (List Char × List Char)
  | [] => none
  | '"' :: cs => some ([], cs)
  | '&' :: 'a' :: 'm' :: 'p' :: ';' :: cs => (readAttribute cs).map fun (v, rest) => ('&' :: v, rest)
  | '&' :: 'q' :: 'u' :: 'o' :: 't' :: ';' :: cs => (readAttribute cs).map fun (v, rest) => ('"' :: v, rest)
  | '&' :: 'l' :: 't' :: ';' :: cs => (readAttribute cs).map fun (v, rest) => ('<' :: v, rest)
  | '&' :: 'g' :: 't' :: ';' :: cs => (readAttribute cs).map fun (v, rest) => ('>' :: v, rest)
  | c :: cs => (readAttribute cs).map fun (v, rest) => (c :: v, rest)

lemma readAttribute_char (c : Char) (cs : List Char) :
    readAttribute (attributeChar c ++ cs) = (readAttribute cs).map fun (v, rest) => (c :: v, rest) := by
  unfold attributeChar
  split_ifs with amp quote lt gt
  · subst amp
    rfl
  · subst quote
    rfl
  · subst lt
    rfl
  · subst gt
    rfl
  · rw [List.singleton_append, readAttribute]
    all_goals simp_all

/-- A value is read back, whatever it is. -/
lemma readAttribute_attributeText (v rest : List Char) :
    readAttribute (attributeText v ++ '"' :: rest) = some (v, rest) := by
  induction v with
  | nil => rfl
  | cons c v ih => rw [attributeText, List.flatMap_cons, List.append_assoc, readAttribute_char, ← attributeText, ih]; rfl

lemma Clean.attributeText {cs : List Char} (clean : Clean cs) : Clean (attributeText cs) := by
  induction cs with
  | nil => exact clean_nil
  | cons c cs ih =>
    have char : Clean (attributeChar c) := by
      unfold attributeChar
      split_ifs
      · decide
      · decide
      · decide
      · decide
      · exact clean_nil.cons clean.head
    exact clean_append.mpr ⟨char, ih clean.tail⟩

lemma readAttribute_map {c : Char} {cs v rest : List Char}
    (read : (readAttribute cs).map (fun (v, rest) => (c :: v, rest)) = some (v, rest)) :
    ∃ w, v = c :: w ∧ readAttribute cs = some (w, rest) := by
  obtain ⟨⟨w, rest'⟩, found, same⟩ := Option.map_eq_some_iff.mp read
  obtain ⟨rfl, rfl⟩ := Prod.mk.inj same
  exact ⟨w, rfl, found⟩

/-- From a text that is read as it is comes a value that would be. -/
lemma readAttribute_clean {cs v rest : List Char} (clean : Clean cs) (read : readAttribute cs = some (v, rest)) :
    Clean v ∧ Clean rest := by
  induction cs using readAttribute.induct generalizing v rest with
  | case1 => cases read
  | case2 cs =>
    cases read
    exact ⟨clean_nil, clean.tail⟩
  | case3 cs ih =>
    obtain ⟨w, rfl, found⟩ := readAttribute_map read
    obtain ⟨value, left⟩ := ih clean.tail.tail.tail.tail.tail found
    exact ⟨value.cons (by decide), left⟩
  | case4 cs ih =>
    obtain ⟨w, rfl, found⟩ := readAttribute_map read
    obtain ⟨value, left⟩ := ih clean.tail.tail.tail.tail.tail.tail found
    exact ⟨value.cons (by decide), left⟩
  | case5 cs ih =>
    obtain ⟨w, rfl, found⟩ := readAttribute_map read
    obtain ⟨value, left⟩ := ih clean.tail.tail.tail.tail found
    exact ⟨value.cons (by decide), left⟩
  | case6 cs ih =>
    obtain ⟨w, rfl, found⟩ := readAttribute_map read
    obtain ⟨value, left⟩ := ih clean.tail.tail.tail.tail found
    exact ⟨value.cons (by decide), left⟩
  | case7 c cs quote amp quot lt gt ih =>
    rw [readAttribute] at read
    · obtain ⟨w, rfl, found⟩ := readAttribute_map read
      obtain ⟨value, left⟩ := ih clean.tail found
      exact ⟨value.cons clean.head, left⟩
    · exact quote
    · exact amp
    · exact quot
    · exact lt
    · exact gt

/-! ## String literals -/

/-- A character in a literal between single quotes. -/
def literalChar (c : Char) : List Char :=
  if c = '\\' then ['\\', '\\']
  else if c = '\'' then ['\\', '\'']
  else if c = '\n' then ['\\', 'n']
  else if c = '\r' then ['\\', 'r']
  else [c]

def literalText (cs : List Char) : List Char := cs.flatMap literalChar

/-- The string of a literal up to the quote that ends it, and what follows the quote; other escapes than these four are
not read. -/
def readLiteral : List Char → Option (List Char × List Char)
  | [] => none
  | '\'' :: cs => some ([], cs)
  | '\\' :: '\\' :: cs => (readLiteral cs).map fun (v, rest) => ('\\' :: v, rest)
  | '\\' :: '\'' :: cs => (readLiteral cs).map fun (v, rest) => ('\'' :: v, rest)
  | '\\' :: 'n' :: cs => (readLiteral cs).map fun (v, rest) => ('\n' :: v, rest)
  | '\\' :: 'r' :: cs => (readLiteral cs).map fun (v, rest) => ('\r' :: v, rest)
  | c :: cs =>
    if c = '\\' ∨ c = '\n' ∨ c = '\r' then none else (readLiteral cs).map fun (v, rest) => (c :: v, rest)

lemma readLiteral_char (c : Char) (cs : List Char) :
    readLiteral (literalChar c ++ cs) = (readLiteral cs).map fun (v, rest) => (c :: v, rest) := by
  unfold literalChar
  split_ifs with backslash quote lf cr
  · subst backslash
    rfl
  · subst quote
    rfl
  · subst lf
    rfl
  · subst cr
    rfl
  · rw [List.singleton_append, readLiteral]
    · rw [if_neg]
      rintro (same | same | same)
      · exact backslash same
      · exact lf same
      · exact cr same
    all_goals simp_all

/-- A string is read back, whatever it is. -/
lemma readLiteral_literalText (v rest : List Char) :
    readLiteral (literalText v ++ '\'' :: rest) = some (v, rest) := by
  induction v with
  | nil => rfl
  | cons c v ih => rw [literalText, List.flatMap_cons, List.append_assoc, readLiteral_char, ← literalText, ih]; rfl

/-- A literal has no line end, and a NUL only if the string has one. -/
lemma clean_literalText {cs : List Char} : Clean (literalText cs) ↔ '\u0000' ∉ cs := by
  induction cs with
  | nil => exact iff_of_true clean_nil List.not_mem_nil
  | cons c cs ih =>
    have char : Clean (literalChar c) ↔ '\u0000' ≠ c := by
      unfold literalChar
      split_ifs with backslash quote lf cr
      · subst backslash
        decide
      · subst quote
        decide
      · subst lf
        decide
      · subst cr
        decide
      · simp [Clean, Ne.symm cr]
    rw [literalText, List.flatMap_cons, clean_append, char, ← literalText, ih, List.mem_cons, not_or]

lemma readLiteral_map {c : Char} {cs v rest : List Char}
    (read : (readLiteral cs).map (fun (v, rest) => (c :: v, rest)) = some (v, rest)) :
    ∃ w, v = c :: w ∧ readLiteral cs = some (w, rest) := by
  obtain ⟨⟨w, rest'⟩, found, same⟩ := Option.map_eq_some_iff.mp read
  obtain ⟨rfl, rfl⟩ := Prod.mk.inj same
  exact ⟨w, rfl, found⟩

lemma literalText_cons (c : Char) (v rest : List Char) :
    literalText (c :: v) ++ rest = literalChar c ++ (literalText v ++ rest) := by
  rw [literalText, List.flatMap_cons, List.append_assoc, ← literalText]

/-- And only from its text. -/
lemma readLiteral_some {cs v rest : List Char} (read : readLiteral cs = some (v, rest)) :
    cs = literalText v ++ '\'' :: rest := by
  induction cs using readLiteral.induct generalizing v rest with
  | case1 => cases read
  | case2 cs =>
    cases read
    rfl
  | case3 cs ih =>
    obtain ⟨w, rfl, found⟩ := readLiteral_map read
    rw [literalText_cons, ← ih found]
    rfl
  | case4 cs ih =>
    obtain ⟨w, rfl, found⟩ := readLiteral_map read
    rw [literalText_cons, ← ih found]
    rfl
  | case5 cs ih =>
    obtain ⟨w, rfl, found⟩ := readLiteral_map read
    rw [literalText_cons, ← ih found]
    rfl
  | case6 cs ih =>
    obtain ⟨w, rfl, found⟩ := readLiteral_map read
    rw [literalText_cons, ← ih found]
    rfl
  | case7 c cs quote backslash single lf cr special =>
    rw [readLiteral, if_pos special] at read
    · cases read
    · exact quote
    · exact backslash
    · exact single
    · exact lf
    · exact cr
  | case8 c cs quote backslash single lf cr plain ih =>
    rw [readLiteral, if_neg plain] at read
    · obtain ⟨w, rfl, found⟩ := readLiteral_map read
      rw [not_or, not_or] at plain
      have same : literalChar c = [c] := by
        rw [literalChar, if_neg plain.1, if_neg quote, if_neg plain.2.1, if_neg plain.2.2]
      rw [literalText_cons, ← ih found, same]
      rfl
    · exact quote
    · exact backslash
    · exact single
    · exact lf
    · exact cr

/-! ## Scripts -/

/-- Where the reader of a script is: in plain script data, in an escaped part that `<!--` starts, or in a double-escaped
part that `<script` starts in it. What was read of a tag is remembered, and of dashes how many there were, up to two. -/
inductive ScriptState where
  | data
  | dataLess
  | dataEnd (read : Nat)
  | dataBang
  | dataDash
  | escaped (dashes : Nat)
  | escapedLess
  | escapedEnd (read : Nat)
  | escapedStart (read : Nat)
  | double (dashes : Nat)
  | doubleLess
  | doubleEnd (read : Nat)
  | closed
  deriving DecidableEq, Repr

namespace ScriptState

/-- The next letter of the tag name, in either case. -/
def continues (read : Nat) (c : Char) : Bool := "script".toList[read]? = some c.toLower

/-- The tag name is complete, and a character that ends it follows. -/
def ends (read : Nat) (c : Char) : Bool := read = 6 && ['\t', '\n', '\u000C', ' ', '/', '>'].contains c

def fromData (c : Char) : ScriptState := if c = '<' then dataLess else data

def fromEscaped (dashes : Nat) (c : Char) : ScriptState :=
  if c = '-' then escaped (min 2 (dashes + 1))
  else if c = '<' then escapedLess
  else if c = '>' && dashes = 2 then data
  else escaped 0

def fromDouble (dashes : Nat) (c : Char) : ScriptState :=
  if c = '-' then double (min 2 (dashes + 1))
  else if c = '<' then doubleLess
  else if c = '>' && dashes = 2 then data
  else double 0

/-- Reads a character. A tag that does not go on is left, and the character read as one of the part it is in. -/
def step : ScriptState → Char → ScriptState
  | data, c => fromData c
  | dataLess, c => if c = '/' then dataEnd 0 else if c = '!' then dataBang else fromData c
  | dataEnd n, c => if continues n c then dataEnd (n + 1) else if ends n c then closed else fromData c
  | dataBang, c => if c = '-' then dataDash else fromData c
  | dataDash, c => if c = '-' then escaped 2 else fromData c
  | escaped d, c => fromEscaped d c
  | escapedLess, c =>
    if c = '/' then escapedEnd 0 else if continues 0 c then escapedStart 1 else fromEscaped 0 c
  | escapedEnd n, c => if continues n c then escapedEnd (n + 1) else if ends n c then closed else fromEscaped 0 c
  | escapedStart n, c => if continues n c then escapedStart (n + 1) else if ends n c then double 0 else fromEscaped 0 c
  | double d, c => fromDouble d c
  | doubleLess, c => if c = '/' then doubleEnd 0 else fromDouble 0 c
  | doubleEnd n, c => if continues n c then doubleEnd (n + 1) else if ends n c then escaped 0 else fromDouble 0 c
  | closed, _ => closed

def run (σ : ScriptState) (cs : List Char) : ScriptState := cs.foldl step σ

@[simp] lemma run_nil (σ : ScriptState) : σ.run [] = σ := rfl

@[simp] lemma run_cons (σ : ScriptState) (c : Char) (cs : List Char) : σ.run (c :: cs) = (σ.step c).run cs := rfl

lemma run_append (σ : ScriptState) (cs ds : List Char) : σ.run (cs ++ ds) = (σ.run cs).run ds := List.foldl_append

@[simp] lemma run_closed (cs : List Char) : closed.run cs = closed := by
  induction cs with
  | nil => rfl
  | cons c cs ih => exact ih

/-- The state after a character that means nothing. -/
def settle : ScriptState → ScriptState
  | data | dataLess | dataEnd _ | dataBang | dataDash => data
  | escaped _ | escapedLess | escapedEnd _ | escapedStart _ => escaped 0
  | double _ | doubleLess | doubleEnd _ => double 0
  | closed => closed

/-- A character that means nothing anywhere. -/
def Inert (c : Char) : Prop :=
  (∀ n, continues n c = false) ∧ (∀ n, ends n c = false) ∧ c ≠ '<' ∧ c ≠ '-' ∧ c ≠ '>' ∧ c ≠ '/' ∧ c ≠ '!'

lemma step_inert (σ : ScriptState) {c : Char} (inert : Inert c) : σ.step c = σ.settle := by
  obtain ⟨continues, ends, less, dash, greater, slash, bang⟩ := inert
  cases σ <;> simp [step, settle, fromData, fromEscaped, fromDouble, continues, ends, less, dash, greater, slash, bang]

/-- The states in which nothing of a tag or a dash has been read. -/
def Settled (σ : ScriptState) : Prop := σ = data ∨ σ = escaped 0 ∨ σ = double 0 ∨ σ = closed

lemma settle_settled (σ : ScriptState) : σ.settle.Settled := by
  cases σ <;> simp [settle, Settled]

/-- A text without tags and dashes changes nothing. -/
lemma Settled.run_eq {σ : ScriptState} (settled : σ.Settled) {cs : List Char} (less : '<' ∉ cs) (dash : '-' ∉ cs) :
    σ.run cs = σ := by
  induction cs with
  | nil => rfl
  | cons c cs ih =>
    rw [List.mem_cons, not_or] at less dash
    have stays : σ.step c = σ := by
      rcases settled with rfl | rfl | rfl | rfl <;>
        simp [step, fromData, fromEscaped, fromDouble, Ne.symm less.1, Ne.symm dash.1]
    rw [run_cons, stays, ih less.2 dash.2]

end ScriptState

/-- The content of a script element up to its end tag, and what follows the name in that: `read` is the content read so
far, the last character first. -/
def readScript (σ : ScriptState) (read : List Char) : List Char → Option (List Char × List Char)
  | [] => none
  | c :: cs =>
    if σ.step c = .closed then some ((read.drop 8).reverse, c :: cs) else readScript (σ.step c) (c :: read) cs

/-- The content and what follows it were there. -/
lemma readScript_clean {σ : ScriptState} {read cs content rest : List Char} (clean : Clean cs) (before : Clean read)
    (found : readScript σ read cs = some (content, rest)) : Clean content ∧ Clean rest := by
  induction cs generalizing σ read with
  | nil => cases found
  | cons c cs ih =>
    rw [readScript] at found
    split_ifs at found with closed
    · cases found
      refine ⟨⟨fun mem => before.1 ?_, fun mem => before.2 ?_⟩, clean⟩
      · exact List.mem_of_mem_drop (List.mem_reverse.mp mem)
      · exact List.mem_of_mem_drop (List.mem_reverse.mp mem)
    · exact ih clean.tail (before.cons clean.head) found

/-- What does not end the element is read. -/
lemma readScript_append {σ : ScriptState} {read cs ds : List Char} (goes : σ.run cs ≠ .closed) :
    readScript σ read (cs ++ ds) = readScript (σ.run cs) (cs.reverse ++ read) ds := by
  induction cs generalizing σ read with
  | nil => rfl
  | cons c cs ih =>
    have on : σ.step c ≠ .closed := by
      intro closed
      rw [ScriptState.run_cons, closed, ScriptState.run_closed] at goes
      exact goes rfl
    rw [List.cons_append, readScript, if_neg on, ih goes, ScriptState.run_cons, List.reverse_cons, List.append_assoc,
      List.singleton_append]

/-- An element that ends within some text has content that is shorter than what was read with it. -/
lemma readScript_short {σ : ScriptState} {read cs ds content rest : List Char} (closes : σ.run cs = .closed)
    (open_ : σ ≠ .closed) (found : readScript σ read (cs ++ ds) = some (content, rest)) :
    content.length < read.length + cs.length := by
  induction cs generalizing σ read with
  | nil => exact absurd closes open_
  | cons c cs ih =>
    rw [List.cons_append, readScript] at found
    split_ifs at found with closed
    · cases found
      simp only [List.length_reverse, List.length_drop, List.length_cons]
      omega
    · have shorter := ih closes closed found
      simp only [List.length_cons] at shorter ⊢
      omega

/-- An element that never ends is not read. -/
lemma readScript_none {σ : ScriptState} {read cs : List Char} (goes : σ.run cs ≠ .closed) :
    readScript σ read cs = none := by
  have whole : readScript σ read (cs ++ []) = readScript (σ.run cs) (cs.reverse ++ read) [] := readScript_append goes
  rw [List.append_nil] at whole
  rw [whole]
  rfl

end IdpMvp.Markup
