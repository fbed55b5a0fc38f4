import Mathlib.Data.List.Basic

/-!
# Percent encoding

Byte strings with `%XX` escapes: a decoder that leaves everything else as it is, an encoder for any set of kept
bytes, and the encoder of form data, which writes a space as a plus sign. The decoder reads back what the first
encoder writes (`percentDecode_percentEncode`), and what the second one writes but for its spaces
(`percentDecode_formEncode`).
-/

namespace IdpMvp.Encoding

/-! ## Bytes -/

/-- The uppercase hexadecimal digit of a nibble. -/
def hexDigit (n : Nat) : UInt8 := UInt8.ofNat (if n < 10 then 48 + n else 55 + n)

/-- The value of a hexadecimal digit of either case. -/
def hexValue (b : UInt8) : Option Nat :=
  if 48 ≤ b.toNat ∧ b.toNat ≤ 57 then some (b.toNat - 48)
  else if 65 ≤ b.toNat ∧ b.toNat ≤ 70 then some (b.toNat - 55)
  else if 97 ≤ b.toNat ∧ b.toNat ≤ 102 then some (b.toNat - 87)
  else none

def isAlphanumeric (b : UInt8) : Bool :=
  (48 ≤ b.toNat && b.toNat ≤ 57) || (65 ≤ b.toNat && b.toNat ≤ 90) || (97 ≤ b.toNat && b.toNat ≤ 122)

/-- `%` and the two digits of a byte. -/
def percentByte (b : UInt8) : List UInt8 := [37, hexDigit (b.toNat / 16), hexDigit (b.toNat % 16)]

def percentEncode (keep : UInt8 → Bool) (bytes : List UInt8) : List UInt8 :=
  bytes.flatMap fun b => if keep b then [b] else percentByte b

/-- The byte of an escape. -/
def escaped (h l : UInt8) : Option UInt8 := do
  let h ← hexValue h
  let l ← hexValue l
  return UInt8.ofNat (h * 16 + l)

/-- A `%` that two hexadecimal digits follow is an escape, every other byte stands for itself. -/
def percentDecode : List UInt8 → List UInt8
  | [] => []
  | [b] => [b]
  | [b, c] => [b, c]
  | b :: h :: l :: rest =>
    match if b = 37 then escaped h l else none with
    | some v => v :: percentDecode rest
    | none => b :: percentDecode (h :: l :: rest)

/-! ## Form data -/

/-- The bytes that form data keeps. -/
def formKeeps (b : UInt8) : Bool := isAlphanumeric b || b ∈ [42, 45, 46, 95]

def formEncode (bytes : List UInt8) : List UInt8 :=
  bytes.flatMap fun b => if b = 32 then [43] else if formKeeps b then [b] else percentByte b

/-- A space as form data writes it. -/
def plusForSpace (b : UInt8) : UInt8 := if b = 32 then 43 else b

/-! ## Decoding what was encoded -/

lemma hexValue_hexDigit (n : Nat) (small : n < 16) : hexValue (hexDigit n) = some n := by
  have all : ∀ n < 16, hexValue (hexDigit n) = some n := by decide
  exact all n small

lemma escaped_digits (b : UInt8) : escaped (hexDigit (b.toNat / 16)) (hexDigit (b.toNat % 16)) = some b := by
  have high : b.toNat / 16 < 16 := by
    have := b.toNat_lt
    omega
  rw [escaped, hexValue_hexDigit _ high, hexValue_hexDigit _ (Nat.mod_lt _ (by decide))]
  change some (UInt8.ofNat (b.toNat / 16 * 16 + b.toNat % 16)) = some b
  rw [Nat.div_add_mod', UInt8.ofNat_toNat]

lemma percentDecode_percentByte (b : UInt8) (rest : List UInt8) :
    percentDecode (percentByte b ++ rest) = b :: percentDecode rest := by
  change percentDecode (37 :: _ :: _ :: rest) = _
  rw [percentDecode, if_pos rfl, escaped_digits]

lemma percentDecode_cons {b : UInt8} (plain : b ≠ 37) (rest : List UInt8) :
    percentDecode (b :: rest) = b :: percentDecode rest := by
  match rest with
  | [] => rfl
  | [_] => rfl
  | h :: l :: rest => rw [percentDecode, if_neg plain]

/-- What is encoded is read back, whatever is kept beside the percent sign. -/
theorem percentDecode_percentEncode {keep : UInt8 → Bool} (sign : keep 37 = false) (bytes rest : List UInt8) :
    percentDecode (percentEncode keep bytes ++ rest) = bytes ++ percentDecode rest := by
  induction bytes with
  | nil => rfl
  | cons b bytes ih =>
    rw [percentEncode, List.flatMap_cons, List.append_assoc, ← percentEncode, List.cons_append, ← ih]
    cases kept : keep b with
    | false => exact percentDecode_percentByte b _
    | true =>
      refine percentDecode_cons ?_ _
      rintro rfl
      rw [sign] at kept
      cases kept

/-- Form data is read back with a plus sign for every space. -/
theorem percentDecode_formEncode (bytes rest : List UInt8) :
    percentDecode (formEncode bytes ++ rest) = bytes.map plusForSpace ++ percentDecode rest := by
  induction bytes with
  | nil => rfl
  | cons b bytes ih =>
    rw [formEncode, List.flatMap_cons, List.append_assoc, ← formEncode, List.map_cons, List.cons_append, ← ih]
    by_cases space : b = 32
    · rw [if_pos space, plusForSpace, if_pos space]
      exact percentDecode_cons (by decide) _
    · rw [if_neg space, plusForSpace, if_neg space]
      cases kept : formKeeps b with
      | false => exact percentDecode_percentByte b _
      | true =>
        refine percentDecode_cons ?_ _
        rintro rfl
        cases kept

lemma map_plusForSpace {bytes : List UInt8} : bytes.map plusForSpace = bytes ↔ 32 ∉ bytes := by
  have fixed : ∀ b : UInt8, plusForSpace b = b ↔ b ≠ 32 := by
    intro b
    unfold plusForSpace
    split_ifs with space
    · exact iff_of_false (space ▸ by decide) (not_not_intro space)
    · exact iff_of_true rfl space
  have pointwise : bytes.map plusForSpace = bytes.map id ↔ ∀ b ∈ bytes, plusForSpace b = b := List.map_inj_left
  rw [List.map_id] at pointwise
  rw [pointwise]
  constructor
  · exact fun all mem => (fixed 32).mp (all 32 mem) rfl
  · rintro absent b mem
    refine (fixed b).mpr ?_
    rintro rfl
    exact absent mem

/-! ## ASCII -/

/-- Bytes as the characters with these codes. -/
def asciiText (bytes : List UInt8) : String := String.ofList (bytes.map fun b => Char.ofNat b.toNat)

/-- The bytes of a text. -/
lemma toUTF8_toList (text : String) : text.toUTF8.data.toList = text.toList.flatMap String.utf8EncodeChar := by
  rw [← String.ofList_toList (s := text), String.toUTF8_eq_toByteArray, String.toByteArray_ofList, List.utf8Encode,
    List.toList_data_toByteArray, String.toList_ofList]

lemma utf8EncodeChar_ascii {b : UInt8} (ascii : b.toNat < 128) :
    String.utf8EncodeChar (Char.ofNat b.toNat) = [b] := by
  have all : ∀ n < 128, String.utf8EncodeChar (Char.ofNat n) = [UInt8.ofNat n] := by decide
  rw [all _ ascii, UInt8.ofNat_toNat]

/-- The text of ASCII bytes has these bytes. -/
lemma toUTF8_asciiText {bytes : List UInt8} (ascii : ∀ b ∈ bytes, b.toNat < 128) :
    (asciiText bytes).toUTF8.data.toList = bytes := by
  rw [toUTF8_toList, asciiText, String.toList_ofList]
  induction bytes with
  | nil => rfl
  | cons b bytes ih =>
    rw [List.map_cons, List.flatMap_cons, utf8EncodeChar_ascii (ascii b List.mem_cons_self),
      ih fun c mem => ascii c (List.mem_cons_of_mem _ mem)]
    rfl

/-- A text of ASCII characters. -/
lemma asciiText_codes {text : String} (ascii : ∀ c ∈ text.toList, c.toNat < 128) :
    asciiText (text.toList.map fun c => UInt8.ofNat c.toNat) = text := by
  have same : ∀ c ∈ text.toList, Char.ofNat (UInt8.ofNat c.toNat).toNat = c := by
    intro c mem
    have := ascii c mem
    rw [UInt8.toNat_ofNat_of_lt' (by change c.toNat < 256; omega), Char.ofNat_toNat]
  rw [asciiText, List.map_map]
  conv_rhs => rw [← String.ofList_toList (s := text)]
  congr 1
  exact (List.map_congr_left same).trans (List.map_id _)

lemma hexDigit_ascii (n : Nat) (small : n < 16) : (hexDigit n).toNat < 128 := by
  have all : ∀ n < 16, (hexDigit n).toNat < 128 := by decide
  exact all n small

lemma percentByte_ascii (b : UInt8) : ∀ c ∈ percentByte b, c.toNat < 128 := by
  have high : b.toNat / 16 < 16 := by
    have := b.toNat_lt
    omega
  intro c mem
  rcases List.mem_cons.mp mem with rfl | mem
  · decide
  rcases List.mem_cons.mp mem with rfl | mem
  · exact hexDigit_ascii _ high
  · obtain rfl := List.mem_singleton.mp mem
    exact hexDigit_ascii _ (Nat.mod_lt _ (by decide))

lemma percentEncode_ascii {keep : UInt8 → Bool} (kept : ∀ b, keep b = true → b.toNat < 128)
    (bytes : List UInt8) : ∀ b ∈ percentEncode keep bytes, b.toNat < 128 := by
  intro c mem
  obtain ⟨b, -, mem⟩ := List.mem_flatMap.mp mem
  split_ifs at mem with keeps
  · obtain rfl := List.mem_singleton.mp mem
    exact kept c keeps
  · exact percentByte_ascii b c mem

lemma hexDigit_isAlphanumeric (n : Nat) (small : n < 16) : isAlphanumeric (hexDigit n) = true := by
  have all : ∀ n < 16, isAlphanumeric (hexDigit n) = true := by decide
  exact all n small

/-- If only letters and digits are kept, nothing but the percent sign stands beside them. -/
lemma mem_percentEncode {bytes : List UInt8} {c : UInt8} (mem : c ∈ percentEncode isAlphanumeric bytes) :
    isAlphanumeric c = true ∨ c = 37 := by
  obtain ⟨b, -, mem⟩ := List.mem_flatMap.mp mem
  split_ifs at mem with keeps
  · obtain rfl := List.mem_singleton.mp mem
    exact .inl keeps
  · have high : b.toNat / 16 < 16 := by
      have := b.toNat_lt
      omega
    rcases List.mem_cons.mp mem with rfl | mem
    · exact .inr rfl
    rcases List.mem_cons.mp mem with rfl | mem
    · exact .inl (hexDigit_isAlphanumeric _ high)
    · obtain rfl := List.mem_singleton.mp mem
      exact .inl (hexDigit_isAlphanumeric _ (Nat.mod_lt _ (by decide)))

lemma isAlphanumeric_ascii {b : UInt8} (alphanumeric : isAlphanumeric b = true) : b.toNat < 128 := by
  unfold isAlphanumeric at alphanumeric
  simp only [Bool.or_eq_true, Bool.and_eq_true, decide_eq_true_eq] at alphanumeric
  omega

lemma formKeeps_ascii {b : UInt8} (kept : formKeeps b = true) : b.toNat < 128 := by
  unfold formKeeps at kept
  rcases Bool.or_eq_true_iff.mp kept with alphanumeric | sign
  · exact isAlphanumeric_ascii alphanumeric
  · have all : ∀ c ∈ ([42, 45, 46, 95] : List UInt8), c.toNat < 128 := by decide +kernel
    exact all b (of_decide_eq_true sign)

/-- What form data is written with. -/
lemma mem_formEncode {bytes : List UInt8} {c : UInt8} (mem : c ∈ formEncode bytes) :
    formKeeps c = true ∨ c = 43 ∨ c = 37 := by
  obtain ⟨b, -, mem⟩ := List.mem_flatMap.mp mem
  split_ifs at mem with space keeps
  · exact .inr (.inl (List.mem_singleton.mp mem))
  · obtain rfl := List.mem_singleton.mp mem
    exact .inl keeps
  · have high : b.toNat / 16 < 16 := by
      have := b.toNat_lt
      omega
    have digit : ∀ n < 16, formKeeps (hexDigit n) = true := by decide
    rcases List.mem_cons.mp mem with rfl | mem
    · exact .inr (.inr rfl)
    rcases List.mem_cons.mp mem with rfl | mem
    · exact .inl (digit _ high)
    · obtain rfl := List.mem_singleton.mp mem
      exact .inl (digit _ (Nat.mod_lt _ (by decide)))

lemma formEncode_ascii (bytes : List UInt8) : ∀ b ∈ formEncode bytes, b.toNat < 128 := by
  intro b mem
  rcases mem_formEncode mem with kept | rfl | rfl
  · exact formKeeps_ascii kept
  · decide
  · decide

/-! ## Spaces -/

/-- Only a space is written with its byte. -/
lemma space_mem_utf8EncodeChar {c : Char} : 32 ∈ String.utf8EncodeChar c ↔ c = ' ' := by
  have byte : ∀ {n : Nat}, n < 256 → ((32 : UInt8) = UInt8.ofNat n ↔ n = 32) := by
    intro n small
    rw [← UInt8.toNat_inj, UInt8.toNat_ofNat_of_lt' small]
    exact eq_comm
  have code : c = ' ' ↔ c.val.toNat = 32 := by
    rw [← Char.val_inj, ← UInt32.toNat_inj]
    rfl
  rw [code]
  unfold String.utf8EncodeChar
  generalize c.val.toNat = v
  dsimp only
  split_ifs with one two three
  · rw [List.mem_singleton, byte (by omega)]
  -- The bytes of a longer encoding are not ASCII.
  all_goals
    refine iff_of_false ?_ (by omega)
    simp only [List.mem_cons, List.not_mem_nil, or_false]
  · rw [byte (by omega), byte (by omega)]
    omega
  · rw [byte (by omega), byte (by omega), byte (by omega)]
    omega
  · rw [byte (by omega), byte (by omega), byte (by omega), byte (by omega)]
    omega

lemma space_mem_toUTF8 {text : String} : 32 ∈ text.toUTF8.data.toList ↔ ' ' ∈ text.toList := by
  rw [toUTF8_toList, List.mem_flatMap]
  constructor
  · rintro ⟨c, mem, byte⟩
    exact space_mem_utf8EncodeChar.mp byte ▸ mem
  · intro mem
    exact ⟨' ', mem, space_mem_utf8EncodeChar.mpr rfl⟩

end IdpMvp.Encoding
