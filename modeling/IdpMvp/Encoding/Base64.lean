import Mathlib.Data.List.Basic

/-!
# Base64

What a base64 engine does, and the standard one: six bits a character, and padding to whole blocks of four. Its
decoder takes canonical text only, and reads back what the encoder writes (`standard_lawful`).
-/

namespace IdpMvp.Encoding

/-- An engine that writes bytes as text. -/
structure Base64 where
  encode : List UInt8 → String
  decode : String → Except String (List UInt8)

/-- What is written is read back, and is visible ASCII. -/
structure Base64.Lawful (B : Base64) : Prop where
  decode_encode : ∀ bytes, B.decode (B.encode bytes) = .ok bytes
  visible : ∀ bytes, ∀ c ∈ (B.encode bytes).toList, 32 < c.toNat ∧ c.toNat < 127

namespace Base64

/-- The character of six bits. -/
def char (n : Nat) : Char :=
  Char.ofNat (if n < 26 then 65 + n else if n < 52 then 71 + n else if n < 62 then n - 4
    else if n = 62 then 43 else 47)

/-- The six bits of a character. -/
def value (c : Char) : Option Nat :=
  let n := c.toNat
  if 65 ≤ n ∧ n ≤ 90 then some (n - 65)
  else if 97 ≤ n ∧ n ≤ 122 then some (n - 71)
  else if 48 ≤ n ∧ n ≤ 57 then some (n + 4)
  else if n = 43 then some 62
  else if n = 47 then some 63
  else none

def encodeChars : List UInt8 → List Char
  | [] => []
  | [a] => [char (a.toNat / 4), char (a.toNat % 4 * 16), '=', '=']
  | [a, b] => [char (a.toNat / 4), char (a.toNat % 4 * 16 + b.toNat / 16), char (b.toNat % 16 * 4), '=']
  | a :: b :: c :: rest =>
    char (a.toNat / 4) :: char (a.toNat % 4 * 16 + b.toNat / 16) :: char (b.toNat % 16 * 4 + c.toNat / 64) ::
      char (c.toNat % 64) :: encodeChars rest

/-- The bytes of four sextets. -/
def firstByte (w x : Nat) : UInt8 := UInt8.ofNat (w * 4 + x / 16)

def secondByte (x y : Nat) : UInt8 := UInt8.ofNat (x % 16 * 16 + y / 4)

def thirdByte (y z : Nat) : UInt8 := UInt8.ofNat (y % 4 * 64 + z)

/-- Only the last block may be padded, and the bits that padding cuts off are zero. -/
def decodeChars : List Char → Option (List UInt8)
  | [] => some []
  | c :: d :: e :: f :: rest => do
    let w ← value c
    let x ← value d
    if e = '=' ∧ f = '=' ∧ rest = [] then
      if x % 16 = 0 then some [firstByte w x] else none
    else do
      let y ← value e
      if f = '=' ∧ rest = [] then
        if y % 4 = 0 then some [firstByte w x, secondByte x y] else none
      else do
        let z ← value f
        let bytes ← decodeChars rest
        return firstByte w x :: secondByte x y :: thirdByte y z :: bytes
  | _ => none

/-- The standard engine. -/
def standard : Base64 where
  encode bytes := String.ofList (encodeChars bytes)
  decode text :=
    match decodeChars text.toList with
    | some bytes => .ok bytes
    | none => .error "invalid base64"

/-! ## Blocks -/

lemma value_char {n : Nat} (small : n < 64) : value (char n) = some n := by
  have all : ∀ n < 64, value (char n) = some n := by decide
  exact all n small

lemma char_ne_pad {n : Nat} (small : n < 64) : char n ≠ '=' := by
  have all : ∀ n < 64, char n ≠ '=' := by decide
  exact all n small

lemma char_visible {n : Nat} (small : n < 64) : 32 < (char n).toNat ∧ (char n).toNat < 127 := by
  have all : ∀ n < 64, 32 < (char n).toNat ∧ (char n).toNat < 127 := by decide
  exact all n small

lemma firstByte_eq (a : UInt8) {r : Nat} (low : r < 16) : firstByte (a.toNat / 4) (a.toNat % 4 * 16 + r) = a := by
  have sum : a.toNat / 4 * 4 + (a.toNat % 4 * 16 + r) / 16 = a.toNat := by omega
  rw [firstByte, sum, UInt8.ofNat_toNat]

lemma secondByte_eq (q : Nat) (b : UInt8) {r : Nat} (low : r < 4) :
    secondByte (q * 16 + b.toNat / 16) (b.toNat % 16 * 4 + r) = b := by
  have high : b.toNat / 16 < 16 := by
    have := b.toNat_lt
    omega
  have sum : (q * 16 + b.toNat / 16) % 16 * 16 + (b.toNat % 16 * 4 + r) / 4 = b.toNat := by omega
  rw [secondByte, sum, UInt8.ofNat_toNat]

lemma thirdByte_eq (q : Nat) (c : UInt8) : thirdByte (q * 4 + c.toNat / 64) (c.toNat % 64) = c := by
  have high : c.toNat / 64 < 4 := by
    have := c.toNat_lt
    omega
  have sum : (q * 4 + c.toNat / 64) % 4 * 64 + c.toNat % 64 = c.toNat := by omega
  rw [thirdByte, sum, UInt8.ofNat_toNat]

/-- The four sextets of three bytes. -/
lemma sextets (a b c : UInt8) : a.toNat / 4 < 64 ∧ a.toNat % 4 * 16 + b.toNat / 16 < 64 ∧
    b.toNat % 16 * 4 + c.toNat / 64 < 64 ∧ c.toNat % 64 < 64 := by
  have ha := a.toNat_lt
  have hb := b.toNat_lt
  have hc := c.toNat_lt
  omega

/-! ## Whole texts -/

lemma decodeChars_encodeChars (bytes : List UInt8) : decodeChars (encodeChars bytes) = some bytes := by
  induction bytes using encodeChars.induct with
  | case1 => rfl
  | case2 a =>
    obtain ⟨hw, -⟩ := sextets a 0 0
    have hx : a.toNat % 4 * 16 < 64 := by omega
    have first : firstByte (a.toNat / 4) (a.toNat % 4 * 16) = a := firstByte_eq a (r := 0) (by decide)
    have zero : a.toNat % 4 * 16 % 16 = 0 := by omega
    simp only [encodeChars, decodeChars, value_char hw, value_char hx]
    simp [zero, first]
  | case3 a b =>
    obtain ⟨hw, hx, -⟩ := sextets a b 0
    have hy : b.toNat % 16 * 4 < 64 := by omega
    have low : b.toNat / 16 < 16 := by
      have := b.toNat_lt
      omega
    have first := firstByte_eq a low
    have second : secondByte _ (b.toNat % 16 * 4) = b := secondByte_eq (a.toNat % 4) b (r := 0) (by decide)
    have zero : b.toNat % 16 * 4 % 4 = 0 := by omega
    have pad : char (b.toNat % 16 * 4) ≠ '=' := char_ne_pad hy
    simp only [encodeChars, decodeChars, value_char hw, value_char hx, value_char hy]
    simp [pad, zero, first, second]
  | case4 a b c rest ih =>
    obtain ⟨hw, hx, hy, hz⟩ := sextets a b c
    have low : b.toNat / 16 < 16 := by
      have := b.toNat_lt
      omega
    have low' : c.toNat / 64 < 4 := by
      have := c.toNat_lt
      omega
    have first := firstByte_eq a low
    have second := secondByte_eq (a.toNat % 4) b low'
    have third := thirdByte_eq (b.toNat % 16) c
    simp only [encodeChars, decodeChars, value_char hw, value_char hx, value_char hy, value_char hz]
    simp [char_ne_pad hy, char_ne_pad hz, ih, first, second, third]

lemma encodeChars_visible (bytes : List UInt8) :
    ∀ c ∈ encodeChars bytes, 32 < c.toNat ∧ c.toNat < 127 := by
  have pad : 32 < '='.toNat ∧ '='.toNat < 127 := by decide
  induction bytes using encodeChars.induct with
  | case1 =>
    intro c mem
    cases mem
  | case2 a =>
    obtain ⟨hw, -⟩ := sextets a 0 0
    have hx : a.toNat % 4 * 16 < 64 := by omega
    simp only [encodeChars, List.forall_mem_cons]
    exact ⟨char_visible hw, char_visible hx, pad, pad, fun _ mem => by cases mem⟩
  | case3 a b =>
    obtain ⟨hw, hx, -⟩ := sextets a b 0
    have hy : b.toNat % 16 * 4 < 64 := by omega
    simp only [encodeChars, List.forall_mem_cons]
    exact ⟨char_visible hw, char_visible hx, char_visible hy, pad, fun _ mem => by cases mem⟩
  | case4 a b c rest ih =>
    obtain ⟨hw, hx, hy, hz⟩ := sextets a b c
    simp only [encodeChars, List.forall_mem_cons]
    exact ⟨char_visible hw, char_visible hx, char_visible hy, char_visible hz, ih⟩

/-- The standard engine reads back what it writes. -/
theorem standard_lawful : standard.Lawful where
  decode_encode bytes := by
    have read : decodeChars (String.ofList (encodeChars bytes)).toList = some bytes := by
      rw [String.toList_ofList]
      exact decodeChars_encodeChars bytes
    simp only [standard, read]
  visible bytes := by
    change ∀ c ∈ (String.ofList (encodeChars bytes)).toList, _
    rw [String.toList_ofList]
    exact encodeChars_visible bytes

end Base64
end IdpMvp.Encoding
