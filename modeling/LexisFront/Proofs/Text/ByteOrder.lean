import Mathlib.Data.List.Basic
import Mathlib.Data.String.Basic

/-!
# The order of encoded texts

Texts are compared character by character, by the numbers of the characters. Their encodings are
compared byte by byte. The two orders agree, although a character has between one and four bytes: of
two characters of the same length the bytes are digits of their numbers, the highest first, and a
character with more bytes has a larger first byte. Hence a difference between two characters shows
before either of them ends, whatever follows.
-/

namespace LexisFront.Text

/-- The bytes that encode a text. -/
def bytes (text : String) : List UInt8 :=
  text.toUTF8.data.toList

/-- The bytes of a text are those of its characters in order. -/
theorem bytes_eq_flatMap (text : String) :
    bytes text = text.toList.flatMap String.utf8EncodeChar := by
  rw [bytes, String.toUTF8_eq_toByteArray]
  conv_lhs => rw [← String.ofList_toList (s := text)]
  rw [String.toByteArray_ofList, List.utf8Encode, List.toList_data_toByteArray]

/-- The bytes after the first one for a number: as many digits of it to the base of sixty-four, the
highest first. -/
def digitBytes : Nat → Nat → List UInt8
  | 0, _ => []
  | count + 1, number => UInt8.ofNat (number / 64 ^ count % 64 + 128) :: digitBytes count number

/-- How many bytes follow the first one in the encoding of a number. -/
def digitCount (number : Nat) : Nat :=
  if number ≤ 0x7F then 0 else if number ≤ 0x7FF then 1 else if number ≤ 0xFFFF then 2 else 3

/-- The first byte in the encoding of a number: a mark of the length and what the digits leave. -/
def leadByte (number : Nat) : Nat :=
  if number ≤ 0x7F then number
  else if number ≤ 0x7FF then number / 64 + 192
  else if number ≤ 0xFFFF then number / 4096 + 224
  else number / 262144 + 240

/-- The number of a character is below the end of the code space. -/
theorem toNat_val_lt (c : Char) : c.val.toNat < 0x110000 := by
  have valid : c.val.toNat < 0xD800 ∨ 0xDFFF < c.val.toNat ∧ c.val.toNat < 0x110000 := c.valid
  omega

/-- A first byte is one byte. -/
theorem leadByte_lt {number : Nat} (bound : number < 0x110000) : leadByte number < 256 := by
  unfold leadByte
  split_ifs <;> omega

/-- A character is encoded by its first byte and its digits. -/
theorem utf8EncodeChar_eq (c : Char) :
    String.utf8EncodeChar c =
      UInt8.ofNat (leadByte c.val.toNat) :: digitBytes (digitCount c.val.toNat) c.val.toNat := by
  have bound := toNat_val_lt c
  rw [String.utf8EncodeChar, leadByte, digitCount]
  generalize c.val.toNat = number at *
  split_ifs with one two three
  · rfl
  · have high : number / 64 % 32 = number / 64 := Nat.mod_eq_of_lt (by omega)
    simp only [digitBytes, high, Nat.pow_zero, Nat.div_one]
  · have high : number / 4096 % 16 = number / 4096 := Nat.mod_eq_of_lt (by omega)
    simp only [digitBytes, high, Nat.pow_zero, Nat.pow_one, Nat.div_one]
  · have high : number / 262144 % 8 = number / 262144 := Nat.mod_eq_of_lt (by omega)
    have square : 64 ^ 2 = 4096 := by decide
    simp only [digitBytes, high, square, Nat.pow_zero, Nat.pow_one, Nat.div_one]

/-- A smaller first byte decides, and after an equal one the bytes behind it do. -/
theorem cons_ofNat_lt {a b : Nat} (small : b < 256) {left right : List UInt8}
    (order : a < b ∨ a = b ∧ left < right) : UInt8.ofNat a :: left < UInt8.ofNat b :: right := by
  rw [List.cons_lt_cons_iff]
  rcases order with less | ⟨rfl, later⟩
  · have bound : a < 256 := by omega
    exact .inl ((UInt8.ofNat_lt_iff_lt bound small).2 less)
  · exact .inr ⟨rfl, later⟩

/-- Of two numbers that agree before their last digits, the smaller one has the smaller digits. -/
theorem digitBytes_append_lt {count m n : Nat} (less : m < n)
    (high : m / 64 ^ count = n / 64 ^ count) (left right : List UInt8) :
    digitBytes count m ++ left < digitBytes count n ++ right := by
  induction count with
  | zero =>
    rw [Nat.pow_zero, Nat.div_one, Nat.div_one] at high
    omega
  | succ count ih =>
    -- The digit in question is the last one of the two quotients, whose other digits agree.
    have ordered : m / 64 ^ count ≤ n / 64 ^ count := Nat.div_le_div_right (Nat.le_of_lt less)
    rw [Nat.pow_succ, ← Nat.div_div_eq_div_mul, ← Nat.div_div_eq_div_mul] at high
    rw [digitBytes, digitBytes, List.cons_append, List.cons_append]
    apply cons_ofNat_lt (by omega)
    by_cases same : m / 64 ^ count = n / 64 ^ count
    · exact .inr ⟨by rw [same], ih same⟩
    · exact .inl (by omega)

/-- A smaller number has a smaller first byte, or it has the same one and as many digits, before
which the two numbers agree. -/
theorem leadByte_lt_or_eq {m n : Nat} (less : m < n) (bound : n < 0x110000) :
    leadByte m < leadByte n ∨ leadByte m = leadByte n ∧ digitCount m = digitCount n ∧
      m / 64 ^ digitCount n = n / 64 ^ digitCount n := by
  unfold leadByte digitCount
  split_ifs <;> omega

/-- The bytes of a smaller character come before those of a larger one, whatever follows each. -/
theorem utf8EncodeChar_append_lt {c d : Char} (less : c < d) (left right : List UInt8) :
    String.utf8EncodeChar c ++ left < String.utf8EncodeChar d ++ right := by
  have numbers : c.val.toNat < d.val.toNat := UInt32.lt_iff_toNat_lt.1 less
  have bound := toNat_val_lt d
  rw [utf8EncodeChar_eq, utf8EncodeChar_eq, List.cons_append, List.cons_append]
  apply cons_ofNat_lt (leadByte_lt bound)
  rcases leadByte_lt_or_eq numbers bound with first | ⟨first, counts, high⟩
  · exact .inl first
  · rw [counts]
    exact .inr ⟨first, digitBytes_append_lt numbers high left right⟩

/-- A text that comes before another one by its characters does so by its bytes. -/
theorem flatMap_utf8EncodeChar_lt {text other : List Char} (less : text < other) :
    text.flatMap String.utf8EncodeChar < other.flatMap String.utf8EncodeChar := by
  induction text generalizing other with
  | nil =>
    cases other with
    | nil => exact absurd less (List.lt_irrefl [])
    | cons d other =>
      rw [List.flatMap_nil, List.flatMap_cons, utf8EncodeChar_eq, List.cons_append]
      exact List.nil_lt_cons _ _
  | cons c text ih =>
    cases other with
    | nil => exact absurd less (List.not_lt_nil _)
    | cons d other =>
      rw [List.flatMap_cons, List.flatMap_cons]
      rcases List.cons_lt_cons_iff.1 less with first | ⟨rfl, later⟩
      · exact utf8EncodeChar_append_lt first _ _
      · exact List.append_left_lt (ih later)

/-- Texts are ordered as their bytes are. -/
theorem bytes_lt_of_lt {text other : String} (less : text < other) : bytes text < bytes other := by
  rw [bytes_eq_flatMap, bytes_eq_flatMap]
  exact flatMap_utf8EncodeChar_lt (String.lt_iff_toList_lt.1 less)

end LexisFront.Text
