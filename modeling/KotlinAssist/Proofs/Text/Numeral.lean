import Mathlib.Algebra.Order.Ring.Nat
import Mathlib.Data.List.Basic

/-!
# Numerals in the order of their bytes

Numerals of one length are ordered like the numbers that they stand for: the first digit in which
two of them differ decides both.  Numerals of different lengths are not, because the first digit is
compared first; the numeral of a power of ten starts with a one, and the numeral of the number
before it with a nine.

## Main statements

* `bytes_lt_iff_of_length_eq` — numerals of one length are ordered like numbers
* `bytes_lt_of_div_lt` — the first digits decide, whatever the lengths are
-/

namespace KotlinAssist.Text

/-- The bytes of a text, by which texts are sorted. -/
def bytes (text : String) : List UInt8 :=
  text.toUTF8.data.toList

theorem bytes_append (front back : String) : bytes (front ++ back) = bytes front ++ bytes back := by
  show (front ++ back).toByteArray.data.toList = _
  rw [String.toByteArray_append, ByteArray.data_append, Array.toList_append]
  rfl

/-- A text of ASCII characters has one byte for each of them. -/
theorem bytes_ofList {chars : List Char} (ascii : ∀ c ∈ chars, c.val ≤ 127) :
    bytes (String.ofList chars) = chars.map (·.val.toUInt8) := by
  show (String.ofList chars).toByteArray.data.toList = _
  rw [String.toByteArray_ofList, List.utf8Encode, List.toList_data_toByteArray]
  induction chars with
  | nil => rfl
  | cons c chars ih =>
    rw [List.forall_mem_cons] at ascii
    rw [List.flatMap_cons, ih ascii.2,
      String.utf8EncodeChar_eq_singleton (Char.utf8Size_eq_one_iff.mpr ascii.1), List.map_cons]
    rfl

/-! ## Digits -/

/-- A text of decimal digits. -/
def IsNumeral (digits : List Char) : Prop :=
  ∀ c ∈ digits, c.isDigit = true

/-- The number that a numeral stands for. -/
def numeralValue (digits : List Char) : Nat :=
  Nat.ofDigitChars 10 digits 0

theorem toNat_bounds_of_isDigit {c : Char} (digit : c.isDigit = true) :
    48 ≤ c.toNat ∧ c.toNat ≤ 57 :=
  Char.isDigit_iff_toNat.mp digit

theorem le_of_isDigit {c : Char} (digit : c.isDigit = true) : c.val ≤ 127 := by
  have bounds := toNat_bounds_of_isDigit digit
  rw [UInt32.le_iff_toNat_le]
  show c.toNat ≤ 127
  omega

/-- Digits are ordered as bytes like the numbers that they stand for. -/
theorem byte_lt_iff {c d : Char} (digit : c.isDigit = true) (digit' : d.isDigit = true) :
    (c.val.toUInt8 < d.val.toUInt8 ↔ c.toNat - 48 < d.toNat - 48) ∧
      (c.val.toUInt8 = d.val.toUInt8 ↔ c.toNat - 48 = d.toNat - 48) := by
  have bounds := toNat_bounds_of_isDigit digit
  have bounds' := toNat_bounds_of_isDigit digit'
  have small (c : Char) (bounds : 48 ≤ c.toNat ∧ c.toNat ≤ 57) :
      c.val.toUInt8.toNat = c.toNat := by
    rw [UInt32.toNat_toUInt8]
    show c.toNat % 256 = c.toNat
    omega
  rw [UInt8.lt_iff_toNat_lt, ← UInt8.toNat_inj, small c bounds, small d bounds']
  omega

theorem numeralValue_cons (c : Char) (digits : List Char) :
    numeralValue (c :: digits) = 10 ^ digits.length * (c.toNat - 48) + numeralValue digits := by
  rw [numeralValue, Nat.ofDigitChars_cons, Nat.ofDigitChars_eq_ofDigitChars_zero, Nat.mul_zero,
    Nat.zero_add]
  rfl

/-- A numeral stands for less than one and as many zeros as it has digits. -/
theorem numeralValue_lt {digits : List Char} (numeral : IsNumeral digits) :
    numeralValue digits < 10 ^ digits.length := by
  induction digits with
  | nil => decide
  | cons c digits ih =>
    rw [IsNumeral, List.forall_mem_cons] at numeral
    have below := ih numeral.2
    have bounds := toNat_bounds_of_isDigit numeral.1
    have digit : 10 ^ digits.length * (c.toNat - 48) ≤ 10 ^ digits.length * 9 :=
      Nat.mul_le_mul_left _ (by omega)
    rw [numeralValue_cons, List.length_cons, pow_succ]
    omega

/-- **Numerals of one length are ordered like numbers.** -/
theorem bytes_lt_iff_of_length_eq {digits digits' : List Char} (numeral : IsNumeral digits)
    (numeral' : IsNumeral digits') (length : digits.length = digits'.length) :
    bytes (String.ofList digits) < bytes (String.ofList digits') ↔
      numeralValue digits < numeralValue digits' := by
  rw [bytes_ofList fun c member => le_of_isDigit (numeral c member),
    bytes_ofList fun c member => le_of_isDigit (numeral' c member)]
  induction digits generalizing digits' with
  | nil =>
    rw [List.length_nil, eq_comm, List.length_eq_zero_iff] at length
    rw [length]
    simp
  | cons c digits ih =>
    obtain ⟨d, digits', rfl⟩ := List.exists_cons_of_length_eq_add_one length.symm
    rw [IsNumeral, List.forall_mem_cons] at numeral numeral'
    have same : digits.length = digits'.length := Nat.succ.inj length
    have below := numeralValue_lt numeral.2
    have below' := numeralValue_lt numeral'.2
    obtain ⟨lt_iff, eq_iff⟩ := byte_lt_iff numeral.1 numeral'.1
    rw [List.map_cons, List.map_cons, List.cons_lt_cons_iff, lt_iff, eq_iff,
      ih numeral.2 numeral'.2 same, numeralValue_cons, numeralValue_cons, ← same]
    rw [← same] at below'
    -- a greater first digit outweighs all digits behind it
    have outweighs {a b : Nat} (less : a < b) :
        10 ^ digits.length * a + 10 ^ digits.length ≤ 10 ^ digits.length * b :=
      Nat.mul_le_mul_left (10 ^ digits.length) less
    rcases Nat.lt_trichotomy (c.toNat - 48) (d.toNat - 48) with less | equal | more
    · have weight := outweighs less
      omega
    · rw [equal]
      omega
    · have weight := outweighs more
      omega

/-- The first digit of a numeral. -/
theorem head_eq_div {c : Char} {digits : List Char} (numeral : IsNumeral (c :: digits)) :
    c.toNat - 48 = numeralValue (c :: digits) / 10 ^ digits.length := by
  rw [IsNumeral, List.forall_mem_cons] at numeral
  have below := numeralValue_lt numeral.2
  rw [numeralValue_cons, Nat.mul_add_div (Nat.pow_pos (by decide)), Nat.div_eq_of_lt below,
    Nat.add_zero]

/-- **A smaller first digit decides, whatever the lengths are.** -/
theorem bytes_lt_of_div_lt {digits digits' : List Char} (numeral : IsNumeral digits)
    (numeral' : IsNumeral digits') {width width' : Nat} (length : digits.length = width + 1)
    (length' : digits'.length = width' + 1)
    (less : numeralValue digits / 10 ^ width < numeralValue digits' / 10 ^ width') :
    bytes (String.ofList digits) < bytes (String.ofList digits') := by
  obtain ⟨c, digits, rfl⟩ := List.exists_cons_of_length_eq_add_one length
  obtain ⟨d, digits', rfl⟩ := List.exists_cons_of_length_eq_add_one length'
  rw [← Nat.succ.inj length, ← Nat.succ.inj length', ← head_eq_div numeral,
    ← head_eq_div numeral'] at less
  rw [bytes_ofList fun c member => le_of_isDigit (numeral c member),
    bytes_ofList fun c member => le_of_isDigit (numeral' c member), List.map_cons, List.map_cons,
    List.cons_lt_cons_iff]
  have digit : c.isDigit = true := numeral c List.mem_cons_self
  have digit' : d.isDigit = true := numeral' d List.mem_cons_self
  exact Or.inl ((byte_lt_iff digit digit').1.mpr less)

end KotlinAssist.Text
