import KotlinAssist.Grammar.Literal
import KotlinAssist.Identifier
import KotlinAssist.Proofs.Text.Search

/-!
# Characters of literals

A number is read piece by piece: digits, a fraction, an exponent and a suffix letter, each taken
from the front of what the piece before it has left.  Every piece takes only letters, digits,
underscores, dots and signs, and so does every number; a dot or a sign is taken only together with a
digit behind it.  A string or character starts with its quote; on a line without quotes every
literal is therefore a number.

## Main definitions

* `isNumberPart` — the characters of numbers
* `Leaves` — a text and what is left of it behind such characters
* `Numeral` — such characters, with digits behind dots and signs

## Main statements

* `leaves_of_mem_numberBodies` — what may follow a number
* `numeral_of_numberLiteral` — the characters of a number
* `number_of_mem_literals` — the literals of a line without quotes
-/

namespace KotlinAssist.Grammar

open Text

/-! ## Characters of numbers -/

/-- Whether a character stands between the digits of a number: a dot or a sign. -/
def isNumberMark (c : Char) : Bool :=
  c == '.' || c == '+' || c == '-'

/-- Whether a character can stand in a number. -/
def isNumberPart (c : Char) : Bool :=
  isNamePart c || isNumberMark c

theorem isNamePart_of_isAlpha {c : Char} (letter : c.isAlpha = true) : isNamePart c = true := by
  simp only [isNamePart, Char.isAlphanum, letter, Bool.true_or]

theorem isNamePart_of_isDigit {c : Char} (digit : c.isDigit = true) : isNamePart c = true := by
  simp only [isNamePart, Char.isAlphanum, digit, Bool.or_true, Bool.true_or]

theorem isNamePart_of_isDecimalPart {c : Char} (part : isDecimalPart c = true) :
    isNamePart c = true := by
  rcases (Bool.or_eq_true _ _).mp part with digit | underscore
  · exact isNamePart_of_isDigit digit
  · rw [isNamePart, underscore, Bool.or_true]

theorem isNamePart_of_isBinaryPart {c : Char} (part : isBinaryPart c = true) :
    isNamePart c = true := by
  simp only [isBinaryPart, Bool.or_eq_true, beq_iff_eq] at part
  rcases part with (rfl | rfl) | rfl <;> decide

theorem isNamePart_of_isNumberSuffix {c : Char} (suffix : isNumberSuffix c = true) :
    isNamePart c = true := by
  simp only [isNumberSuffix, Bool.or_eq_true, beq_iff_eq] at suffix
  rcases suffix with (((rfl | rfl) | rfl) | rfl) | rfl <;> decide

theorem isNamePart_of_isHexPart {c : Char} (part : isHexPart c = true) : isNamePart c = true := by
  simp only [isHexPart, Bool.or_eq_true, Bool.and_eq_true, decide_eq_true_eq, beq_iff_eq] at part
  rcases part with ((digit | ⟨low, high⟩) | ⟨low, high⟩) | rfl
  · exact isNamePart_of_isDigit digit
  · apply isNamePart_of_isAlpha
    have below : c ≤ 'z' := Char.le_trans high (by decide)
    have lower : c.isLower = true :=
      (Bool.and_eq_true _ _).mpr ⟨decide_eq_true low, decide_eq_true below⟩
    show (c.isUpper || c.isLower) = true
    rw [lower, Bool.or_true]
  · apply isNamePart_of_isAlpha
    have below : c ≤ 'Z' := Char.le_trans high (by decide)
    have upper : c.isUpper = true := decide_eq_true ⟨low, below⟩
    show (c.isUpper || c.isLower) = true
    rw [upper, Bool.true_or]
  · decide

/-! ## Pieces of numbers -/

/-- A text, and what is left of it when characters that can stand in a number are taken from its
front.  A digit follows each dot and each sign. -/
inductive Leaves : List Char → List Char → Prop where
  | whole (text : List Char) : Leaves text text
  | behind {c : Char} {text rest : List Char} (part : isNamePart c = true)
    (more : Leaves text rest) : Leaves (c :: text) rest
  | digit {c d : Char} {text rest : List Char} (mark : isNumberMark c = true)
    (follows : d.isDigit = true) (more : Leaves text rest) : Leaves (c :: d :: text) rest

theorem Leaves.trans {text middle rest : List Char} (first : Leaves text middle)
    (second : Leaves middle rest) : Leaves text rest := by
  induction first with
  | whole => exact second
  | behind part _ ih => exact .behind part (ih second)
  | digit mark follows _ ih => exact .digit mark follows (ih second)

/-- Characters of a number, of which each that is no part of a name has a digit behind it. -/
structure Numeral (text : List Char) : Prop where
  parts : ∀ c ∈ text, isNumberPart c = true
  digits : ∀ front c d back, text = front ++ c :: d :: back →
    isNamePart c = true ∨ d.isDigit = true

theorem Leaves.exists_taken {text rest : List Char} (leaves : Leaves text rest) :
    ∃ taken, text = taken ++ rest ∧ Numeral taken := by
  induction leaves with
  | whole text => exact ⟨[], rfl, List.forall_mem_nil _, by simp⟩
  | @behind c text rest part _ ih =>
    obtain ⟨taken, cut, numeral⟩ := ih
    refine ⟨c :: taken, congrArg _ cut, List.forall_mem_cons.mpr ⟨?_, numeral.parts⟩, ?_⟩
    · rw [isNumberPart, part, Bool.true_or]
    · intro front e d back divided
      rcases List.cons_eq_append_iff.mp divided with ⟨rfl, same⟩ | ⟨front, rfl, later⟩
      · cases same
        exact .inl part
      · exact numeral.digits front e d back later
  | @digit c e text rest mark follows _ ih =>
    obtain ⟨taken, cut, numeral⟩ := ih
    have part := isNamePart_of_isDigit follows
    refine ⟨c :: e :: taken, congrArg _ (congrArg _ cut), ?_, ?_⟩
    · refine List.forall_mem_cons.mpr ⟨?_, List.forall_mem_cons.mpr ⟨?_, numeral.parts⟩⟩
      · rw [isNumberPart, mark, Bool.or_true]
      · rw [isNumberPart, part, Bool.true_or]
    · intro front c' d back divided
      rcases List.cons_eq_append_iff.mp divided with ⟨rfl, same⟩ | ⟨front, rfl, later⟩
      · cases same
        exact .inr follows
      · rcases List.cons_eq_append_iff.mp later with ⟨rfl, same⟩ | ⟨front, rfl, last⟩
        · cases same
          exact .inl part
        · exact numeral.digits front c' d back last

theorem leaves_dropWhile {inside : Char → Bool}
    (parts : ∀ c, inside c = true → isNamePart c = true) (text : List Char) :
    Leaves text (text.dropWhile inside) := by
  induction text with
  | nil => exact .whole []
  | cons c text ih =>
    rw [List.dropWhile_cons]
    split
    · next taken => exact .behind (parts c taken) ih
    · exact .whole _

/-- A run that is read is not empty. -/
theorem afterRun?_eq_some {inside : Char → Bool} {text rest : List Char}
    (read : afterRun? inside text = some rest) :
    ∃ c more, text = c :: more ∧ inside c = true ∧ rest = more.dropWhile inside := by
  unfold afterRun? at read
  split at read
  · cases read
  · split at read
    · next c more taken =>
      cases read
      exact ⟨c, more, rfl, taken, rfl⟩
    · cases read

theorem leaves_of_afterRun? {inside : Char → Bool}
    (parts : ∀ c, inside c = true → isNamePart c = true) {text rest : List Char}
    (read : afterRun? inside text = some rest) : Leaves text rest := by
  obtain ⟨c, more, rfl, taken, rfl⟩ := afterRun?_eq_some read
  exact .behind (parts c taken) (leaves_dropWhile parts more)

/-- Digits behind a dot or a sign. -/
theorem leaves_of_mark {c : Char} (mark : isNumberMark c = true) {text rest : List Char}
    (read : afterRun? Char.isDigit text = some rest) : Leaves (c :: text) rest := by
  obtain ⟨d, more, rfl, taken, rfl⟩ := afterRun?_eq_some read
  exact .digit mark taken (leaves_dropWhile (fun _ => isNamePart_of_isDigit) more)

theorem leaves_of_afterFraction? {text rest : List Char} (read : afterFraction? text = some rest) :
    Leaves text rest := by
  unfold afterFraction? at read
  split at read
  · exact leaves_of_mark (by decide) read
  · cases read

theorem leaves_of_afterExponent? {text rest : List Char} (read : afterExponent? text = some rest) :
    Leaves text rest := by
  unfold afterExponent? at read
  split at read
  · split at read
    · next letter =>
      refine .behind (by rcases letter with rfl | rfl <;> decide) ?_
      split at read
      · split at read
        · next sign => exact leaves_of_mark (by rcases sign with rfl | rfl <;> decide) read
        · exact leaves_of_afterRun? (fun _ => isNamePart_of_isDigit) read
      · cases read
    · cases read
  · cases read

theorem leaves_of_afterSuffix? {text rest : List Char} (read : afterSuffix? text = some rest) :
    Leaves text rest := by
  unfold afterSuffix? at read
  split at read
  · split at read
    · next suffix =>
      cases read
      exact .behind (isNamePart_of_isNumberSuffix suffix) (.whole _)
    · cases read
  · cases read

/-- A piece that may be missing is taken, or nothing is. -/
theorem leaves_of_mem_withOptional {part : List Char → Option (List Char)}
    (reads : ∀ {text rest}, part text = some rest → Leaves text rest) {text rest : List Char}
    (member : rest ∈ withOptional part text) : Leaves text rest := by
  rcases List.mem_append.mp member with taken | left
  · exact reads (Option.mem_toList.mp taken)
  · rw [List.mem_singleton.mp left]
    exact .whole text

/-! ## Numbers -/

/-- What may follow a number without its suffix stands behind characters of the number. -/
theorem leaves_of_mem_numberBodies {text rest : List Char} (member : rest ∈ numberBodies text) :
    Leaves text rest := by
  unfold numberBodies at member
  split at member
  · cases member
  · next c text =>
    rcases List.mem_append.mp member with radix | decimal
    · split at radix
      · next x digits =>
        -- the letter of the radix, and a run of its digits
        refine .behind (by decide) ?_
        split at radix
        · next letter =>
          refine .behind (by rcases letter with rfl | rfl <;> decide) ?_
          exact leaves_of_afterRun? (fun _ => isNamePart_of_isHexPart)
            (Option.mem_toList.mp radix)
        · split at radix
          · next letter =>
            refine .behind (by rcases letter with rfl | rfl <;> decide) ?_
            exact leaves_of_afterRun? (fun _ => isNamePart_of_isBinaryPart)
              (Option.mem_toList.mp radix)
          · cases radix
      · cases radix
    · split at decimal
      · next digit =>
        obtain ⟨middle, fraction, exponent⟩ := List.mem_flatMap.mp decimal
        have digits : Leaves text (text.dropWhile isDecimalPart) :=
          leaves_dropWhile (fun _ => isNamePart_of_isDecimalPart) text
        refine .behind (isNamePart_of_isDigit digit) (digits.trans ?_)
        exact (leaves_of_mem_withOptional leaves_of_afterFraction? fraction).trans
          (leaves_of_mem_withOptional leaves_of_afterExponent? exponent)
      · cases decimal

/-- A number starts with a digit. -/
theorem isDigit_of_mem_numberBodies {text rest : List Char} (member : rest ∈ numberBodies text) :
    text.head?.any Char.isDigit = true := by
  unfold numberBodies at member
  split at member
  · cases member
  · rcases List.mem_append.mp member with radix | decimal
    · split at radix
      · rfl
      · cases radix
    · split at decimal
      · next digit => exact digit
      · cases decimal

/-- **A number starts with a digit and consists of letters, digits, underscores, dots and signs**,
and a digit follows each dot and each sign. -/
theorem numeral_of_numberLiteral {before : Option Char} {text : List Char} {length : Nat}
    (found : numberLiteral before text = some length) :
    text.head?.any Char.isDigit = true ∧ Numeral (text.take length) := by
  unfold numberLiteral at found
  split at found
  · cases found
  · obtain ⟨rest, read, rfl⟩ := Option.map_eq_some_iff.mp found
    obtain ⟨body, number, suffix⟩ := List.mem_flatMap.mp (List.mem_of_find?_eq_some read)
    refine ⟨isDigit_of_mem_numberBodies number, ?_⟩
    have leaves := (leaves_of_mem_numberBodies number).trans
      (leaves_of_mem_withOptional leaves_of_afterSuffix? suffix)
    obtain ⟨taken, rfl, numeral⟩ := leaves.exists_taken
    rw [List.length_append, Nat.add_sub_cancel, List.take_left]
    exact numeral

/-! ## Literals of a line -/

/-- A string or character starts with a quote. -/
theorem quote_of_stringLiteral {before : Option Char} {text : List Char} {length : Nat}
    (found : stringLiteral before text = some length) : '"' ∈ text ∨ '\x27' ∈ text := by
  unfold stringLiteral at found
  split at found
  · exact .inl List.mem_cons_self
  · exact .inr List.mem_cons_self
  · cases found

/-- What was read where a number was found. -/
theorem exists_of_number {line : List Char} {literal : Literal} (member : literal ∈ literals line)
    (number : literal.kind = .number) :
    ∃ front text length, line = front ++ text ∧ text.head?.any Char.isDigit = true ∧
      Numeral (text.take length) ∧ literal.span = ⟨front.length, front.length + length⟩ := by
  rcases List.mem_append.mp (List.mem_mergeSort.mp member) with string | found
  · obtain ⟨span, -, rfl⟩ := List.mem_map.mp string
    cases number
  · obtain ⟨span, read, rfl⟩ := List.mem_map.mp found
    obtain ⟨front, text, length, whole, -, -, accepted, rfl⟩ :=
      exists_of_mem_matchesFrom (List.mem_filter.mp read).1
    obtain ⟨digit, numeral⟩ := numeral_of_numberLiteral accepted
    exact ⟨front, text, length, whole, digit, numeral, by rw [Nat.zero_add]⟩

/-- **On a line without quotes every literal is a number**, and consists of the characters of
numbers. -/
theorem number_of_mem_literals {line : List Char} (unquoted : '"' ∉ line ∧ '\x27' ∉ line)
    {literal : Literal} (member : literal ∈ literals line) :
    literal.kind = .number ∧ ∀ c ∈ literal.span.slice line, isNumberPart c = true := by
  have isNumber : literal.kind = .number := by
    rcases List.mem_append.mp (List.mem_mergeSort.mp member) with string | number
    · obtain ⟨span, read, rfl⟩ := List.mem_map.mp string
      obtain ⟨front, back, length, rfl, -, -, accepted, rfl⟩ := exists_of_mem_matchesFrom read
      rcases quote_of_stringLiteral accepted with double | single
      · exact absurd (List.mem_append_right front double) unquoted.1
      · exact absurd (List.mem_append_right front single) unquoted.2
    · obtain ⟨span, -, rfl⟩ := List.mem_map.mp number
      rfl
  obtain ⟨front, text, length, rfl, -, numeral, placed⟩ := exists_of_number member isNumber
  refine ⟨isNumber, ?_⟩
  rw [placed, Span.slice, List.drop_left, Nat.add_sub_cancel_left]
  exact numeral.parts

end KotlinAssist.Grammar
