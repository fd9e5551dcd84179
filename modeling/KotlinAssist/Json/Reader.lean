import KotlinAssist.Json
import KotlinAssist.Text.Span

/-!
# Reading JSON text

The reader takes a value off the start of a text.  A value nests no deeper than its text is long,
which bounds the recursion.  Of two fields of one name the last counts, and the fields of an object
are kept in the order of their names.
-/

namespace KotlinAssist.Json

open Text

/-- A text without the blanks that may stand between the parts of a value. -/
def skipBlanks (text : List Char) : List Char :=
  text.dropWhile fun c => c == ' ' || c == '\n' || c == '\r' || c == '\t'

/-- The value of a hexadecimal digit. -/
def hexDigit? (c : Char) : Option Nat :=
  if c.isDigit then some (c.toNat - '0'.toNat)
  else if 'a' ≤ c ∧ c ≤ 'f' then some (c.toNat - 'a'.toNat + 10)
  else if 'A' ≤ c ∧ c ≤ 'F' then some (c.toNat - 'A'.toNat + 10)
  else none

/-- The value of four hexadecimal digits. -/
def codeUnit? (a b c d : Char) : Option Nat := do
  return (((← hexDigit? a) * 16 + (← hexDigit? b)) * 16 + (← hexDigit? c)) * 16 + (← hexDigit? d)

/-- The character of a code unit that is no half of a surrogate pair. -/
def charOfUnit? (unit : Nat) : Option Char :=
  if 0xD800 ≤ unit ∧ unit < 0xE000 then none else some (Char.ofNat unit)

/-- The character of a surrogate pair. -/
def charOfPair? (high low : Nat) : Option Char :=
  if 0xD800 ≤ high ∧ high < 0xDC00 ∧ 0xDC00 ≤ low ∧ low < 0xE000 then
    some (Char.ofNat (0x10000 + (high - 0xD800) * 0x400 + (low - 0xDC00)))
  else none

/-- The character that a letter stands for after a backslash. -/
def escaped? (c : Char) : Option Char :=
  [('"', '"'), ('\\', '\\'), ('/', '/'), ('n', '\n'), ('r', '\r'), ('t', '\t'),
   ('b', '\x08'), ('f', '\x0c')].lookup c

/-- Reads a text up to its closing quote, the opening one having been read.  `read` holds the
characters already read, the latest first, and `high` the first half of a surrogate pair whose
second half has to follow. -/
def readText? (read : List Char) (high : Option Nat) : List Char → Option (List Char × List Char)
  | [] => none
  | '\\' :: 'u' :: a :: b :: c :: d :: rest =>
    match high, codeUnit? a b c d with
    | _, none => none
    | some first, some unit =>
      match charOfPair? first unit with
      | some char => readText? (char :: read) none rest
      | none => none
    | none, some unit =>
      match charOfUnit? unit with
      | some char => readText? (char :: read) none rest
      | none => readText? read (some unit) rest
  | '\\' :: c :: rest =>
    match high, escaped? c with
    | none, some char => readText? (char :: read) none rest
    | _, _ => none
  | c :: rest =>
    if high.isSome || c.toNat < 0x20 then none
    else if c = '"' then some (read.reverse, rest)
    else readText? (c :: read) none rest

/-- The number that decimal digits denote. -/
def ofDigits (digits : List Char) : Nat :=
  digits.foldl (fun value c => value * 10 + (c.toNat - '0'.toNat)) 0

/-- Reads decimal digits, at least one. -/
def readDigits? (text : List Char) : Option (List Char × List Char) :=
  match text.takeWhile Char.isDigit with
  | [] => none
  | digits => some (digits, text.dropWhile Char.isDigit)

/-- Reads a fraction; no digits without one. -/
def readFraction? : List Char → Option (List Char × List Char)
  | '.' :: rest => readDigits? rest
  | text => some ([], text)

/-- Reads an exponent, if there is one. -/
def readExponent? : List Char → Option (Option Int × List Char)
  | c :: rest =>
    if c = 'e' ∨ c = 'E' then
      match rest with
      | '-' :: rest => (readDigits? rest).map fun (digits, rest) =>
          (some (-(ofDigits digits : Int)), rest)
      | '+' :: rest => (readDigits? rest).map fun (digits, rest) =>
          (some (ofDigits digits : Int), rest)
      | rest => (readDigits? rest).map fun (digits, rest) =>
          (some (ofDigits digits : Int), rest)
    else some (none, c :: rest)
  | [] => some (none, [])

/-- One more than the largest number of 64 bits. -/
def wordLimit : Nat :=
  0x10000000000000000

/-- One more than the largest size of a positive number of 64 bits with a sign. -/
def signLimit : Nat :=
  0x8000000000000000

/-- The number that leading digits denote, as long as it fits into 64 bits, and how many digits were
left. -/
def leadingDigits (value : Nat) : List Char → Nat × Nat
  | [] => (value, 0)
  | c :: rest =>
    let next := value * 10 + (c.toNat - '0'.toNat)
    if next < wordLimit then leadingDigits next rest else (value, rest.length + 1)

/-- The floating-point number of digits with a number of places after the point, times a power of
ten. -/
def floatOfDigits? (negative : Bool) (digits : List Char) (places : Nat) (power : Int) :
    Option Json :=
  let (value, left) := leadingDigits 0 digits
  (Double.ofDecimal? value (power + left - places)).map (.float negative)

/-- The number of digits without point and exponent.  It is an integer if it fits into 64 bits; a
zero with a sign does not. -/
def integerOfDigits? (negative : Bool) (digits : List Char) : Option Json :=
  let value := ofDigits digits
  if negative then
    if 0 < value ∧ value ≤ signLimit then some (.int (-value))
    else floatOfDigits? true digits 0 0
  else if value < wordLimit then some (.int value)
  else floatOfDigits? false digits 0 0

/-- Reads a number. -/
def readNumber? (text : List Char) : Option (Json × List Char) := do
  let (negative, text) := match text with
    | '-' :: rest => (true, rest)
    | text => (false, text)
  let (whole, text) ← readDigits? text
  let (fraction, text) ← readFraction? text
  let (exponent, text) ← readExponent? text
  let number ←
    if fraction.isEmpty ∧ exponent.isNone then integerOfDigits? negative whole
    else floatOfDigits? negative (whole ++ fraction) fraction.length (exponent.getD 0)
  some (number, text)

/-- Puts a field among fields in the order of their names, in place of one of its name. -/
def insertField (key : String) (value : Json) : List (String × Json) → List (String × Json)
  | [] => [(key, value)]
  | (other, kept) :: rest =>
    if key = other then (key, value) :: rest
    else if key < other then (key, value) :: (other, kept) :: rest
    else (other, kept) :: insertField key value rest

mutual

/-- Reads a value that nests no deeper than `depth`. -/
def readValue? : Nat → List Char → Option (Json × List Char)
  | 0, _ => none
  | depth + 1, text =>
    match skipBlanks text with
    | 'n' :: rest => (stripFront? "ull".toList rest).map (.null, ·)
    | 't' :: rest => (stripFront? "rue".toList rest).map (.bool true, ·)
    | 'f' :: rest => (stripFront? "alse".toList rest).map (.bool false, ·)
    | '"' :: rest =>
      (readText? [] none rest).map fun (text, rest) => (.str (String.ofList text), rest)
    | '[' :: rest =>
      match skipBlanks rest with
      | ']' :: rest => some (.arr [], rest)
      | rest => (readItems? depth rest).map fun (items, rest) => (.arr items, rest)
    | '\x7b' :: rest =>
      match skipBlanks rest with
      | '\x7d' :: rest => some (.obj [], rest)
      | rest => (readFields? depth [] rest).map fun (fields, rest) => (.obj fields, rest)
    | rest => readNumber? rest

/-- Reads the items of an array and its closing bracket. -/
def readItems? : Nat → List Char → Option (List Json × List Char)
  | 0, _ => none
  | depth + 1, text => do
    let (item, rest) ← readValue? depth text
    match skipBlanks rest with
    | ',' :: rest => (readItems? depth rest).map fun (items, rest) => (item :: items, rest)
    | ']' :: rest => some ([item], rest)
    | _ => none

/-- Reads the fields of an object and its closing brace; `fields` holds those read before. -/
def readFields? : Nat → List (String × Json) → List Char →
    Option (List (String × Json) × List Char)
  | 0, _, _ => none
  | depth + 1, fields, text =>
    match skipBlanks text with
    | '"' :: rest => do
      let (key, rest) ← readText? [] none rest
      match skipBlanks rest with
      | ':' :: rest => do
        let (value, rest) ← readValue? depth rest
        let fields := insertField (String.ofList key) value fields
        match skipBlanks rest with
        | ',' :: rest => readFields? depth fields rest
        | '\x7d' :: rest => some (fields, rest)
        | _ => none
      | _ => none
    | _ => none

end

/-- Reads a text that holds one value and nothing else. -/
def ofText? (text : String) : Option Json := do
  let characters := text.toList
  let (value, rest) ← readValue? (characters.length + 1) characters
  if (skipBlanks rest).isEmpty then some value else none

end KotlinAssist.Json
