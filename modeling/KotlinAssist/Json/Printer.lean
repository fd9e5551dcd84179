import KotlinAssist.Json
import KotlinAssist.Number.Decimal

/-!
# JSON as text

A value is written without blanks.  In a text the quote, the backslash and the controls are written
after a backslash; every other character stands for itself.
-/

namespace KotlinAssist.Json

/-- The hexadecimal digits of a control, four of them. -/
def controlDigits (code : Nat) : List Char :=
  let digits := Nat.toDigits 16 code
  List.replicate (4 - digits.length) '0' ++ digits

/-- How one character is written inside quotes. -/
def printChar (c : Char) : List Char :=
  if c = '"' then ['\\', '"']
  else if c = '\\' then ['\\', '\\']
  else if c = '\n' then ['\\', 'n']
  else if c = '\r' then ['\\', 'r']
  else if c = '\t' then ['\\', 't']
  else if c.toNat < 0x20 then '\\' :: 'u' :: controlDigits c.toNat
  else [c]

/-- A text between quotes. -/
def printText (text : String) : List Char :=
  '"' :: text.toList.flatMap printChar ++ ['"']

mutual

/-- The characters of a value. -/
def print : Json → List Char
  | .null => "null".toList
  | .bool value => if value then "true".toList else "false".toList
  | .int value => (toString value).toList
  | .float negative size => (size.signedText negative).toList
  | .str text => printText text
  | .arr items => '[' :: printItems items ++ [']']
  | .obj fields => '\x7b' :: printFields fields ++ ['\x7d']

/-- The items of an array, divided by commas. -/
def printItems : List Json → List Char
  | [] => []
  | [item] => print item
  | item :: next :: rest => print item ++ ',' :: printItems (next :: rest)

/-- The fields of an object, divided by commas. -/
def printFields : List (String × Json) → List Char
  | [] => []
  | [(key, value)] => printText key ++ ':' :: print value
  | (key, value) :: next :: rest =>
    printText key ++ ':' :: print value ++ ',' :: printFields (next :: rest)

end

/-- A value as text. -/
def toText (json : Json) : String :=
  String.ofList json.print

end KotlinAssist.Json
