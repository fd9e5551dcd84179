import KotlinAssist.Text.Span
import KotlinAssist.Text.WordChar

/-!
# Literals

A string stands between double quotes, a character between single quotes; a backslash takes the next
character with it.  A number is hexadecimal, binary or decimal, the last with an optional fraction
and exponent, and may end with one suffix letter.  It neither starts nor ends inside a word: of the
texts that could be the number, the longest one that a word boundary follows is taken.

## Main definitions

* `stringLiteral` — recognises strings and characters
* `numberLiteral` — recognises numbers
* `literals` — the literals of a line
-/

namespace KotlinAssist.Grammar

open Text

/-- Length of the rest of a string, its closing quote included. -/
def stringTail? : List Char → Option Nat
  | [] => none
  | '"' :: _ => some 1
  | '\\' :: c :: rest => if c = '\n' then none else (stringTail? rest).map (· + 2)
  | c :: rest => if c = '\\' then none else (stringTail? rest).map (· + 1)

/-- Length of the rest of a character literal, its closing quote included. -/
def charTail? : List Char → Option Nat
  | '\\' :: c :: '\x27' :: _ => if c = '\n' then none else some 3
  | c :: '\x27' :: _ => if c = '\x27' ∨ c = '\\' then none else some 2
  | _ => none

/-- Recognises a string or character literal. -/
def stringLiteral : Recogniser
  | _, '"' :: rest => (stringTail? rest).map (· + 1)
  | _, '\x27' :: rest => (charTail? rest).map (· + 1)
  | _, _ => none

/-- Whether a character can stand in a hexadecimal number. -/
def isHexPart (c : Char) : Bool :=
  c.isDigit || ('a' ≤ c && c ≤ 'f') || ('A' ≤ c && c ≤ 'F') || c == '_'

/-- Whether a character can stand in a binary number. -/
def isBinaryPart (c : Char) : Bool :=
  c == '0' || c == '1' || c == '_'

/-- Whether a character can stand in a decimal number. -/
def isDecimalPart (c : Char) : Bool :=
  c.isDigit || c == '_'

/-- Whether a letter can end a number. -/
def isNumberSuffix (c : Char) : Bool :=
  c == 'f' || c == 'F' || c == 'L' || c == 'u' || c == 'U'

/-- What follows a run of at least one character of a class. -/
def afterRun? (inside : Char → Bool) : List Char → Option (List Char)
  | [] => none
  | c :: rest => if inside c then some (rest.dropWhile inside) else none

/-- What follows a fraction. -/
def afterFraction? : List Char → Option (List Char)
  | '.' :: rest => afterRun? Char.isDigit rest
  | _ => none

/-- What follows an exponent. -/
def afterExponent? : List Char → Option (List Char)
  | c :: rest =>
    if c = 'e' ∨ c = 'E' then
      match rest with
      | sign :: digits =>
        if sign = '+' ∨ sign = '-' then afterRun? Char.isDigit digits
        else afterRun? Char.isDigit rest
      | [] => none
    else none
  | [] => none

/-- What follows the suffix letter of a number. -/
def afterSuffix? : List Char → Option (List Char)
  | c :: rest => if isNumberSuffix c then some rest else none
  | [] => none

/-- The text with a part taken, if it is there, and then the text without. -/
def withOptional (part : List Char → Option (List Char)) (text : List Char) :
    List (List Char) :=
  (part text).toList ++ [text]

/-- What may follow a number without its suffix, the longest number first. -/
def numberBodies : List Char → List (List Char)
  | [] => []
  | c :: rest =>
    let radix :=
      match c, rest with
      | '0', x :: digits =>
        if x = 'x' ∨ x = 'X' then (afterRun? isHexPart digits).toList
        else if x = 'b' ∨ x = 'B' then (afterRun? isBinaryPart digits).toList
        else []
      | _, _ => []
    let decimal :=
      if c.isDigit then
        (withOptional afterFraction? (rest.dropWhile isDecimalPart)).flatMap
          (withOptional afterExponent?)
      else []
    radix ++ decimal

/-- Recognises a number. -/
def numberLiteral : Recogniser := fun before text =>
  if before.any isWordChar then none
  else
    (((numberBodies text).flatMap (withOptional afterSuffix?)).find? endsWord).map
      (text.length - ·.length)

/-- Whether a literal is a text or a number. -/
inductive LiteralKind where
  | string
  | number
  deriving DecidableEq

/-- A literal of a line. -/
structure Literal where
  kind : LiteralKind
  span : Span
  deriving DecidableEq

/-- The literals of a line in the order of their starts.  A number that starts inside a string is
none; comments are not looked at. -/
def literals (line : List Char) : List Literal :=
  let strings := matchesOf stringLiteral line
  let numbers := (matchesOf numberLiteral line).filter fun number =>
    !strings.any (·.covers number.start)
  let found := strings.map (Literal.mk .string) ++ numbers.map (Literal.mk .number)
  found.mergeSort fun left right => left.span.start ≤ right.span.start

end KotlinAssist.Grammar
