import KotlinAssist.Identifier
import KotlinAssist.Text.Blank

/-!
# Reading the start of a text

A reader takes a piece off the start of a text and returns it with the rest, or nothing when the
text does not start that way.  Each reader here takes as much as it can.  That is all that is needed
to recognise the head of a declaration, because no shorter piece could be continued: a name is not
followed by a character of names, blanks are not followed by a blank, and a bracket is closed at the
first closing bracket.

## Main definitions

* `Reader` — what takes a piece off the start of a text
* `name?` — reads a name
* `blanks` — reads blanks
* `spacedWord?` — reads a fixed word and the blanks after it
* `bracketed?` — reads a bracket up to the one that closes it
* `qualifier?` — reads a receiver type and its dot
* `many` — reads pieces as long as there are any
-/

namespace KotlinAssist.Grammar

open Text

/-- What a reader takes, and the rest. -/
abbrev Reading := List Char × List Char

/-- Takes a piece off the start of a text. -/
abbrev Reader := List Char → Option Reading

/-- Reads a name. -/
def name? : Reader
  | [] => none
  | c :: rest =>
    if isNameStart c then some (c :: rest.takeWhile isNamePart, rest.dropWhile isNamePart)
    else none

/-- Reads blanks, possibly none. -/
def blanks (text : List Char) : Reading :=
  (text.takeWhile isBlank, text.dropWhile isBlank)

/-- Reads a fixed word. -/
def word? (word : String) : Reader := fun text =>
  (stripFront? word.toList text).map (word.toList, ·)

/-- Reads a fixed word and the blanks after it, of which there is at least one. -/
def spacedWord? (word : String) : Reader := fun text => do
  let (taken, rest) ← word? word text
  match blanks rest with
  | ([], _) => none
  | (space, rest) => some (taken ++ space, rest)

/-- Reads an opening bracket and all up to the first closing one. -/
def bracketed? (opening closing : Char) : Reader
  | [] => none
  | c :: rest =>
    if c = opening then
      match rest.dropWhile (· != closing) with
      | [] => none
      | close :: after => some (c :: rest.takeWhile (· != closing) ++ [close], after)
    else none

/-- Reads a qualifier: a name-start character, characters of the given class, and a dot. -/
def qualifier? (inside : Char → Bool) : Reader
  | [] => none
  | c :: rest =>
    if isNameStart c then
      match rest.dropWhile inside with
      | '.' :: after => some (c :: rest.takeWhile inside ++ ['.'], after)
      | _ => none
    else none

/-- Reads nothing where a reader finds nothing. -/
def optional (reader : Reader) (text : List Char) : Reading :=
  (reader text).getD ([], text)

/-- Applies a reader as long as it finds something, and joins what it takes. -/
def many (reader : Reader) (text : List Char) : Reading :=
  match reader text with
  | none => ([], text)
  | some (taken, rest) =>
    if rest.length < text.length then
      let (more, last) := many reader rest
      (taken ++ more, last)
    else ([], text)
termination_by text.length

/-- Blanks and what follows them make up the text. -/
theorem blanks_append (text : List Char) : (blanks text).1 ++ (blanks text).2 = text := by
  simp [blanks, List.takeWhile_append_dropWhile]

end KotlinAssist.Grammar
