/-!
# Spans found in a line

`matchesOf recognise line` reads a line from the left.  Where `recognise` accepts a text of some
length at the current character, that span is reported and the search goes on after it; otherwise it
goes on at the next character.  The spans are therefore in order and disjoint, and each starts at
the first place where one can start.  Searching for a fixed text, for literals and for words are all
instances.

## Main definitions

* `Span` — a piece of a line, given by two columns
* `Recogniser` — what is looked for at a column
* `matchesOf` — the spans that a recogniser finds
* `occurrences` — the spans of a fixed text
* `cutAt?` — a text divided at the first occurrence of another
-/

namespace KotlinAssist.Text

/-- The characters of a line from `start` up to, and not including, `stop`. -/
structure Span where
  start : Nat
  stop : Nat
  deriving DecidableEq

namespace Span

/-- The characters that a span covers. -/
def slice (span : Span) (line : List Char) : List Char :=
  (line.drop span.start).take (span.stop - span.start)

/-- Whether a column lies inside a span. -/
def covers (span : Span) (column : Nat) : Bool :=
  span.start ≤ column && column < span.stop

end Span

/-- What is looked for: given the character before the current one, if there is one, and the text
from the current one on, the length of the text recognised there. -/
abbrev Recogniser := Option Char → List Char → Option Nat

/-- The spans found from column `column` on, where `before` is the preceding character and the next
`skip` characters belong to the span found last. -/
def matchesFrom (recognise : Recogniser) (column skip : Nat) (before : Option Char) :
    List Char → List Span
  | [] => []
  | c :: rest =>
    match skip with
    | skip + 1 => matchesFrom recognise (column + 1) skip (some c) rest
    | 0 =>
      match recognise before (c :: rest) with
      | some length =>
        ⟨column, column + length⟩ ::
          matchesFrom recognise (column + 1) (length - 1) (some c) rest
      | none => matchesFrom recognise (column + 1) 0 (some c) rest

/-- The spans of a line that a recogniser finds, from left to right and without overlap. -/
def matchesOf (recognise : Recogniser) (line : List Char) : List Span :=
  matchesFrom recognise 0 0 none line

/-- Recognises one fixed text. -/
def fixedText (needle : List Char) : Recogniser := fun _ text =>
  if needle.isPrefixOf text then some needle.length else none

/-- The occurrences of a text in a line, from left to right and without overlap.  The empty text
occurs nowhere. -/
def occurrences (needle line : List Char) : List Span :=
  if needle.isEmpty then [] else matchesOf (fixedText needle) line

/-- What follows a text at the start of another, if it stands there. -/
def stripFront? : List Char → List Char → Option (List Char)
  | [], text => some text
  | _ :: _, [] => none
  | c :: needle, d :: text => if c = d then stripFront? needle text else none

/-- What stands before and after the first occurrence of a text. -/
def cutAt? (needle : List Char) : List Char → Option (List Char × List Char)
  | [] => if needle.isEmpty then some ([], []) else none
  | c :: rest =>
    match stripFront? needle (c :: rest) with
    | some after => some ([], after)
    | none => (cutAt? needle rest).map fun cut => (c :: cut.1, cut.2)

/-- Whether a text occurs in another. -/
def occursIn (needle text : List Char) : Bool :=
  (cutAt? needle text).isSome

/-- A text has another at its start exactly if it is that other text and what is left. -/
theorem stripFront?_eq_some_iff {needle text rest : List Char} :
    stripFront? needle text = some rest ↔ text = needle ++ rest := by
  induction needle generalizing text with
  | nil => simp [stripFront?]
  | cons c needle ih =>
    cases text with
    | nil => simp [stripFront?]
    | cons d text =>
      by_cases same : c = d
      · simp [stripFront?, same, ih]
      · simp [stripFront?, same, Ne.symm same]

/-- Cutting a text loses nothing but the needle. -/
theorem append_of_cutAt? {needle text before after : List Char}
    (found : cutAt? needle text = some (before, after)) :
    text = before ++ needle ++ after := by
  induction text generalizing before with
  | nil =>
    simp only [cutAt?] at found
    split at found
    · next none_left =>
      simp_all
    · simp at found
  | cons c rest ih =>
    simp only [cutAt?] at found
    split at found
    · next here =>
      simp only [Option.some.injEq, Prod.mk.injEq] at found
      obtain ⟨rfl, rfl⟩ := found
      simpa using stripFront?_eq_some_iff.1 here
    · obtain ⟨cut, later, same⟩ := Option.map_eq_some_iff.1 found
      simp only [Prod.mk.injEq] at same
      obtain ⟨rfl, rfl⟩ := same
      simpa using ih later

end KotlinAssist.Text
