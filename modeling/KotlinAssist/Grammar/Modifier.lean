import KotlinAssist.Grammar.Scan
import KotlinAssist.Vocabulary

/-!
# What stands before a declaration

Markers such as `@Test` or `@Named("x")` come first, then modifiers such as `private` or `data`;
each is followed by blanks.  Reading as many as possible is right: no modifier starts another, and
none starts a word that introduces a declaration.
-/

namespace KotlinAssist.Grammar

open Text

/-- Reads a marker: an at sign, a name, perhaps arguments in parentheses, and blanks. -/
def marker? : Reader
  | '@' :: text => do
    let (name, rest) ← name? text
    let (arguments, rest) := optional (bracketed? '(' ')') rest
    match blanks rest with
    | ([], _) => none
    | (space, rest) => some ('@' :: name ++ arguments ++ space, rest)
  | _ => none

/-- Reads a modifier and the blanks after it. -/
def modifier? : Reader := fun text =>
  Vocabulary.modifiers.findSome? (spacedWord? · text)

/-- Reads all markers and modifiers before a declaration. -/
def leadIn (text : List Char) : Reading :=
  let (markers, rest) := many marker? text
  let (modifiers, rest) := many modifier? rest
  (markers ++ modifiers, rest)

/-- The modifiers among the words of a lead-in.  A modifier that stands alone inside the arguments
of a marker counts too. -/
def modifierWords (lead : List Char) : List String :=
  ((words lead).map String.ofList).filter Vocabulary.isModifier

end KotlinAssist.Grammar
