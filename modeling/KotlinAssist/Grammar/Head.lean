import KotlinAssist.Grammar.Modifier
import KotlinAssist.Text.WordChar

/-!
# Heads of declarations

The head of a declaration is its text from the start of the line to the declared name, with what
belongs to its signature after the name.  A head is kept as the pieces it is made of, so that the
columns of the name are the lengths of the pieces before it.

* A class, object or interface ends with its name.
* A function goes on with its parameters, which end at the first closing parenthesis or, when there
  is none, with the line.
* A property may go on with a colon and a type, and ends at an equals sign, at the word `by` or with
  the line.  The type is the shortest text that is followed by such an end.

## Main definitions

* `Head` — a head up to its name
* `FunctionHead` — with the parameters of a function
* `PropertyHead` — with the type and the end of a property
* `classHead?` — and its companions `objectHead?`, `interfaceHead?`, `functionHead?` and
  `propertyHead?`, read a head from a line
* `returnClause?` — the result type of a function
-/

namespace KotlinAssist.Grammar

open Text

/-- The pieces of a head up to its name. -/
structure Head where
  /-- Markers and modifiers. -/
  lead : List Char
  /-- What stands between the lead-in and the name. -/
  introducer : List Char
  /-- The declared name. -/
  name : List Char
  deriving DecidableEq

namespace Head

/-- The text up to the end of the name. -/
def text (head : Head) : List Char :=
  head.lead ++ head.introducer ++ head.name

/-- Column at which the name starts. -/
def nameStart (head : Head) : Nat :=
  head.lead.length + head.introducer.length

end Head

/-- Reads the rest of a head, a lead-in and an introducer having been read: the name. -/
def Head.read? (lead introducer text : List Char) : Option (Head × List Char) := do
  let (name, rest) ← name? text
  some (⟨lead, introducer, name⟩, rest)

/-- The head of a declaration that one word introduces. -/
def introducedHead? (word : String) (text : List Char) : Option Head := do
  let (lead, rest) := leadIn text
  let (introducer, rest) ← spacedWord? word rest
  let (head, _) ← Head.read? lead introducer rest
  some head

/-- The head of a class. -/
def classHead? : List Char → Option Head :=
  introducedHead? "class"

/-- The head of an object. -/
def objectHead? : List Char → Option Head :=
  introducedHead? "object"

/-- The head of an interface, a functional one included. -/
def interfaceHead? (text : List Char) : Option Head := do
  let (lead, rest) := leadIn text
  let (functional, rest) := optional (spacedWord? "fun") rest
  let (introducer, rest) ← spacedWord? "interface" rest
  let (head, _) ← Head.read? lead (functional ++ introducer) rest
  some head

/-! ### Functions -/

/-- The head of a function. -/
structure FunctionHead extends Head where
  /-- Blanks before the opening parenthesis. -/
  space : List Char
  /-- What stands between the parentheses. -/
  parameters : List Char
  /-- Whether the parameters are closed. -/
  closed : Bool
  /-- What follows the closing parenthesis; empty without one. -/
  rest : List Char
  deriving DecidableEq

namespace FunctionHead

/-- The closing parenthesis, if there is one. -/
def closing (head : FunctionHead) : List Char :=
  if head.closed then [')'] else []

/-- The text of the head up to the end of the parameters. -/
def matched (head : FunctionHead) : List Char :=
  head.text ++ head.space ++ '(' :: head.parameters ++ head.closing

end FunctionHead

/-- Whether a character can stand in the receiver type of a function. -/
def inFunctionReceiver (c : Char) : Bool :=
  isNamePart c || c == '<' || c == '>' || c == '?' || c == ',' || isBlank c

/-- Reads type parameters and the blanks after them. -/
def typeParameters? : Reader := fun text => do
  let (parameters, rest) ← bracketed? '<' '>' text
  let (space, rest) := blanks rest
  some (parameters ++ space, rest)

/-- The head of a function, with type parameters and a receiver type if it has them. -/
def functionHead? (text : List Char) : Option FunctionHead := do
  let (lead, rest) := leadIn text
  let (introducer, rest) ← spacedWord? "fun" rest
  let (generics, rest) := optional typeParameters? rest
  let (receiver, rest) := optional (qualifier? inFunctionReceiver) rest
  let (head, rest) ← Head.read? lead (introducer ++ generics ++ receiver) rest
  let (space, rest) := blanks rest
  match rest with
  | '(' :: rest =>
    some
      { head with
        space := space
        parameters := rest.takeWhile (· != ')')
        closed := rest.contains ')'
        rest := (rest.dropWhile (· != ')')).tail }
  | _ => none

/-- A colon with its blanks, and the type after it.  A type is never empty: when nothing but blanks
stands after the colon, the last of them is taken for it. -/
structure TypeClause where
  colon : List Char
  type : List Char
  deriving DecidableEq

namespace TypeClause

/-- The text of the clause. -/
def text (clause : TypeClause) : List Char :=
  clause.colon ++ clause.type

end TypeClause

/-- Reads a colon and the blanks around it. -/
def colon? : Reader := fun text => do
  let (before, rest) := blanks text
  let (colon, rest) ← word? ":" rest
  let (after, rest) := blanks rest
  some (before ++ colon ++ after, rest)

/-- The clause whose type is the last blank after the colon. -/
def blankClause? (colon : List Char) : Option TypeClause :=
  match colon.getLast? with
  | some c => if isBlank c then some ⟨colon.dropLast, [c]⟩ else none
  | none => none

/-- Whether a character can stand in the return type of a function. -/
def inReturnType (c : Char) : Bool :=
  c != '{' && c != '='

/-- The return type that follows the parameters of a function: all up to a brace or an equals
sign. -/
def returnClause? (text : List Char) : Option TypeClause := do
  let (colon, rest) ← colon? text
  match rest.takeWhile inReturnType with
  | [] => blankClause? colon
  | type => some ⟨colon, type⟩

/-! ### Properties -/

/-- The head of a property. -/
structure PropertyHead extends Head where
  /-- Whether the property is introduced by `var`. -/
  mutable : Bool
  /-- The declared type. -/
  clause : Option TypeClause
  /-- Blanks before the end of the head, and an equals sign or `by`. -/
  ending : List Char
  deriving DecidableEq

namespace PropertyHead

/-- The text of the head up to its end. -/
def matched (head : PropertyHead) : List Char :=
  head.text ++ (head.clause.map TypeClause.text).getD [] ++ head.ending

/-- The word that introduces the property. -/
def keyword (head : PropertyHead) : List Char :=
  if head.mutable then "var".toList else "val".toList

end PropertyHead

/-- Whether a character can stand in the receiver type of a property. -/
def inPropertyReceiver (c : Char) : Bool :=
  isNamePart c || c == '<' || c == '>' || c == '?'

/-- The end of a property head: blanks, and then an equals sign, the word `by` or the end of the
text.  The character before the text decides whether `by` starts a word. -/
def propertyEnd? (before : Char) (text : List Char) : Option (List Char) :=
  let (space, rest) := blanks text
  match rest with
  | [] => some space
  | '=' :: _ => some (space ++ ['='])
  | 'b' :: 'y' :: after =>
    if !isWordChar (space.getLast?.getD before) && endsWord after then some (space ++ ['b', 'y'])
    else none
  | _ => none

/-- The shortest non-empty type that is followed by the end of a property head, and that end. -/
def typeThenEnd? : List Char → Option (List Char × List Char)
  | [] => none
  | c :: rest =>
    if c = '=' then none
    else
      match propertyEnd? c rest with
      | some ending => some ([c], ending)
      | none => (typeThenEnd? rest).map fun (type, ending) => (c :: type, ending)

/-- A type clause of a property, and the end of its head. -/
def propertyClause? (text : List Char) : Option (TypeClause × List Char) := do
  let (colon, rest) ← colon? text
  match typeThenEnd? rest with
  | some (type, ending) => some (⟨colon, type⟩, ending)
  | none => do
    let clause ← blankClause? colon
    let ending ← propertyEnd? ' ' rest
    some (clause, ending)

/-- Reads the word that introduces a property; the first component tells `var`. -/
def propertyWord? (text : List Char) : Option (Bool × Reading) :=
  match spacedWord? "val" text with
  | some reading => some (false, reading)
  | none => (spacedWord? "var" text).map (true, ·)

/-- The head of a property. -/
def propertyHead? (text : List Char) : Option PropertyHead := do
  let (lead, rest) := leadIn text
  let (mutable, introducer, rest) ← propertyWord? rest
  let (receiver, rest) := optional (qualifier? inPropertyReceiver) rest
  let (head, rest) ← Head.read? lead (introducer ++ receiver) rest
  match propertyClause? rest with
  | some (clause, ending) =>
    some { head with mutable := mutable, clause := some clause, ending := ending }
  | none => do
    let last ← head.name.getLast?
    let ending ← propertyEnd? last rest
    some { head with mutable := mutable, clause := none, ending := ending }

end KotlinAssist.Grammar
