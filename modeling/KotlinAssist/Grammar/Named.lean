import KotlinAssist.Grammar.Head

/-!
# Lines that declare a given name

To find where a name is declared, a line is asked whether it declares exactly that name.  The name
is any text, so blanks before it may be part of it and every way to divide the line is tried.  The
name has to end there: no identifier character may follow a type or a property, and a function goes
on with its parenthesis.

## Main definitions

* `declaresType` — for classes, objects and interfaces
* `declaresFunction` — for functions
* `declaresProperty` — for properties
* `declares` — for any of them
-/

namespace KotlinAssist.Grammar

open Text

/-- What may follow at least one blank: the text after one blank, after two, and so on. -/
def afterBlanks : List Char → List (List Char)
  | [] => []
  | c :: rest => if isBlank c then rest :: afterBlanks rest else []

/-- What follows a fixed word. -/
def afterWord (word : String) (text : List Char) : List (List Char) :=
  ((word? word text).map (·.2)).toList

/-- A text, and what follows a reader's piece of it. -/
def maybeAfter (reader : Reader) (text : List Char) : List (List Char) :=
  text :: ((reader text).map (·.2)).toList

/-- Whether a character continues a declared name: an identifier character of the edition of Unicode
that the grammar follows. -/
def continuesName (c : Char) : Bool :=
  inEarlierEdition c && isIdentifierChar c

/-- Whether a text starts with a name that no character continues. -/
def startsWithName (name text : List Char) : Bool :=
  match stripFront? name text with
  | none => false
  | some rest => !rest.head?.any continuesName

/-- Whether a text starts with a name and a parenthesis, perhaps with blanks between them. -/
def startsWithCall (name text : List Char) : Bool :=
  match stripFront? name text with
  | none => false
  | some rest => (trimStart rest).head? == some '('

/-- Whether a line declares a class, interface or object of a given name. -/
def declaresType (name line : List Char) : Bool :=
  let (_, rest) := leadIn line
  let (_, afterFun) := optional (spacedWord? "fun") rest
  let starts :=
    afterWord "class" rest ++ afterWord "interface" afterFun ++ afterWord "object" rest
  (starts.flatMap afterBlanks).any (startsWithName name)

/-- Whether a line declares a function of a given name. -/
def declaresFunction (name line : List Char) : Bool :=
  let (_, rest) := leadIn line
  let starts := (afterWord "fun" rest).flatMap afterBlanks
  let generic := starts.flatMap fun start =>
    ((bracketed? '<' '>' start).map (·.2)).toList.flatMap fun after =>
      after :: afterBlanks after
  ((starts ++ generic).flatMap (maybeAfter (qualifier? inFunctionReceiver))).any
    (startsWithCall name)

/-- Whether a line declares a property of a given name. -/
def declaresProperty (name line : List Char) : Bool :=
  let (_, rest) := leadIn line
  let starts := (afterWord "val" rest ++ afterWord "var" rest).flatMap afterBlanks
  (starts.flatMap (maybeAfter (qualifier? inPropertyReceiver))).any (startsWithName name)

/-- Whether a line declares a given name. -/
def declares (name line : List Char) : Bool :=
  declaresType name line || declaresFunction name line || declaresProperty name line

end KotlinAssist.Grammar
