import KotlinAssist.Grammar.Head

/-!
# Declarations

A declaration is recognised from one line, its blanks at both ends set aside.  A line is read as a
class first, then as an object, an interface, a function and a property; the first reading that fits
counts, so a line declares at most one name.  Lines are not looked at in context: a line inside a
string or comment is read like any other.

## Main definitions

* `Declaration` — what one line declares
* `Declaration.ofLine?` — reads a line
* `Declaration.ofLines` — reads a document
* `Declaration.render` — writes the signature
-/

namespace KotlinAssist

open Text Grammar

/-- What a declaration declares. -/
inductive DeclarationKind where
  | plainClass
  | interface
  | function
  | property
  | object
  | enumClass
  deriving DecidableEq

namespace DeclarationKind

/-- The word used for the kind in messages. -/
def label : DeclarationKind → String
  | .plainClass => "class"
  | .interface => "interface"
  | .function => "function"
  | .property => "property"
  | .object => "object"
  | .enumClass => "enum"

/-- Whether the kind declares a type. -/
def isTypeLike : DeclarationKind → Bool
  | .plainClass | .interface | .object | .enumClass => true
  | .function | .property => false

/-- All kinds. -/
def all : List DeclarationKind :=
  [.plainClass, .interface, .function, .property, .object, .enumClass]

/-- The kind with a given label. -/
def ofLabel? (label : String) : Option DeclarationKind :=
  all.find? (·.label == label)

end DeclarationKind

/-- A declared name and what its line says about it. -/
structure Declaration where
  name : String
  kind : DeclarationKind
  /-- The line of the declaration. -/
  line : Nat
  /-- The whole line. -/
  range : Range
  /-- The name only. -/
  selection : Range
  /-- The modifiers in order. -/
  modifiers : List String
  /-- The line without the blanks at its ends. -/
  signature : String
  /-- The parameters of a function, without parentheses. -/
  parameters : Option String
  /-- The return type of a function, or the type of a property. -/
  declaredType : Option String
  /-- Whether the declaration is a `var` property. -/
  mutable : Bool
  deriving DecidableEq

namespace Declaration

/-- The text of a type clause without blanks at its ends, if anything is left. -/
def typeText? (clause : TypeClause) : Option String :=
  match trim clause.type with
  | [] => none
  | type => some (String.ofList type)

/-- The declaration of a head that stands on a given line. -/
def ofHead (index : Nat) (line : Line) (kind : DeclarationKind) (head : Head) : Declaration :=
  let start := indentation line + head.nameStart
  { name := String.ofList head.name
    kind := kind
    line := index
    range := .wholeLine index line
    selection := .onLine index start (start + head.name.length)
    modifiers := modifierWords head.lead
    signature := String.ofList (trim line)
    parameters := none
    declaredType := none
    mutable := false }

/-- A class is an enumeration when `enum` is among its modifiers. -/
def ofClass (index : Nat) (line : Line) (head : Head) : Declaration :=
  let kind := if (modifierWords head.lead).contains "enum" then .enumClass else .plainClass
  ofHead index line kind head

/-- The return type of a function whose parameters are closed. -/
def returnType? (head : FunctionHead) : Option String :=
  if head.closed then (returnClause? head.rest).bind typeText? else none

/-- The declaration of a function. -/
def ofFunction (index : Nat) (line : Line) (head : FunctionHead) : Declaration :=
  { ofHead index line .function head.toHead with
    parameters := some (String.ofList (trim head.parameters))
    declaredType := returnType? head }

/-- The declaration of a property. -/
def ofProperty (index : Nat) (line : Line) (head : PropertyHead) : Declaration :=
  { ofHead index line .property head.toHead with
    declaredType := head.clause.bind typeText?
    mutable := head.mutable }

/-- The declaration that stands on a line. -/
def ofLine? (index : Nat) (line : Line) : Option Declaration :=
  let text := trim line
  ((classHead? text).map (ofClass index line)) <|>
  ((objectHead? text).map (ofHead index line .object)) <|>
  ((interfaceHead? text).map (ofHead index line .interface)) <|>
  ((functionHead? text).map (ofFunction index line)) <|>
  ((propertyHead? text).map (ofProperty index line))

/-- The declarations of a document, in line order. -/
def ofLines (lines : List Line) : List Declaration :=
  lines.zipIdx.filterMap fun (line, index) => ofLine? index line

/-- The type of a declaration as it stands in a signature. -/
def typeSuffix (declaration : Declaration) : String :=
  match declaration.declaredType with
  | none => ""
  | some type => ": " ++ type

/-- What a signature says after the modifiers. -/
def body (declaration : Declaration) : String :=
  match declaration.kind with
  | .plainClass | .enumClass => "class " ++ declaration.name
  | .interface => "interface " ++ declaration.name
  | .object => "object " ++ declaration.name
  | .function =>
    "fun " ++ declaration.name ++ "(" ++
      String.ofList (trim (declaration.parameters.getD "").toList) ++ ")" ++
      declaration.typeSuffix
  | .property =>
    (if declaration.mutable then "var " else "val ") ++ declaration.name ++
      declaration.typeSuffix

/-- The signature of a declaration on one line, such as `fun greet(name: String): String`. -/
def render (declaration : Declaration) : String :=
  String.join (declaration.modifiers.map (· ++ " ")) ++ declaration.body

end Declaration

end KotlinAssist
