import KotlinAssist.Hover
import KotlinAssist.Json
import KotlinAssist.Text.Case

/-!
# Completion

Four groups are offered, one after the other: the reserved words and modifiers that start with what
has been typed, the built-in types that do, all functions and all properties of the document.  Upper
and lower case are taken together.  A name is offered once in its group, as it is first declared.

An item carries the document and the group it comes from, so that its documentation can be looked up
later.

## Main definitions

* `Candidate.all` — what is offered, in order
* `completions` — the items at a position
* `CompletionData` — what an item carries
* `CompletionItem.resolve` — an item with its documentation
-/

namespace KotlinAssist

open Text

/-- The group of a completion item. -/
inductive CompletionCategory where
  | keyword
  | type
  | function
  | property
  deriving DecidableEq

namespace CompletionCategory

/-- All groups, in the order in which they are offered. -/
def all : List CompletionCategory :=
  [keyword, type, function, property]

/-- The name of a group. -/
def label : CompletionCategory → String
  | .keyword => "keyword"
  | .type => "type"
  | .function => "function"
  | .property => "property"

/-- The place of a group in the order. -/
def rank (category : CompletionCategory) : Nat :=
  all.idxOf category

/-- The kind of an item of a group, as a number on the wire. -/
def kindCode : CompletionCategory → Int
  | .keyword => 14
  | .type => 7
  | .function => 3
  | .property => 6

/-- The group of a given name. -/
def ofLabel? (label : String) : Option CompletionCategory :=
  all.find? (·.label == label)

end CompletionCategory

/-- A text that is shown as it is, or as markdown. -/
inductive Markup where
  | text (value : String)
  | plain (value : String)
  | markdown (value : String)
  deriving DecidableEq

/-- A completion item, as it is sent to a client and comes back. -/
structure CompletionItem where
  label : String
  kind : Option Int := none
  detail : Option String := none
  documentation : Option Markup := none
  insertText : Option String := none
  insertTextFormat : Option Int := none
  sortText : Option String := none
  data : Option Json := none
  /-- Further fields, which are handed back as they came. -/
  carried : List (String × Json) := []

/-- What an item carries to be found again. -/
structure CompletionData where
  uri : Uri
  category : CompletionCategory
  deriving DecidableEq

namespace CompletionData

/-- The data as it is sent. -/
def toJson (data : CompletionData) : Json :=
  .obj [("uri", .str data.uri), ("category", .str data.category.label)]

/-- The data from its two parts. -/
def ofParts? (uri category : Json) : Option CompletionData := do
  let uri ← uri.str?
  let category ← category.choice?.bind CompletionCategory.ofLabel?
  if Uri.isAbsolute uri then some ⟨uri, category⟩ else none

/-- The data of an object with the two parts as fields, or of an array of exactly the two parts. -/
def ofJson? : Json → Option CompletionData
  | .obj fields => do ofParts? (← fields.lookup "uri") (← fields.lookup "category")
  | .arr [uri, category] => ofParts? uri category
  | _ => none

end CompletionData

/-- What is offered, before it is placed in the list. -/
structure Candidate where
  category : CompletionCategory
  label : String
  detail : String
  insertText : Option String := none
  deriving DecidableEq

namespace Candidate

/-- Whether a word starts with what has been typed, upper and lower case taken together. -/
def startsWith (typed : List Char) (word : String) : Bool :=
  (lower typed).isPrefixOf (lower word.toList)

/-- The reserved words and modifiers. -/
def keywords (typed : List Char) : List Candidate :=
  ((Vocabulary.keywords ++ Vocabulary.modifiers).filter (startsWith typed)).map fun word =>
    ⟨.keyword, word, if Vocabulary.isModifier word then "modifier" else "keyword", none⟩

/-- The built-in types. -/
def types (typed : List Char) : List Candidate :=
  (Vocabulary.builtinTypes.filter (startsWith typed)).map fun name =>
    ⟨.type, name, "built-in type", none⟩

/-- The functions of a document. -/
def functions (declarations : List Declaration) : List Candidate :=
  (declarations.filter (·.kind == .function)).map fun declaration =>
    ⟨.function, declaration.name, declaration.render, some (declaration.name ++ "()")⟩

/-- The properties of a document. -/
def properties (declarations : List Declaration) : List Candidate :=
  (declarations.filter (·.kind == .property)).map fun declaration =>
    let mutability := if declaration.mutable then "mutable" else "immutable"
    ⟨.property, declaration.name, s!"{declaration.render} ({mutability})", none⟩

/-- Of several candidates of one group and label, the first. -/
def distinct : List Candidate → List Candidate
  | [] => []
  | candidate :: rest =>
    candidate :: (distinct rest).filter fun other =>
      !(other.category == candidate.category && other.label == candidate.label)

/-- All candidates of a document. -/
def all (lines : List Line) (typed : List Char) : List Candidate :=
  let declarations := Declaration.ofLines lines
  distinct (keywords typed ++ types typed ++ functions declarations ++ properties declarations)

/-- A number with at least four digits. -/
def fourDigits (number : Nat) : String :=
  let digits := Nat.toDigits 10 number
  String.ofList (List.replicate (4 - digits.length) '0' ++ digits)

/-- The item of a candidate at a place of the list. -/
def toItem (uri : Uri) (candidate : Candidate) (place : Nat) : CompletionItem where
  label := candidate.label
  kind := some candidate.category.kindCode
  detail := some candidate.detail
  insertText := candidate.insertText
  insertTextFormat := some 1
  sortText := some s!"{candidate.category.rank}_{fourDigits place}"
  data := some (CompletionData.mk uri candidate.category).toJson

end Candidate

/-- The completions at a position; none outside the document. -/
def completions (uri : Uri) (lines : List Line) (position : Position) : List CompletionItem :=
  match lines[position.line]?.bind (typedAt? · position.character) with
  | none => []
  | some typed => (Candidate.all lines typed).mapIdx fun place candidate =>
      candidate.toItem uri place

namespace CompletionItem

/-- The data that an item carries, if it can be understood. -/
def data? (item : CompletionItem) : Option CompletionData :=
  item.data.bind CompletionData.ofJson?

/-- The hover text of the first declaration of a kind with the label of an item. -/
def declared? (item : CompletionItem) (kind : DeclarationKind) (lines : List Line) :
    Option Markup :=
  let found := (Declaration.ofLines lines).find? fun declaration =>
    declaration.kind == kind && declaration.name == item.label
  found.map fun declaration => .markdown (Hover.ofDeclaration lines declaration)

/-- The documentation of an item; `lines` is the document it comes from, if that is open. -/
def documentation? (item : CompletionItem) (category : CompletionCategory)
    (lines : Option (List Line)) : Option Markup :=
  match category with
  | .keyword =>
    some (.text ((Vocabulary.keywordDoc? item.label).getD s!"Kotlin keyword `{item.label}`."))
  | .type => some (.text s!"Built-in Kotlin type `{item.label}`.")
  | .function => lines.bind (item.declared? .function)
  | .property => lines.bind (item.declared? .property)

/-- An item with its documentation.  Without any, or without data, it stays as it is. -/
def resolve (item : CompletionItem) (lines : Option (List Line)) : CompletionItem :=
  match item.data?.bind fun data => item.documentation? data.category lines with
  | none => item
  | some documentation => { item with documentation := some documentation }

end CompletionItem

end KotlinAssist
