import KotlinAssist.Declaration

/-!
# Documentation comments

A documentation block belongs to a declaration when it stands directly above it, at most one blank
line between them.  It is closed by a line that holds nothing but the closing mark, opened by a line
that starts with the opening mark, and each line between starts with a star.

The lines of a block are read as a description, which runs up to the first tag, and tags.  A line
that starts with an at sign opens a tag, and the lines up to the next tag continue it.

## Main definitions

* `DocComment.blockAbove?` — the lines of the block above a line
* `DocComment.ofBody` — the description and tags of those lines
* `DocComment.render` — the block as markdown
* `Declaration.documentation?` — all three, for a declaration
-/

namespace KotlinAssist

open Text

/-- A tag of a documentation block. -/
structure DocTag where
  name : String
  /-- What the tag is about, such as the parameter described. -/
  subject : Option String
  text : String
  deriving DecidableEq

/-- The content of a documentation block. -/
structure DocComment where
  description : String
  tags : List DocTag
  deriving DecidableEq

namespace DocComment

/-- Whether a block says nothing. -/
def isEmpty (doc : DocComment) : Bool :=
  doc.description.isEmpty && doc.tags.isEmpty

/-- The tags of a given name. -/
def tagged (doc : DocComment) (name : String) : List DocTag :=
  doc.tags.filter (·.name == name)

/-! ### Finding a block -/

/-- Collects a block from the line above its closing mark upwards; `body` holds the lines already
collected.  A line that neither opens the block nor starts with a star breaks it. -/
def collect? (body : List Line) : List Line → Option (List Line)
  | [] => none
  | line :: above =>
    let text := trim line
    match stripFront? "/**".toList text with
    | some rest => some (if (trim rest).isEmpty then body else rest :: body)
    | none => if text.head? = some '*' then collect? (text :: body) above else none

/-- The block that ends with the first of the given lines, which are listed upwards. -/
def blockEndingAt? : List Line → Option (List Line)
  | [] => none
  | line :: above => if trim line = "*/".toList then collect? [] above else none

/-- The lines of the block above a line.  They keep their leading stars. -/
def blockAbove? (lines : List Line) (index : Nat) : Option (List Line) :=
  if lines.length < index then none
  else
    match (lines.take index).reverse with
    | [] => none
    | line :: above =>
      if (trim line).isEmpty then blockEndingAt? above else blockEndingAt? (line :: above)

/-! ### Reading a block -/

/-- A text without a given first character. -/
def dropFirst (c : Char) : List Char → List Char
  | [] => []
  | d :: rest => if d = c then rest else d :: rest

/-- A line of a block without its star, the blank after it and the blanks at its end. -/
def stripMarker (line : Line) : Line :=
  trimEnd (dropFirst ' ' (dropFirst '*' (trim line)))

/-- The first word of a text, and the rest without blanks at its ends. -/
def splitWord (text : List Char) : List Char × List Char :=
  let text := trimStart text
  (text.takeWhile fun c => !isBlank c, trim (text.dropWhile fun c => !isBlank c))

/-- The tags whose first word is their subject. -/
def subjectTags : List String :=
  ["param", "property", "throws", "exception", "sample", "see"]

/-- The text of a tag with a further line.  An empty line adds nothing. -/
def continueText (text : List Char) (line : Line) : List Char :=
  if line.isEmpty then text
  else if text.isEmpty then trim line
  else text ++ ' ' :: trim line

/-- The tag that a line opens, its at sign removed, and further lines continue. -/
def readTag (line : Line) (further : List Line) : DocTag :=
  let (name, rest) := splitWord line
  let name := String.ofList name
  let (subject, text) := if subjectTags.contains name then splitWord rest else ([], rest)
  { name := name
    subject := if subject.isEmpty then none else some (String.ofList subject)
    text := String.ofList (further.foldl continueText text) }

/-- One step of reading a block from its last line upwards.  The state holds the lines that no tag
has taken yet and the tags found. -/
def readStep (line : Line) (state : List Line × List DocTag) : List Line × List DocTag :=
  match line with
  | '@' :: rest => ([], readTag rest state.1 :: state.2)
  | _ => (line :: state.1, state.2)

/-- Joins the lines of a description; `pending` tells whether an empty line stands between what has
been joined and the next line.  Lines are joined by a blank, paragraphs by an empty line. -/
def joinFrom (joined : List Char) (pending : Bool) : List Line → List Char
  | [] => joined
  | line :: rest =>
    if line.isEmpty then joinFrom joined (!joined.isEmpty) rest
    else
      let gap := if pending then ['\n', '\n'] else if joined.isEmpty then [] else [' ']
      joinFrom (joined ++ gap ++ line) false rest

/-- Joins the lines of a description. -/
def joinParagraphs (lines : List Line) : List Char :=
  joinFrom [] false lines

/-- Reads the lines of a block. -/
def ofBody (body : List Line) : DocComment :=
  let (description, tags) := (body.map stripMarker).foldr readStep ([], [])
  ⟨String.ofList (joinParagraphs description), tags⟩

/-! ### Showing a block -/

/-- A tag as an item of a list. -/
def item (tag : DocTag) : String :=
  match tag.subject with
  | none => s!"- {tag.text}"
  | some subject =>
    if tag.text.isEmpty then s!"- `{subject}`" else s!"- `{subject}`: {tag.text}"

/-- A titled list of tags; nothing without tags. -/
def itemSection (title : String) (tags : List DocTag) : List String :=
  if tags.isEmpty then [] else [title ++ "\n" ++ "\n".intercalate (tags.map item)]

/-- The section on the constructor of a class. -/
def constructorSection (doc : DocComment) : List String :=
  match doc.tagged "constructor" with
  | [] => []
  | tag :: _ => if tag.text.isEmpty then [] else [s!"**Constructor**: {tag.text}"]

/-- The sections that belong to a kind of declaration.  A function shows what it throws, a class its
properties and constructor; parameters and results of functions are not shown. -/
def kindSections (kind : DeclarationKind) (doc : DocComment) : List String :=
  match kind with
  | .function =>
    itemSection "**Throws**" (doc.tagged "throws" ++ doc.tagged "exception")
  | .plainClass | .enumClass =>
    itemSection "**Properties**" (doc.tagged "property" ++ doc.tagged "param") ++
      doc.constructorSection
  | .interface | .object | .property => []

/-- The references of a block to other declarations. -/
def seeSection (doc : DocComment) : List String :=
  match (doc.tagged "see").filterMap (·.subject) with
  | [] => []
  | subjects => ["*See also:* " ++ ", ".intercalate (subjects.map fun subject => s!"`{subject}`")]

/-- A block as markdown for a kind of declaration. -/
def render (kind : DeclarationKind) (doc : DocComment) : String :=
  let description := if doc.description.isEmpty then [] else [doc.description]
  "\n\n".intercalate (description ++ kindSections kind doc ++ doc.seeSection)

end DocComment

namespace Declaration

/-- The documentation of a declaration as markdown, if it has any. -/
def documentation? (lines : List Line) (declaration : Declaration) : Option String := do
  let body ← DocComment.blockAbove? lines declaration.line
  let rendered := (DocComment.ofBody body).render declaration.kind
  if rendered.isEmpty then none else some rendered

end Declaration

end KotlinAssist
