import KotlinAssist.Declaration
import KotlinAssist.Grammar.Literal
import KotlinAssist.Highlight.Comment
import KotlinAssist.Highlight.Token

/-!
# Highlighting a document

Comments, words of the vocabulary, the declared name and literals are found on each line on their
own.  They are put in the order of their starts, the longer first of two that start together, and
one that starts inside the token before it is dropped; so a comment or string hides what it
contains.  Only an open block comment is carried from line to line.

## Main definitions

* `Token.ofLine` — the tokens of a line
* `Token.ofLines` — the tokens of a document
* `Token.full` — the same as differences, for a client
* `Token.inRange` — those on the lines of a range
-/

namespace KotlinAssist

open Text

namespace Token

/-- Recognises a word: the identifier characters from here on. -/
def wordRun : Recogniser := fun _ text =>
  match text.takeWhile isIdentifierChar with
  | [] => none
  | word => some word.length

/-- The type and modifiers of a word of the vocabulary. -/
def ofVocabulary? (word : String) : Option (TokenType × List TokenModifier) :=
  if Vocabulary.isKeyword word then some (.keyword, [])
  else if Vocabulary.isModifier word then some (.modifier, [])
  else if Vocabulary.isBuiltinType word then some (.typeName, [.defaultLibrary])
  else none

/-- The token of a word.  A word that starts with a digit, or follows a dot, has none. -/
def ofWord? (index : Nat) (line : Line) (span : Span) : Option Token :=
  let word := span.slice line
  if word.head?.any Char.isDigit || (line.take span.start).getLast? == some '.' then none
  else
    (ofVocabulary? (String.ofList word)).map fun (type, modifiers) =>
      ofSpan index span type modifiers

/-- The words of the vocabulary on a line. -/
def words (index : Nat) (line : Line) : List Token :=
  (matchesOf wordRun line).filterMap (ofWord? index line)

/-- The comments of a line, and the comment left open. -/
def comments (index : Nat) (opened : OpenComment) (line : Line) : List Token × OpenComment :=
  let (spans, opened) := CommentSpan.ofLine opened line
  (spans.map fun comment =>
    ofSpan index comment.span .comment (if comment.documentation then [.documentation] else []),
   opened)

/-- The type of the name of a declaration. -/
def typeOfKind : DeclarationKind → TokenType
  | .plainClass | .object => .className
  | .interface => .interface
  | .enumClass => .enumName
  | .function => .function
  | .property => .property

/-- The modifiers of the name of a declaration. -/
def modifiersOf (declaration : Declaration) : List TokenModifier :=
  .declaration ::
    ((if declaration.kind == .property && !declaration.mutable then [.readonly] else []) ++
     (if declaration.modifiers.contains "abstract" then [.abstract] else []) ++
     (if declaration.modifiers.contains "suspend" then [.async] else []))

/-- The name declared on a line. -/
def declared? (index : Nat) (line : Line) : Option Token :=
  (Declaration.ofLine? index line).map fun declaration =>
    let selection := declaration.selection
    ofSpan index ⟨selection.start.character, selection.stop.character⟩
      (typeOfKind declaration.kind) (modifiersOf declaration)

/-- The literals of a line. -/
def literals (index : Nat) (line : Line) : List Token :=
  (Grammar.literals line).map fun literal =>
    let type := match literal.kind with
      | .string => TokenType.string
      | .number => TokenType.number
    ofSpan index literal.span type []

/-- Whether a token comes before another: by its start, the longer first. -/
def before (left right : Token) : Bool :=
  left.start < right.start || (left.start == right.start && right.length ≤ left.length)

/-- Drops the empty tokens and those that start before a column, the end of the token before. -/
def dropHidden (column : Nat) : List Token → List Token
  | [] => []
  | token :: rest =>
    if token.length = 0 || token.start < column then dropHidden column rest
    else token :: dropHidden token.stop rest

/-- The tokens of a line without overlaps, and the comment left open. -/
def ofLine (index : Nat) (opened : OpenComment) (line : Line) : List Token × OpenComment :=
  let (found, opened) := comments index opened line
  let found := found ++ words index line ++ (declared? index line).toList ++ literals index line
  (dropHidden 0 (found.mergeSort before), opened)

/-- The tokens of lines numbered from `index` on. -/
def startingAt (index : Nat) (opened : OpenComment) : List Line → List Token
  | [] => []
  | line :: rest =>
    let (tokens, opened) := ofLine index opened line
    tokens ++ startingAt (index + 1) opened rest

/-- The tokens of a document, in document order. -/
def ofLines (lines : List Line) : List Token :=
  startingAt 0 none lines

/-- The tokens of a document as they are sent to a client. -/
def full (encoding : Encoding) (lines : List Line) : List DeltaToken :=
  encode ((ofLines lines).map (convert encoding lines)) 0

/-- The tokens on the lines of a range as they are sent to a client, relative to its first line. -/
def inRange (encoding : Encoding) (lines : List Line) (range : Range) : List DeltaToken :=
  let first := range.start.line
  let last := max range.stop.line first
  let tokens := (ofLines lines).filter fun token => first ≤ token.line && token.line ≤ last
  encode (tokens.map (convert encoding lines)) first

end Token

end KotlinAssist
