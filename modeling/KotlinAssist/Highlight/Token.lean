import KotlinAssist.Encoding
import KotlinAssist.Text.Span

/-!
# Highlighting tokens

A token is a piece of one line with a type and a set of modifiers, each given by its number in the
legend.  A list of tokens in document order is sent as differences: the line relative to the token
before, and the column relative to it when both stand on one line.

Lines, columns and lengths are sent with 32 bits each, and the numbers here have no bound.  Where a
statement about tokens does not carry the bound itself, it is one about documents of fewer than
`2 ^ 32` lines, each of fewer than `2 ^ 32` columns of the client.

## Main definitions

* `TokenType` — and `TokenModifier`, the legend
* `Token` — a token at its place
* `DeltaToken` — a token relative to the one before
* `Token.encode` — from places to differences
* `Token.decode` — from differences to places
* `Token.convert` — a token in the columns of a client
-/

namespace KotlinAssist

open Text

/-- The type of a token. -/
inductive TokenType where
  | keyword
  | modifier
  | typeName
  | className
  | interface
  | enumName
  | function
  | property
  | string
  | number
  | comment
  deriving DecidableEq

namespace TokenType

/-- The types in the order of the legend. -/
def all : List TokenType :=
  [keyword, modifier, typeName, className, interface, enumName, function, property, string,
   number, comment]

/-- The name of a type in the legend. -/
def label : TokenType → String
  | .keyword => "keyword"
  | .modifier => "modifier"
  | .typeName => "type"
  | .className => "class"
  | .interface => "interface"
  | .enumName => "enum"
  | .function => "function"
  | .property => "property"
  | .string => "string"
  | .number => "number"
  | .comment => "comment"

/-- The place of a type in the legend. -/
def code (type : TokenType) : Nat :=
  all.idxOf type

end TokenType

/-- A modifier of a token. -/
inductive TokenModifier where
  | declaration
  | readonly
  | abstract
  | async
  | documentation
  | defaultLibrary
  deriving DecidableEq

namespace TokenModifier

/-- The modifiers in the order of the legend. -/
def all : List TokenModifier :=
  [declaration, readonly, abstract, async, documentation, defaultLibrary]

/-- The name of a modifier in the legend. -/
def label : TokenModifier → String
  | .declaration => "declaration"
  | .readonly => "readonly"
  | .abstract => "abstract"
  | .async => "async"
  | .documentation => "documentation"
  | .defaultLibrary => "defaultLibrary"

/-- The bit of a modifier: that of its place in the legend. -/
def bit : TokenModifier → Nat
  | .declaration => 1
  | .readonly => 2
  | .abstract => 4
  | .async => 8
  | .documentation => 16
  | .defaultLibrary => 32

/-- The set of the given modifiers as a number. -/
def bits (modifiers : List TokenModifier) : Nat :=
  (all.filter modifiers.contains).foldr (fun modifier set => modifier.bit + set) 0

end TokenModifier

/-- A token at its place in the document. -/
structure Token where
  line : Nat
  start : Nat
  length : Nat
  type : Nat
  modifiers : Nat
  deriving DecidableEq

/-- A token placed relative to the one before. -/
structure DeltaToken where
  deltaLine : Nat
  deltaStart : Nat
  length : Nat
  type : Nat
  modifiers : Nat
  deriving DecidableEq

namespace Token

/-- The token of a span. -/
def ofSpan (line : Nat) (span : Span) (type : TokenType) (modifiers : List TokenModifier) :
    Token where
  line := line
  start := span.start
  length := span.stop - span.start
  type := type.code
  modifiers := TokenModifier.bits modifiers

/-- The column after the last character of a token. -/
def stop (token : Token) : Nat :=
  token.start + token.length

/-- A token relative to a place. -/
def relative (line start : Nat) (token : Token) : DeltaToken where
  deltaLine := token.line - line
  deltaStart := if token.line - line = 0 then token.start - start else token.start
  length := token.length
  type := token.type
  modifiers := token.modifiers

/-- The tokens relative to each other, and the first of them to a place. -/
def encodeFrom (line start : Nat) : List Token → List DeltaToken
  | [] => []
  | token :: rest => token.relative line start :: encodeFrom token.line token.start rest

/-- The tokens relative to each other, and the first of them to the start of a line. -/
def encode (tokens : List Token) (baseLine : Nat) : List DeltaToken :=
  encodeFrom baseLine 0 tokens

/-- The place of a token that is given relative to a place. -/
def absolute (line start : Nat) (token : DeltaToken) : Token where
  line := line + token.deltaLine
  start := if token.deltaLine = 0 then start + token.deltaStart else token.deltaStart
  length := token.length
  type := token.type
  modifiers := token.modifiers

/-- The places of tokens that are given relative to each other. -/
def decodeFrom (line start : Nat) : List DeltaToken → List Token
  | [] => []
  | delta :: rest =>
    let token := absolute line start delta
    token :: decodeFrom token.line token.start rest

/-- The places of tokens, the first given relative to the start of a line. -/
def decode (tokens : List DeltaToken) (baseLine : Nat) : List Token :=
  decodeFrom baseLine 0 tokens

/-- A token with its columns in the unit of a client.  A line that does not exist counts as
empty. -/
def convert (encoding : Encoding) (lines : List Line) (token : Token) : Token :=
  match encoding with
  | .utf32 => token
  | .utf16 =>
    let line := lines[token.line]?.getD []
    let start := unitOfChar line token.start
    { token with start := start, length := unitOfChar line token.stop - start }

end Token

end KotlinAssist
