/-!
# Positions, ranges and edits

Lines are counted from zero, and so are columns.  Inside the library a column is a number of
characters; `Encoding` converts to and from the columns of a client.  A range ends before its
`stop`.

On the wire a line and a column have 32 bits each.  Here they have no bound, and no line or column
that is found in a document is cut; so what is said about places in a document is said of documents
of fewer than `2 ^ 32` lines, each of fewer than `2 ^ 32` characters.  Only the conversion to and
from the columns of a client is cut: see `Encoding.columnLimit`.

The name of a document is taken as already parsed and in normal form: it is kept as it was sent, and
two names are those of one document exactly if they are the same text.  What a reader of names would
rewrite, such as a host in capitals or the dots in a path, is not rewritten here; `Uri.isAbsolute`
only tells whether a text is a name at all.
-/

namespace KotlinAssist

/-- A place between two characters of a document. -/
structure Position where
  line : Nat
  character : Nat
  deriving DecidableEq

/-- The text between two positions. -/
structure Range where
  start : Position
  stop : Position
  deriving DecidableEq

namespace Range

/-- A range on one line. -/
def onLine (line start stop : Nat) : Range :=
  ⟨⟨line, start⟩, ⟨line, stop⟩⟩

/-- The range of a whole line. -/
def wholeLine (line : Nat) (text : List Char) : Range :=
  onLine line 0 text.length

/-- The empty range at the start of a document. -/
def zero : Range :=
  onLine 0 0 0

end Range

/-- The name of a document. -/
abbrev Uri := String

namespace Uri

/-- Whether a character can stand in a scheme. -/
def inScheme (c : Char) : Bool :=
  c.isAlphanum || c == '+' || c == '-' || c == '.'

/-- The schemes whose names need a host. -/
def hostSchemes : List String :=
  ["http", "https", "ws", "wss", "ftp"]

/-- Whether a host follows the colon of a scheme, after any number of slashes. -/
def hasHost (text : List Char) : Bool :=
  match text.dropWhile fun c => c == '/' || c == '\\' with
  | [] => false
  | c :: _ => c != '?' && c != '#' && c != ':'

/-- Whether a text is an absolute name: it starts with a scheme and a colon, and has a host if the
scheme needs one. -/
def isAbsolute (uri : Uri) : Bool :=
  let scheme := uri.toList.takeWhile inScheme
  match scheme, uri.toList.dropWhile inScheme with
  | c :: _, ':' :: rest =>
    c.isAlpha &&
      (!hostSchemes.contains (String.ofList (scheme.map Char.toLower)) || hasHost rest)
  | _, _ => false

end Uri

/-- A range of a document. -/
structure Location where
  uri : Uri
  range : Range
  deriving DecidableEq

/-- Replaces the text of a range. -/
structure TextEdit where
  range : Range
  newText : String
  deriving DecidableEq

/-- The edits of several documents. -/
structure WorkspaceEdit where
  changes : List (Uri × List TextEdit)
  deriving DecidableEq

end KotlinAssist
