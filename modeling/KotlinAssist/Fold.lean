import KotlinAssist.Declaration
import KotlinAssist.Grammar.Import

/-!
# Folding regions

Five passes over a document find what can be folded: pairs of braces, bodies of functions, block
comments, runs of line comments and runs of imports.  A region spans more than one line, and a
function body is found by the first two passes alike.  Braces that close nothing, and braces and
comments that are never closed, give no region.

A line is sent with 32 bits, and is counted without a bound here: what is said about regions is said
of documents of fewer than `2 ^ 32` lines.

## Main definitions

* `BraceRegion.all` — pairs of braces, with the kind of block they enclose
* `FunctionRegion.all` — bodies of functions
* `CommentRegion.all` — block comments
* `LineRun.comments` — runs of line comments
* `LineRun.imports` — runs of imports
* `FoldingRange.all` — all regions, in the order of their first lines
-/

namespace KotlinAssist

open Text

/-- The lines from `first` to `last`, both included. -/
structure LineSpan where
  first : Nat
  last : Nat
  deriving DecidableEq

/-! ### Braces -/

/-- What a brace opens, judged by the line on which it stands. -/
inductive BlockKind where
  /-- The body of a class, interface or object. -/
  | typeBody
  /-- The body of a function. -/
  | function
  /-- Any other block. -/
  | block
  deriving DecidableEq

namespace BlockKind

/-- The word for a kind of block. -/
def label : BlockKind → String
  | .typeBody => "type"
  | .function => "function"
  | .block => "block"

/-- The kind of the blocks that open on a line. -/
def ofLine (index : Nat) (line : Line) : BlockKind :=
  match (Declaration.ofLine? index line).map Declaration.kind with
  | some .function => .function
  | some .property | none => .block
  | some _ => .typeBody

end BlockKind

/-- A pair of braces on different lines. -/
structure BraceRegion where
  span : LineSpan
  kind : BlockKind
  deriving DecidableEq

/-- The lines and kinds of the braces that are open, the innermost first. -/
abbrev BraceStack := List (Nat × BlockKind)

namespace BraceRegion

/-- Reads the braces of one line.  The result is the regions that end on the line and the braces
that are open after it. -/
def scan (index : Nat) (kind : BlockKind) (stack : BraceStack) :
    Line → List BraceRegion × BraceStack
  | [] => ([], stack)
  | c :: rest =>
    if c = '{' then scan index kind ((index, kind) :: stack) rest
    else if c = '}' then
      match stack with
      | [] => scan index kind [] rest
      | (first, opened) :: stack =>
        let (regions, stack) := scan index kind stack rest
        (if first < index then ⟨⟨first, index⟩, opened⟩ :: regions else regions, stack)
    else scan index kind stack rest

/-- The regions that end on lines numbered from `index` on. -/
def startingAt (index : Nat) (stack : BraceStack) : List Line → List BraceRegion
  | [] => []
  | line :: rest =>
    let (regions, stack) := scan index (.ofLine index line) stack line
    regions ++ startingAt (index + 1) stack rest

/-- The pairs of braces of a document, in the order of their ends. -/
def all (lines : List Line) : List BraceRegion :=
  startingAt 0 [] lines

end BraceRegion

/-! ### Functions -/

namespace FunctionRegion

/-- Number of open braces after a line, or nothing when the last of them is closed on it. -/
def depthAfter? (depth : Nat) : Line → Option Nat
  | [] => some depth
  | c :: rest =>
    if c = '{' then depthAfter? (depth + 1) rest
    else if c = '}' then if depth ≤ 1 then none else depthAfter? (depth - 1) rest
    else depthAfter? depth rest

/-- The line on which the last open brace is closed. -/
def closingLine? (index depth : Nat) : List Line → Option Nat
  | [] => none
  | line :: rest =>
    match depthAfter? depth line with
    | none => some index
    | some depth => closingLine? (index + 1) depth rest

/-- The body of a function declared on a line, from its first brace on; `below` holds the lines
after it. -/
def ofLine? (index : Nat) (line : Line) (below : List Line) : Option LineSpan := do
  if (Declaration.ofLine? index line).any (·.kind == .function) && line.contains '{' then
    let last ← closingLine? index 0 (line.dropWhile (· != '{') :: below)
    if index < last then some ⟨index, last⟩ else none
  else none

/-- The bodies of functions on lines numbered from `index` on. -/
def startingAt (index : Nat) : List Line → List LineSpan
  | [] => []
  | line :: rest => (ofLine? index line rest).toList ++ startingAt (index + 1) rest

/-- The bodies of the functions of a document. -/
def all (lines : List Line) : List LineSpan :=
  startingAt 0 lines

end FunctionRegion

/-! ### Comments -/

/-- A block comment on several lines. -/
structure CommentRegion where
  span : LineSpan
  /-- Whether the comment is a documentation comment. -/
  documentation : Bool
  deriving DecidableEq

namespace CommentRegion

/-- Whether a line leaves a block comment open, and whether that is a documentation comment.  Only
the first comment of a line is looked at. -/
def opens? (line : Line) : Option Bool :=
  match cutAt? "/*".toList line with
  | none => none
  | some (_, after) =>
    if occursIn "*/".toList after then none else some (after.head? == some '*')

/-- The comments that end on lines numbered from `index` on; `opened` is the line and the flag of
the comment that is open. -/
def startingAt (index : Nat) (opened : Option (Nat × Bool)) : List Line → List CommentRegion
  | [] => []
  | line :: rest =>
    match opened with
    | none => startingAt (index + 1) ((opens? line).map (index, ·)) rest
    | some (first, documentation) =>
      if occursIn "*/".toList line then
        ⟨⟨first, index⟩, documentation⟩ :: startingAt (index + 1) none rest
      else startingAt (index + 1) opened rest

/-- The block comments of a document that span several lines. -/
def all (lines : List Line) : List CommentRegion :=
  startingAt 0 none lines

end CommentRegion

/-! ### Runs of lines -/

namespace LineRun

/-- The least number of lines that fold together. -/
def minimum : Nat :=
  3

/-- The run from `first` up to, and not including, `stop`, if it is long enough. -/
def close (first stop : Nat) : List LineSpan :=
  if minimum ≤ stop - first then [⟨first, stop - 1⟩] else []

/-- The runs that end on lines numbered from `index` on; `first` is where the current run starts. -/
def startingAt (belongs : Line → Bool) (index : Nat) (first : Option Nat) :
    List Line → List LineSpan
  | [] => (first.map (close · index)).getD []
  | line :: rest =>
    if belongs (trim line) then startingAt belongs (index + 1) (some (first.getD index)) rest
    else (first.map (close · index)).getD [] ++ startingAt belongs (index + 1) none rest

/-- The runs of lines that, without the blanks at their ends, belong to a class of lines. -/
def all (belongs : Line → Bool) (lines : List Line) : List LineSpan :=
  startingAt belongs 0 none lines

/-- The runs of line comments. -/
def comments (lines : List Line) : List LineSpan :=
  all Grammar.isLineComment lines

/-- The runs of imports. -/
def imports (lines : List Line) : List LineSpan :=
  all Grammar.isImport lines

end LineRun

/-! ### All regions -/

/-- What a folding region is told to be. -/
inductive FoldKind where
  | region
  | comment
  | imports
  deriving DecidableEq

namespace FoldKind

/-- The name of a kind on the wire. -/
def label : FoldKind → String
  | .region => "region"
  | .comment => "comment"
  | .imports => "imports"

end FoldKind

/-- A region that can be folded. -/
structure FoldingRange where
  span : LineSpan
  kind : Option FoldKind
  deriving DecidableEq

namespace FoldingRange

/-- The regions of the five passes, one pass after the other. -/
def passes (lines : List Line) : List FoldingRange :=
  (BraceRegion.all lines).map (fun region => ⟨region.span, none⟩) ++
  (FunctionRegion.all lines).map (⟨·, some .region⟩) ++
  (CommentRegion.all lines).map (fun region => ⟨region.span, some .comment⟩) ++
  (LineRun.comments lines).map (⟨·, some .comment⟩) ++
  (LineRun.imports lines).map (⟨·, some .imports⟩)

/-- The regions of a document in the order of their first lines, and on one line in the order of
the passes. -/
def all (lines : List Line) : List FoldingRange :=
  (passes lines).mergeSort fun left right => left.span.first ≤ right.span.first

end FoldingRange

end KotlinAssist
