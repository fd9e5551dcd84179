import KotlinAssist.Proofs.Highlight.Comments

/-!
# Comments read character by character

The comments of a line can be told by a lexer that walks over its characters and remembers where it
is: outside of comments, in a line comment or in a block comment.  Outside, it looks for a mark that
starts a comment; in a block comment, for the mark that closes it, which takes no character of the
opening mark.  At the end of the line it gives away the part of a comment that it is in, and enters
the next line with the block comment that is open.

Dividing a text at its first comment finds the same comments: the walk passes over the characters
before the comment, and from then on it is in the comment up to its closing mark.

## Main definitions

* `CommentLexer` — where the walk is
* `CommentLexer.read` — what it finds on a line, and what it takes to the next
* `CommentSpan.ofLines` — the comments of a document and what is open behind each line

## Main statements

* `CommentLexer.read_block` — in a block comment the walk ends at the first closing mark
* `CommentLexer.read_code` — outside of comments it finds what divides the text
* `CommentLexer.ofLines_eq_readLines` — the comments of a document are those of the lexer
-/

namespace KotlinAssist

open Text

/-- Where a lexer is in a line. -/
inductive CommentLexer where
  /-- Outside of comments. -/
  | code
  /-- In a line comment that starts at a column. -/
  | lineComment (start : Nat)
  /-- In a block comment that starts at a column, or has its part on the line from there on. -/
  | blockComment (start : Nat) (documentation : Bool)

namespace CommentLexer

/-- Where a line starts. -/
def resume : OpenComment → CommentLexer
  | none => .code
  | some documentation => .blockComment 0 documentation

/-- Whether the opening mark before a text opens a documentation comment: a star follows, and no
slash follows the star. -/
def opensDocumentation (after : List Char) : Bool :=
  after[0]? == some '*' && after[1]? != some '/'

/-- The part of a comment that stands between two columns, unless it is empty. -/
def piece (start stop : Nat) (documentation : Bool) : List CommentSpan :=
  if start < stop then [⟨⟨start, stop⟩, documentation⟩] else []

/-- Walks over a text that starts at a column.  The result is the comments, or parts of comments,
and the block comment that is open at the end. -/
def read (column : Nat) : CommentLexer → List Char → List CommentSpan × OpenComment
  | .code, '/' :: '/' :: rest => read (column + 2) (.lineComment column) rest
  | .code, '/' :: '*' :: rest =>
    read (column + 2) (.blockComment column (opensDocumentation rest)) rest
  | .code, _ :: rest => read (column + 1) .code rest
  | .code, [] => ([], none)
  | .lineComment start, _ :: rest => read (column + 1) (.lineComment start) rest
  | .lineComment start, [] => (piece start column false, none)
  | .blockComment start documentation, '*' :: '/' :: rest =>
    let (found, left) := read (column + 2) .code rest
    (⟨⟨start, column + 2⟩, documentation⟩ :: found, left)
  | .blockComment start documentation, _ :: rest =>
    read (column + 1) (.blockComment start documentation) rest
  | .blockComment start documentation, [] => (piece start column documentation, some documentation)

/-- Walks over lines, and takes the block comment that is open from each to the next. -/
def readLines (opened : OpenComment) : List Line → List (List CommentSpan × OpenComment)
  | [] => []
  | line :: rest =>
    let (found, left) := read 0 (resume opened) line
    (found, left) :: readLines left rest

end CommentLexer

/-- The comments of each of the lines, and the comment that is open behind it. -/
def CommentSpan.ofLines (opened : OpenComment) : List Line → List (List CommentSpan × OpenComment)
  | [] => []
  | line :: rest =>
    let (found, left) := ofLine opened line
    (found, left) :: ofLines left rest

namespace CommentLexer

/-! ## In a comment -/

/-- A line comment takes all that is left. -/
theorem read_line (column start : Nat) (text : List Char) :
    read column (.lineComment start) text = (piece start (column + text.length) false, none) := by
  induction text generalizing column with
  | nil => rfl
  | cons c rest ih =>
    rw [read, ih, List.length_cons, Nat.add_assoc, Nat.add_comm 1]

/-- **A block comment ends at its first closing mark**, or goes on behind the text. -/
theorem read_block (column start : Nat) (documentation : Bool) (text : List Char) :
    read column (.blockComment start documentation) text =
      match cutAt? "*/".toList text with
      | none => (piece start (column + text.length) documentation, some documentation)
      | some (inside, rest) =>
        let stop := column + inside.length + 2
        (⟨⟨start, stop⟩, documentation⟩ :: (read stop .code rest).1, (read stop .code rest).2) := by
  induction text generalizing column with
  | nil => rfl
  | cons c text ih =>
    by_cases here : "*/".toList <+: c :: text
    · obtain ⟨rest, whole⟩ := here
      have marked : cutAt? "*/".toList ("*/".toList ++ rest) = some ([], rest) :=
        cutAt?_of_prefix (List.cons_ne_nil _ _) rest
      rw [← whole, marked]
      rfl
    · have elsewhere : ∀ rest, c = '*' → text = '/' :: rest → False := by
        rintro rest rfl rfl
        exact here (List.prefix_append "*/".toList rest)
      have passed : read column (.blockComment start documentation) (c :: text) =
          read (column + 1) (.blockComment start documentation) text := by
        rw [read]
        exact elsewhere
      rw [passed, ih, cutAt?_cons_of_not_prefix here]
      cases cutAt? "*/".toList text with
      | none => simp only [Option.map_none, List.length_cons, Nat.add_assoc, Nat.add_comm 1]
      | some cut =>
        simp only [Option.map_some, List.length_cons, Nat.add_assoc, Nat.add_comm 1]

/-! ## Outside of comments -/

/-- The walk passes over a character at which no comment starts. -/
theorem read_code_cons {c : Char} {text : List Char}
    (nothing : CommentSpan.comment none (c :: text) = none) (column : Nat) :
    read column .code (c :: text) = read (column + 1) .code text := by
  rw [read]
  · rintro rest rfl rfl
    exact CommentSpan.comment_line_mark rest nothing
  · rintro rest rfl rfl
    exact CommentSpan.comment_block_mark rest nothing

theorem read_code_append {code rest : List Char} (clear : CommentSpan.Clear code rest)
    (column : Nat) :
    read column .code (code ++ rest) = read (column + code.length) .code rest := by
  induction code generalizing column with
  | nil => rfl
  | cons c code ih =>
    obtain ⟨nothing, clear⟩ := clear
    rw [List.cons_append, read_code_cons nothing, ih clear, List.length_cons, Nat.add_assoc,
      Nat.add_comm 1]

/-! ## Documentation comments -/

/-- The two characters behind an opening mark tell what the comment is. -/
theorem isDocumentation_mark (after : List Char) :
    CommentSpan.isDocumentation ('/' :: '*' :: after) = opensDocumentation after := by
  cases after with
  | nil => rfl
  | cons c after =>
    by_cases star : c = '*'
    · subst star
      cases after with
      | nil => rfl
      | cons d after =>
        by_cases slash : d = '/'
        · subst slash
          rfl
        · simp [CommentSpan.isDocumentation, opensDocumentation, slash]
    · simp [CommentSpan.isDocumentation, opensDocumentation, star]

/-- The same for a comment that is closed, where these characters may belong to the closing mark. -/
theorem isDocumentation_block (inside tail : List Char) :
    CommentSpan.isDocumentation (CommentSpan.block inside) =
      opensDocumentation (inside ++ "*/".toList ++ tail) := by
  have long : 2 ≤ (inside ++ "*/".toList).length := by
    rw [List.length_append]
    exact Nat.le_add_left 2 inside.length
  rw [CommentSpan.block, isDocumentation_mark, opensDocumentation, opensDocumentation,
    List.getElem?_append_left (Nat.lt_of_lt_of_le Nat.zero_lt_two long),
    List.getElem?_append_left (Nat.lt_of_lt_of_le Nat.one_lt_two long)]

/-! ## The comments of a line -/

/-- A comment that takes the rest of a line behind its mark is a part that is not empty. -/
theorem piece_mark (column : Nat) (code : List Char) (c d : Char) (rest : List Char)
    (documentation : Bool) :
    piece (column + code.length) (column + code.length + 2 + rest.length) documentation =
      [⟨(Span.after code (c :: d :: rest)).shift column, documentation⟩] := by
  have filled : column + code.length < column + code.length + 2 + rest.length := by omega
  have stop : column + code.length + 2 + rest.length =
      column + (code.length + (c :: d :: rest).length) := by
    simp only [List.length_cons]
    omega
  rw [piece, if_pos filled, stop]
  rfl

/-- A comment that takes a whole line is a part unless the line is empty. -/
theorem piece_line (line : Line) (documentation : Bool) :
    piece 0 line.length documentation =
      if line.isEmpty then [] else [⟨⟨0, line.length⟩, documentation⟩] := by
  cases line with
  | nil => rfl
  | cons c rest => rfl

/-- **Outside of comments the walk finds the comments that divide the text.** -/
theorem read_code (column : Nat) (text : List Char) :
    read column .code text = CommentSpan.inCode column text := by
  induction length : text.length using Nat.strong_induction_on generalizing column text with
  | _ bound ih =>
    cases CommentSpan.division text with
    | clear _ clear =>
      have passed := read_code_append clear column
      rw [List.append_nil] at passed
      rw [passed, CommentSpan.inCode_of_clear clear]
      rfl
    | line code rest clear =>
      rw [read_code_append clear, CommentSpan.inCode_line clear, read, read_line,
        piece_mark column code '/' '/' rest]
    | left code after clear unclosed =>
      rw [read_code_append clear, CommentSpan.inCode_left clear unclosed, read, read_block,
        unclosed, isDocumentation_mark]
      simp only [piece_mark column code '/' '*' after]
    | closed code inside tail clear cut =>
      have shorter : tail.length < bound := by
        rw [← length, List.length_append, List.length_append, CommentSpan.length_block]
        omega
      have later (column : Nat) : read column .code tail = CommentSpan.inCode column tail :=
        ih tail.length shorter column tail rfl
      have stop : column + code.length + 2 + inside.length + 2 =
          column + (code.length + (CommentSpan.block inside).length) := by
        rw [CommentSpan.length_block]
        omega
      have opening : read (column + code.length) .code (CommentSpan.block inside ++ tail) =
          read (column + code.length + 2)
            (.blockComment (column + code.length)
              (opensDocumentation (inside ++ "*/".toList ++ tail)))
            (inside ++ "*/".toList ++ tail) :=
        rfl
      rw [read_code_append clear, CommentSpan.inCode_closed clear cut, opening, read_block, cut,
        isDocumentation_block inside tail]
      simp only [stop, later, List.length_append]
      rfl

/-- **A line is read as the lexer reads it.** -/
theorem ofLine_eq_read (opened : OpenComment) (line : Line) :
    CommentSpan.ofLine opened line = read 0 (resume opened) line := by
  cases opened with
  | none => exact (read_code 0 line).symm
  | some documentation =>
    rw [resume, read_block]
    cases cut : cutAt? "*/".toList line with
    | none =>
      rw [CommentSpan.ofLine_unclosed cut, Nat.zero_add]
      simp only [piece_line]
    | some divided =>
      simp only [CommentSpan.ofLine_closed cut, Nat.zero_add, read_code]

/-- The comments of a document are those of the lexer, and so is what is open behind each line. -/
theorem ofLines_eq_readLines (opened : OpenComment) (document : List Line) :
    CommentSpan.ofLines opened document = readLines opened document := by
  induction document generalizing opened with
  | nil => rfl
  | cons line rest ih =>
    rw [CommentSpan.ofLines, readLines, ofLine_eq_read]
    simp only [ih]

end CommentLexer

end KotlinAssist
