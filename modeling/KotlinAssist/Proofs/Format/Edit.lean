import KotlinAssist.Proofs.Edit
import KotlinAssist.Proofs.Encoding.Columns
import KotlinAssist.Proofs.Format.Tidied
import KotlinAssist.Server.Query

/-!
# The edit that formats a document

The edit replaces everything, so its range has to reach exactly to the end of the text.  Its end is
found by counting line feeds, while the columns of a client are found in the lines of the text,
which know nothing of their endings.  The two agree: behind a final line feed there is no line any
more, and the position is left as it is; otherwise the last line is all that follows the last line
feed, and a carriage return at its end is one of its characters.

## Main definitions

* `Position.afterUnits` — the position behind some characters, in code units

## Main statements

* `endPosition_eq_after` — the end of the edit is the end of the text
* `Encoding.fromChars_after` — and it is so for a client that counts code units
* `formatting_edit_exact` — what the edit does, and what formatting leaves
-/

namespace KotlinAssist

open Text

/-! ## The end of a text -/

namespace Position

/-- The position behind one more character, with columns in code units. -/
def stepUnits (position : Position) (c : Char) : Position :=
  if c = '\n' then ⟨position.line + 1, 0⟩ else ⟨position.line, position.character + units16 c⟩

/-- The position behind the first characters of a document, with columns in code units. -/
def afterUnits (front : List Char) : Position :=
  front.foldl stepUnits ⟨0, 0⟩

theorem foldl_stepUnits_of_no_feed {line : List Char} (noFeed : '\n' ∉ line)
    (position : Position) :
    line.foldl stepUnits position = ⟨position.line, position.character + units line⟩ := by
  induction line generalizing position with
  | nil => rfl
  | cons c line ih =>
    rw [List.mem_cons, not_or] at noFeed
    rw [List.foldl_cons, stepUnits, if_neg (Ne.symm noFeed.1), ih noFeed.2, units]
    simp only [mk.injEq, true_and]
    omega

theorem afterUnits_of_no_feed {line : List Char} (noFeed : '\n' ∉ line) :
    afterUnits line = ⟨0, units line⟩ := by
  rw [afterUnits, foldl_stepUnits_of_no_feed noFeed, Nat.zero_add]

theorem stepUnits_below (position : Position) (c : Char) :
    position.below.stepUnits c = (position.stepUnits c).below := by
  simp only [stepUnits, below]
  split <;> rfl

theorem afterUnits_append_feed {front : List Char} (noFeed : '\n' ∉ front) (rest : List Char) :
    afterUnits (front ++ '\n' :: rest) = (afterUnits rest).below := by
  have shifted : ∀ position : Position,
      rest.foldl stepUnits position.below = (rest.foldl stepUnits position).below := by
    induction rest with
    | nil => exact fun _ => rfl
    | cons c rest ih =>
      intro position
      rw [List.foldl_cons, List.foldl_cons, stepUnits_below, ih]
  rw [afterUnits, List.foldl_append, foldl_stepUnits_of_no_feed noFeed, List.foldl_cons]
  exact shifted ⟨0, 0⟩

/-- The column behind a text is not larger than the length of the text. -/
theorem character_afterUnits_le (text : List Char) : (afterUnits text).character ≤ units text := by
  induction text using line_induction with
  | single line noFeed =>
    rw [afterUnits_of_no_feed noFeed]
  | more front rest noFeed ih =>
    rw [afterUnits_append_feed noFeed, units_append, units]
    show (afterUnits rest).character ≤ _
    omega

end Position

theorem endPosition_append_feed {front : List Char} (noFeed : '\n' ∉ front) (rest : List Char) :
    endPosition (front ++ '\n' :: rest) = (endPosition rest).below := by
  have feeds : (front ++ '\n' :: rest).count '\n' = rest.count '\n' + 1 := by
    rw [List.count_append, List.count_eq_zero_of_not_mem noFeed, List.count_cons_self, Nat.zero_add]
  have column : ((front ++ '\n' :: rest).reverse.takeWhile (· != '\n')) =
      rest.reverse.takeWhile (· != '\n') := by
    rw [List.reverse_append, List.reverse_cons, List.append_assoc, List.takeWhile_append]
    split
    · next all =>
      have whole := (List.takeWhile_prefix (· != '\n')).eq_of_length all
      rw [whole]
      exact List.append_nil _
    · rfl
  rw [endPosition, feeds, column]
  rfl

/-- **The end that is found by counting line feeds is the end of the text.** -/
theorem endPosition_eq_after (text : List Char) : endPosition text = .after text := by
  induction text using line_induction with
  | single line noFeed =>
    have all : line.reverse.takeWhile (· != '\n') = line.reverse := by
      rw [List.takeWhile_eq_self_iff]
      intro c member
      rw [bne_iff_ne]
      rintro rfl
      exact noFeed (List.mem_reverse.mp member)
    rw [endPosition, all, List.count_eq_zero_of_not_mem noFeed, List.length_reverse,
      Position.after_of_no_feed noFeed]
  | more front rest noFeed ih =>
    rw [endPosition_append_feed noFeed, ih, Position.after_append_feed noFeed]

namespace Encoding

/-- The lines below a line are converted as if it were not there. -/
theorem convert_below (encoding : Encoding) (column : Line → Nat → Nat) (line : Line)
    (document : List Line) (position : Position) :
    encoding.convert column (line :: document) position.below =
      (encoding.convert column document position).below := by
  have present : (line :: document)[position.below.line]? = document[position.line]? :=
    List.getElem?_cons_succ
  unfold convert
  rw [present]
  cases encoding with
  | utf16 => cases document[position.line]? <;> rfl
  | utf32 => rfl

/-- **The end of a text is the end of the text for a client that counts code units.**  As every
column, it is cut to the width that it has on the wire. -/
theorem fromChars_after (text : List Char) :
    Encoding.utf16.fromChars (splitLines text) (.after text) =
      ⟨(Position.afterUnits text).line, (Position.afterUnits text).character % columnLimit⟩ := by
  induction text using line_induction with
  | single line noFeed =>
    rw [Position.after_of_no_feed noFeed, Position.afterUnits_of_no_feed noFeed,
      splitLines_of_no_feed noFeed]
    split
    · next empty =>
      rw [empty]
      rfl
    · have column : unitOfChar line line.length = units line := by
        rw [unitOfChar_eq_units_take (Nat.le_refl _), List.take_length]
      show (⟨0, unitOfChar line line.length % columnLimit⟩ : Position) = _
      rw [column]
  | more front rest noFeed ih =>
    rw [Position.after_append_feed noFeed, Position.afterUnits_append_feed noFeed,
      splitLines_append_feed noFeed]
    show Encoding.utf16.convert unitOfChar _ _ = _
    rw [convert_below]
    exact congrArg Position.below ih

/-- The start of a document is its start for every client. -/
theorem fromChars_start (encoding : Encoding) (document : List Line) :
    encoding.fromChars document ⟨0, 0⟩ = ⟨0, 0⟩ := by
  unfold fromChars convert
  cases encoding with
  | utf32 => rfl
  | utf16 =>
    cases document with
    | nil => rfl
    | cons line document => cases line <;> rfl

end Encoding

/-! ## Replacing everything -/

/-- An edit of the whole text gives the text that it writes. -/
theorem applyAll_whole (text written : String) :
    TextEdit.applyAll [⟨⟨⟨0, 0⟩, .after text.toList⟩, written⟩] text = written := by
  have stop : offsetOf text.toList (.after text.toList) = text.toList.length := by
    have behind := offsetOf_after text.toList []
    rwa [List.append_nil] at behind
  have start : offsetOf text.toList ⟨0, 0⟩ = 0 := by
    show lineStart text.toList 0 + 0 = 0
    rw [lineStart]
  rw [TextEdit.applyAll]
  simp only [List.map_cons, List.map_nil, Range.offsets, start, stop, splice, Nat.sub_self,
    Nat.sub_zero, List.take_zero, List.nil_append, List.drop_length, List.append_nil,
    String.ofList_toList]

theorem formatEdit?_eq_none_iff (text : String) :
    formatEdit? text = none ↔ formatText text = text := by
  unfold formatEdit?
  dsimp only
  split
  · next same => exact ⟨fun _ => same, fun _ => rfl⟩
  · next differs =>
    constructor
    · intro missing
      cases missing
    · intro same
      exact absurd same differs

theorem formatEdit?_eq_some {text : String} {edit : TextEdit}
    (found : formatEdit? text = some edit) :
    edit = ⟨⟨⟨0, 0⟩, .after text.toList⟩, formatText text⟩ := by
  unfold formatEdit? at found
  dsimp only at found
  split at found
  · cases found
  · cases found
    rw [endPosition_eq_after]

/-- What a server sends when a document is to be formatted. -/
theorem answer_format {text : String} {edit : TextEdit} (found : formatEdit? text = some edit)
    (encoding : Encoding) (uri : Uri) :
    Query.format.answer encoding uri text =
      .edits [edit.mapRange (encoding.rangeFromChars (lines text))] := by
  unfold Query.answer
  simp only [Query.map, Query.answerInChars, found, Query.orNothing, Answer.mapRange,
    List.map_cons, List.map_nil]

/-- **The edit that formats a document is exact.**  It starts at the start of the text and ends at
its end, in characters and, as it is sent, in code units; it makes the formatted text, for which
there is no edit any more.  A text for which there is none is formatted.  A formatted text is empty
or has exactly one line feed at its end, behind a line that is not blank; its lines are the first
lines of the text without the blanks at their ends, and all further lines of the text are blank. -/
theorem formatting_edit_exact (uri : Uri) (text : String) :
    (∀ edit, formatEdit? text = some edit →
      edit.range = ⟨⟨0, 0⟩, .after text.toList⟩ ∧
      (∃ sent, Query.format.answer .utf16 uri text = .edits [sent] ∧
        sent.newText = edit.newText ∧ sent.range.start = ⟨0, 0⟩ ∧
        sent.range.stop = ⟨(Position.afterUnits text.toList).line,
          (Position.afterUnits text.toList).character % Encoding.columnLimit⟩ ∧
        (units text.toList < Encoding.columnLimit →
          sent.range.stop = .afterUnits text.toList)) ∧
      TextEdit.applyAll [edit] text = formatText text ∧
      formatEdit? (TextEdit.applyAll [edit] text) = none) ∧
    (formatEdit? text = none → text = formatText text) ∧
    (formatText text = "" ∨
      ∃ front c, (formatText text).toList = front ++ [c, '\n'] ∧ isBlank c = false) ∧
    ∃ kept rest, lines text = kept ++ rest ∧ lines (formatText text) = kept.map trimEnd ∧
      ∀ line ∈ rest, ∀ c ∈ line, isBlank c = true := by
  refine ⟨?_, ?_, formatText_eq_empty_or text, ?_⟩
  · intro edit found
    have stop := Encoding.fromChars_after text.toList
    have answered := answer_format found .utf16 uri
    have applied := applyAll_whole text (formatText text)
    rw [formatEdit?_eq_some found] at answered ⊢
    refine ⟨rfl, ⟨_, answered, rfl, Encoding.fromChars_start _ _, stop, ?_⟩, applied, ?_⟩
    · intro short
      have fits := Nat.lt_of_le_of_lt (Position.character_afterUnits_le text.toList) short
      rw [Nat.mod_eq_of_lt fits] at stop
      exact stop
    · rw [applied, formatEdit?_eq_none_iff, formatText_formatText]
  · intro missing
    exact ((formatEdit?_eq_none_iff text).mp missing).symm
  · obtain ⟨kept, rest, cut, formatted, blank⟩ := exists_kept_formatLines (lines text)
    refine ⟨kept, rest, cut, ?_, ?_⟩
    · rw [lines_formatText, formatted]
    · intro line member
      exact (trimEnd_eq_nil_iff line).mp (blank line member)

/-- Two carriage returns before a line feed and one at the end of the text, behind a character of
two code units: the last one is a character of the last line. -/
theorem formatting_edit_exact_astral :
    formatEdit? "x\r\r\n😀 \r" = some ⟨⟨⟨0, 0⟩, ⟨1, 3⟩⟩, "x\n😀\n"⟩ ∧
    TextEdit.applyAll [⟨⟨⟨0, 0⟩, ⟨1, 3⟩⟩, "x\n😀\n"⟩] "x\r\r\n😀 \r" = "x\n😀\n" ∧
    ∃ sent, Query.format.answer .utf16 "file:///a.kt" "x\r\r\n😀 \r" = .edits [sent] ∧
      sent.range.stop = ⟨1, 4⟩ := by
  have found : formatEdit? "x\r\r\n😀 \r" = some ⟨⟨⟨0, 0⟩, ⟨1, 3⟩⟩, "x\n😀\n"⟩ := by decide
  have exact := (formatting_edit_exact "file:///a.kt" "x\r\r\n😀 \r").1 _ found
  obtain ⟨-, ⟨sent, answered, -, -, -, fits⟩, applied, -⟩ := exact
  have stop : sent.range.stop = ⟨1, 4⟩ := fits (by decide)
  exact ⟨found, applied.trans (by decide), sent, answered, stop⟩

end KotlinAssist
