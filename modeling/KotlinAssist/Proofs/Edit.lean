import KotlinAssist.Position
import KotlinAssist.Proofs.Text.Lines
import KotlinAssist.Text.Span

/-!
# Applying edits

A client applies the edits of an answer to the text that it has, all at once: each range names
characters of the text before any edit.  A position is a line and a column, so it is first turned
into an offset, which counts the characters of all earlier lines and of their endings.

## Main definitions

* `Position.after` — the position behind some characters
* `offsetOf` — the number of characters before a position
* `TextEdit.applyAll` — a text after edits that are in document order

## Main statements

* `offsetOf_after` — positions and offsets name the same places
* `prefix_of_applyAll_onLine` — what becomes of a line when a part of it is replaced
-/

namespace KotlinAssist

open Text

/-! ## Positions and offsets -/

namespace Position

/-- The position behind one more character. -/
def step (position : Position) (c : Char) : Position :=
  if c = '\n' then ⟨position.line + 1, 0⟩ else ⟨position.line, position.character + 1⟩

/-- The position behind the first characters of a document. -/
def after (front : List Char) : Position :=
  front.foldl step ⟨0, 0⟩

/-- The same column, one line further down. -/
def below (position : Position) : Position :=
  ⟨position.line + 1, position.character⟩

theorem step_below (position : Position) (c : Char) :
    position.below.step c = (position.step c).below := by
  simp only [step, below]
  split <;> rfl

theorem foldl_step_of_no_feed {line : List Char} (noFeed : '\n' ∉ line) (position : Position) :
    line.foldl step position = ⟨position.line, position.character + line.length⟩ := by
  induction line generalizing position with
  | nil => rfl
  | cons c line ih =>
    rw [List.mem_cons, not_or] at noFeed
    rw [List.foldl_cons, step, if_neg (Ne.symm noFeed.1), ih noFeed.2, List.length_cons]
    simp only [mk.injEq, true_and]
    omega

theorem after_of_no_feed {line : List Char} (noFeed : '\n' ∉ line) :
    after line = ⟨0, line.length⟩ := by
  rw [after, foldl_step_of_no_feed noFeed, Nat.zero_add]

/-- Behind a line feed, positions are counted as in the rest, one line further down. -/
theorem after_append_feed {front : List Char} (noFeed : '\n' ∉ front) (rest : List Char) :
    after (front ++ '\n' :: rest) = (after rest).below := by
  have shifted : ∀ position : Position,
      rest.foldl step position.below = (rest.foldl step position).below := by
    induction rest with
    | nil => exact fun _ => rfl
    | cons c rest ih =>
      intro position
      rw [List.foldl_cons, List.foldl_cons, step_below, ih]
  rw [after, List.foldl_append, foldl_step_of_no_feed noFeed, List.foldl_cons]
  exact shifted ⟨0, 0⟩

end Position

/-- The number of characters before a line: those of the earlier lines and of their endings. -/
def lineStart : List Char → Nat → Nat
  | _, 0 => 0
  | [], _ + 1 => 0
  | c :: rest, line + 1 =>
    if c = '\n' then lineStart rest line + 1 else lineStart rest (line + 1) + 1

/-- The number of characters before a position. -/
def offsetOf (text : List Char) (position : Position) : Nat :=
  lineStart text position.line + position.character

/-- The characters of a text that a range names. -/
def Range.offsets (text : List Char) (range : Range) : Span :=
  ⟨offsetOf text range.start, offsetOf text range.stop⟩

theorem lineStart_append_feed {front : List Char} (noFeed : '\n' ∉ front) (rest : List Char)
    (line : Nat) :
    lineStart (front ++ '\n' :: rest) (line + 1) = front.length + 1 + lineStart rest line := by
  induction front with
  | nil =>
    rw [List.nil_append, lineStart, if_pos rfl, List.length_nil]
    omega
  | cons c front ih =>
    rw [List.mem_cons, not_or] at noFeed
    rw [List.cons_append, lineStart, if_neg (Ne.symm noFeed.1), ih noFeed.2, List.length_cons]
    omega

/-- **The offset of the position behind some characters is their number**, whatever follows. -/
theorem offsetOf_after (front rest : List Char) :
    offsetOf (front ++ rest) (.after front) = front.length := by
  induction front using line_induction with
  | single line noFeed =>
    rw [Position.after_of_no_feed noFeed, offsetOf, lineStart, Nat.zero_add]
  | more first front noFeed ih =>
    rw [offsetOf] at ih
    rw [Position.after_append_feed noFeed, offsetOf, Position.below, List.append_assoc,
      List.cons_append, lineStart_append_feed noFeed, List.length_append, List.length_cons]
    dsimp only
    omega

/-! ## Edits -/

/-- A text after edits in increasing order that do not overlap: up to each edit the text is kept, the
edit's own text is written, and what it replaces is left out.  The spans count from the start of the
document, of which the text is the part from `offset` on. -/
def splice (offset : Nat) : List (Span × List Char) → List Char → List Char
  | [], text => text
  | (span, written) :: edits, text =>
    text.take (span.start - offset) ++ written ++
      splice span.stop edits (text.drop (span.stop - offset))

/-- Text before the first edit is kept. -/
theorem splice_append {offset : Nat} {edits : List (Span × List Char)} {front : List Char}
    (rest : List Char)
    (behind : ∀ edit ∈ edits, offset + front.length ≤ edit.1.start ∧ edit.1.start ≤ edit.1.stop) :
    splice offset edits (front ++ rest) = front ++ splice (offset + front.length) edits rest := by
  cases edits with
  | nil => rfl
  | cons edit edits =>
    -- only the first edit measures from the start of the text, so one case is enough
    obtain ⟨above, ordered⟩ := behind edit List.mem_cons_self
    have toStart : edit.1.start - offset = front.length + (edit.1.start - (offset + front.length)) := by
      omega
    have toStop : edit.1.stop - offset = front.length + (edit.1.stop - (offset + front.length)) := by
      omega
    simp only [splice]
    rw [toStart, toStop, List.take_length_add_append, List.drop_length_add_append,
      List.append_assoc, List.append_assoc, List.append_assoc]

/-- What a client has after it has applied the edits of one document, in document order. -/
def TextEdit.applyAll (edits : List TextEdit) (text : String) : String :=
  .ofList (splice 0 (edits.map fun edit => (edit.range.offsets text.toList, edit.newText.toList))
    text.toList)

/-! ## An edit within one line -/

/-- Replacing a part of a line, seen from the whole text. -/
theorem replace_append {line rest written : List Char} {start stop : Nat} (ordered : start ≤ stop)
    (within : stop ≤ line.length) :
    (line ++ rest).take start ++ written ++ (line ++ rest).drop stop =
      line.take start ++ written ++ line.drop stop ++ rest := by
  rw [List.take_append_of_le_length (Nat.le_trans ordered within),
    List.drop_append_of_le_length within, List.append_assoc _ _ rest]

/-- A line that is edited before its end is edited alike with a carriage return behind it.  Only
when nothing is kept behind the edit, a carriage return before it may become a part of the
ending. -/
theorem dropReturn_replace_isPrefix {front written : List Char} {start stop : Nat}
    (ordered : start ≤ stop) (within : stop ≤ (dropReturn front).length) :
    dropReturn (front.take start ++ written ++ front.drop stop) <+:
      (dropReturn front).take start ++ written ++ (dropReturn front).drop stop := by
  rcases eq_dropReturn_or front with same | ended
  · rw [← same]
    exact dropReturn_isPrefix _
  · generalize dropReturn front = line at ended within
    refine ⟨[], ?_⟩
    rw [ended, replace_append ordered within, dropReturn_concat_return, List.append_nil]

theorem feed_notMem_replace {line written : List Char} (noFeed : '\n' ∉ line)
    (noFeed' : '\n' ∉ written) (start stop : Nat) :
    '\n' ∉ line.take start ++ written ++ line.drop stop := by
  simp only [List.mem_append, not_or]
  refine ⟨⟨?_, noFeed'⟩, ?_⟩
  · intro member
    exact noFeed (List.mem_of_mem_take member)
  · intro member
    exact noFeed (List.mem_of_mem_drop member)

theorem prefix_of_splice_onLine {text line line' written : List Char} {index start stop : Nat}
    (present : (splitLines text)[index]? = some line) (ordered : start ≤ stop)
    (within : stop ≤ line.length) (noFeed : '\n' ∉ written)
    (edited : (splitLines (splice 0 [((Range.onLine index start stop).offsets text, written)]
      text))[index]? = some line') :
    line' <+: line.take start ++ written ++ line.drop stop := by
  simp only [splice, Range.offsets, Range.onLine, offsetOf, Nat.sub_zero] at edited
  induction text using line_induction generalizing index with
  | single whole noFeed' =>
    rw [splitLines_of_no_feed noFeed'] at present
    split at present
    · cases present
    · obtain ⟨rfl, rfl⟩ : index = 0 ∧ whole = line := by
        cases index with
        | zero => exact ⟨rfl, Option.some.inj present⟩
        | succ index => cases present
      simp only [lineStart, Nat.zero_add] at edited
      rw [splitLines_of_no_feed (feed_notMem_replace noFeed' noFeed start stop)] at edited
      split at edited
      · cases edited
      · cases edited
        exact List.prefix_refl _
  | more front rest noFeed' ih =>
    rw [splitLines_append_feed noFeed'] at present
    cases index with
    | zero =>
      cases present
      have short : stop ≤ front.length := Nat.le_trans within (dropReturn_isPrefix front).length_le
      simp only [lineStart, Nat.zero_add] at edited
      rw [replace_append ordered short,
        splitLines_append_feed (feed_notMem_replace noFeed' noFeed start stop)] at edited
      cases edited
      exact dropReturn_replace_isPrefix ordered within
    | succ index =>
      rw [List.getElem?_cons_succ] at present
      apply ih present
      -- the lines before stay as they are, and their characters are counted before the edit
      have before (column : Nat) : lineStart (front ++ '\n' :: rest) (index + 1) + column =
          (front ++ ['\n']).length + (lineStart rest index + column) := by
        rw [lineStart_append_feed noFeed', List.length_append, List.length_singleton, Nat.add_assoc]
      have divided : front ++ '\n' :: rest = (front ++ ['\n']) ++ rest := by simp
      rw [before, before, divided, List.take_length_add_append, List.drop_length_add_append,
        List.append_assoc, List.append_assoc, List.append_assoc, List.singleton_append,
        splitLines_append_feed noFeed', List.getElem?_cons_succ] at edited
      rwa [List.append_assoc]

/-- **What a client has in the place of a line after it has replaced a part of it**: what stood
before the part, what was written, and what stood behind it, or a beginning of that. -/
theorem prefix_of_applyAll_onLine {text written : String} {line line' : List Char}
    {index start stop : Nat} (present : (lines text)[index]? = some line) (ordered : start ≤ stop)
    (within : stop ≤ line.length) (noFeed : '\n' ∉ written.toList)
    (edited : (lines (TextEdit.applyAll [⟨.onLine index start stop, written⟩] text))[index]? =
      some line') :
    line' <+: line.take start ++ written.toList ++ line.drop stop := by
  rw [lines, TextEdit.applyAll, String.toList_ofList] at edited
  exact prefix_of_splice_onLine present ordered within noFeed edited

end KotlinAssist
