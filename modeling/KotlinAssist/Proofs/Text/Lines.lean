import KotlinAssist.Text.Line
import Mathlib.Data.List.Basic

/-!
# Lines and line feeds

A text without a line feed is one line, or none when it is empty.  Any other text is what stands
before its first line feed, the line feed, and the rest; its first line is what stands before, less
a carriage return at the end, and its other lines are those of the rest.  Facts about the lines of a
text are proved along this division.

## Main statements

* `line_induction` — induction over the line feeds of a text
* `splitLines_of_no_feed`, `splitLines_append_feed` — the lines in the two cases
* `sublist_of_mem_splitLines`, `feed_not_mem_of_mem_splitLines` — what a line has of the text
* `pairwise_zipIdx` — lines are numbered in order
-/

namespace KotlinAssist.Text

/-- What stands before a line feed as a line: a carriage return directly before it is no part of
it. -/
def dropReturn (front : List Char) : Line :=
  if front.getLast? = some '\r' then front.dropLast else front

theorem dropReturn_concat_return (front : List Char) : dropReturn (front ++ ['\r']) = front := by
  simp [dropReturn]

theorem dropReturn_of_getLast?_ne {front : List Char} (other : front.getLast? ≠ some '\r') :
    dropReturn front = front :=
  if_neg other

/-- A line and the text before its line feed differ by a carriage return at most. -/
theorem eq_dropReturn_or (front : List Char) :
    front = dropReturn front ∨ front = dropReturn front ++ ['\r'] := by
  by_cases last : front.getLast? = some '\r'
  · right
    obtain ⟨line, rfl⟩ := List.getLast?_eq_some_iff.mp last
    rw [dropReturn_concat_return]
  · left
    rw [dropReturn_of_getLast?_ne last]

theorem dropReturn_isPrefix (front : List Char) : dropReturn front <+: front := by
  rcases eq_dropReturn_or front with same | longer
  · exact ⟨[], (List.append_nil _).trans same.symm⟩
  · exact ⟨['\r'], longer.symm⟩

theorem dropReturn_cons {c : Char} {front : List Char} (more : front ≠ []) :
    dropReturn (c :: front) = c :: dropReturn front := by
  obtain ⟨d, rest, rfl⟩ := List.exists_cons_of_ne_nil more
  simp only [dropReturn, List.getLast?_cons_cons, List.dropLast_cons_cons]
  split <;> rfl

/-! ## Reading lines from the right -/

/-- Characters other than a line feed that are read with nothing after them become one line. -/
theorem foldr_lineStep_of_no_feed {line : List Char} (noFeed : '\n' ∉ line) (some_left : line ≠ []) :
    line.foldr lineStep ([], false) = ([line], false) := by
  induction line with
  | nil => exact absurd rfl some_left
  | cons c rest ih =>
    rw [List.mem_cons, not_or] at noFeed
    rw [List.foldr_cons]
    by_cases last : rest = []
    · subst last
      simp [lineStep, Ne.symm noFeed.1]
    · rw [ih noFeed.2 last]
      simp [lineStep, Ne.symm noFeed.1]

/-- Characters other than a line feed that are read after one become the line that it ends. -/
theorem foldr_lineStep_before_feed {front : List Char} (noFeed : '\n' ∉ front)
    (lines : List Line) :
    front.foldr lineStep ([] :: lines, true) = (dropReturn front :: lines, front.isEmpty) := by
  induction front with
  | nil => rfl
  | cons c rest ih =>
    rw [List.mem_cons, not_or] at noFeed
    rw [List.foldr_cons, ih noFeed.2]
    by_cases last : rest = []
    · subst last
      by_cases isReturn : c = '\r'
      · subst isReturn
        simp [lineStep, dropReturn]
      · simp [lineStep, dropReturn, Ne.symm noFeed.1, isReturn]
    · have open_line : rest.isEmpty = false := by simpa using last
      rw [dropReturn_cons last, open_line]
      simp [lineStep, Ne.symm noFeed.1]

theorem splitLines_of_no_feed {line : List Char} (noFeed : '\n' ∉ line) :
    splitLines line = if line = [] then [] else [line] := by
  split
  · next empty =>
    rw [empty, splitLines_nil]
  · next some_left => rw [splitLines, foldr_lineStep_of_no_feed noFeed some_left]

theorem splitLines_append_feed {front : List Char} (noFeed : '\n' ∉ front) (rest : List Char) :
    splitLines (front ++ '\n' :: rest) = dropReturn front :: splitLines rest := by
  have feed : lineStep '\n' (rest.foldr lineStep ([], false)) =
      ([] :: splitLines rest, true) := by
    simp [lineStep, splitLines]
  rw [splitLines, List.foldr_append, List.foldr_cons, feed,
    foldr_lineStep_before_feed noFeed (splitLines rest)]

/-! ## Induction over the line feeds -/

/-- A text is a single line without a line feed, or it has a first line feed. -/
theorem exists_first_feed (text : List Char) :
    '\n' ∉ text ∨ ∃ front rest, text = front ++ '\n' :: rest ∧ '\n' ∉ front := by
  by_cases feed : '\n' ∈ text
  · right
    obtain ⟨front, rest, cut, noFeed⟩ := List.eq_append_cons_of_mem feed
    exact ⟨front, rest, cut, noFeed⟩
  · exact .inl feed

/-- To prove something of every text, prove it of texts without a line feed, and of texts with a
line feed from the part after the first. -/
@[elab_as_elim]
theorem line_induction {motive : List Char → Prop}
    (single : ∀ line, '\n' ∉ line → motive line)
    (more : ∀ front rest, '\n' ∉ front → motive rest → motive (front ++ '\n' :: rest))
    (text : List Char) : motive text := by
  induction length : text.length using Nat.strongRecOn generalizing text with
  | ind size ih =>
    rcases exists_first_feed text with noFeed | ⟨front, rest, rfl, noFeed⟩
    · exact single text noFeed
    · refine more front rest noFeed (ih rest.length ?_ rest rfl)
      rw [← length, List.length_append, List.length_cons]
      omega

/-- The characters of a line stand in the text, in the same order. -/
theorem sublist_of_mem_splitLines {text line : List Char} (member : line ∈ splitLines text) :
    line.Sublist text := by
  induction text using line_induction with
  | single whole noFeed =>
    rw [splitLines_of_no_feed noFeed] at member
    split at member
    · cases member
    · rw [List.mem_singleton.mp member]
  | more front rest noFeed ih =>
    rw [splitLines_append_feed noFeed] at member
    rcases List.mem_cons.mp member with rfl | later
    · exact (dropReturn_isPrefix front).sublist.trans (List.sublist_append_left front _)
    · exact (ih later).trans
        ((List.sublist_cons_self '\n' rest).trans (List.sublist_append_right front _))

/-- No line holds a line feed. -/
theorem feed_not_mem_of_mem_splitLines {text line : List Char}
    (member : line ∈ splitLines text) : '\n' ∉ line := by
  induction text using line_induction with
  | single whole noFeed =>
    rw [splitLines_of_no_feed noFeed] at member
    split at member
    · cases member
    · rw [List.mem_singleton.mp member]
      exact noFeed
  | more front rest noFeed ih =>
    rw [splitLines_append_feed noFeed] at member
    rcases List.mem_cons.mp member with rfl | later
    · intro feed
      exact noFeed ((dropReturn_isPrefix front).subset feed)
    · exact ih later

/-- Lines are numbered from the first on. -/
theorem pairwise_zipIdx (document : List Line) :
    document.zipIdx.Pairwise fun left right => left.2 < right.2 := by
  rw [← List.pairwise_map, List.zipIdx_map_snd]
  exact List.pairwise_lt_range'

end KotlinAssist.Text
