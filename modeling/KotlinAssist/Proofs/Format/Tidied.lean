import KotlinAssist.Format
import KotlinAssist.Proofs.Text.Blank
import KotlinAssist.Proofs.Text.Lines
import Mathlib.Data.List.DropRight

/-!
# Tidied documents

Formatting takes the blanks from the end of every line and the blank lines from the end of the
document.  `Tidied` says this line by line, so that what is read from a document can be compared
with what is read from its tidied form by one induction: a line and its tidied form are read alike,
and the blank lines at the end are read as nothing.

A tidied line has no carriage return at its end and no line feed in it.  So the lines of a formatted
text are the tidied lines, and formatting them again changes nothing.

## Main definitions

* `Tidied` — a document and its tidied form

## Main statements

* `tidied_formatLines` — formatting tidies
* `lines_formatText` — the lines of a formatted text
* `formatText_formatText` — a formatted text stays as it is
-/

namespace KotlinAssist

open Text

/-- A document and its tidied form: each line without the blanks at its end, and no more than blank
lines left out at the end of the document. -/
inductive Tidied : List Line → List Line → Prop where
  | nil : Tidied [] []
  | blank {line : Line} {document : List Line} (empty : trimEnd line = [])
      (rest : Tidied document []) : Tidied (line :: document) []
  | line {document tidy : List Line} (line : Line) (rest : Tidied document tidy) :
      Tidied (line :: document) (trimEnd line :: tidy)

namespace Tidied

theorem of_blank {document : List Line} (blank : ∀ line ∈ document, trimEnd line = []) :
    Tidied document [] := by
  induction document with
  | nil => exact .nil
  | cons line document ih =>
    rw [List.forall_mem_cons] at blank
    exact .blank blank.1 (ih blank.2)

theorem of_append {kept rest : List Line} (blank : ∀ line ∈ rest, trimEnd line = []) :
    Tidied (kept ++ rest) (kept.map trimEnd) := by
  induction kept with
  | nil => exact of_blank blank
  | cons line kept ih => exact .line line ih

end Tidied

/-- **Formatting keeps a front part of the document**, each line without the blanks at its end, and
leaves out blank lines only. -/
theorem exists_kept_formatLines (document : List Line) :
    ∃ kept rest, document = kept ++ rest ∧ formatLines document = kept.map trimEnd ∧
      ∀ line ∈ rest, trimEnd line = [] := by
  have divided : formatLines document ++ (document.map trimEnd).rtakeWhile List.isEmpty =
      document.map trimEnd := List.rdropWhile_append_rtakeWhile ..
  obtain ⟨kept, rest, cut, isKept, isRest⟩ := List.map_eq_append_iff.mp divided.symm
  refine ⟨kept, rest, cut, isKept.symm, ?_⟩
  intro line member
  have left : trimEnd line ∈ (document.map trimEnd).rtakeWhile List.isEmpty := by
    rw [← isRest]
    exact List.mem_map_of_mem member
  exact List.isEmpty_iff.mp (List.mem_rtakeWhile_imp left)

theorem tidied_formatLines (document : List Line) : Tidied document (formatLines document) := by
  obtain ⟨kept, rest, cut, formatted, blank⟩ := exists_kept_formatLines document
  rw [formatted]
  conv_lhs => rw [cut]
  exact .of_append blank

/-- A formatted line has no blank at its end. -/
theorem trimEnd_of_mem_formatLines {document : List Line} {line : Line}
    (member : line ∈ formatLines document) : trimEnd line = line := by
  obtain ⟨kept, rest, -, formatted, -⟩ := exists_kept_formatLines document
  rw [formatted] at member
  obtain ⟨original, -, rfl⟩ := List.mem_map.mp member
  exact trimEnd_trimEnd original

/-- The last line of a formatted document is not empty. -/
theorem getLast?_formatLines_ne (document : List Line) :
    (formatLines document).getLast? ≠ some [] := by
  intro empty
  obtain ⟨front, whole⟩ := List.getLast?_eq_some_iff.mp empty
  have nonempty : formatLines document ≠ [] := by
    rw [whole]
    exact List.concat_ne_nil [] front
  have last := List.rdropWhile_last_not List.isEmpty (document.map trimEnd) nonempty
  rw [List.getLast?_eq_some_getLast nonempty] at empty
  exact last (List.isEmpty_iff.mpr (Option.some.inj empty))

theorem formatLines_formatLines (document : List Line) :
    formatLines (formatLines document) = formatLines document := by
  have same : (formatLines document).map trimEnd = formatLines document := by
    refine (List.map_congr_left ?_).trans (List.map_id _)
    intro line member
    exact trimEnd_of_mem_formatLines member
  show ((formatLines document).map trimEnd).rdropWhile List.isEmpty = formatLines document
  rw [same]
  exact List.rdropWhile_idempotent List.isEmpty (document.map trimEnd)

/-! ## The lines of a formatted text -/

/-- Lines that end neither with a carriage return nor hold a line feed are read back when a line
feed ends each of them. -/
theorem splitLines_flatMap_feed {document : List Line}
    (plain : ∀ line ∈ document, '\n' ∉ line ∧ line.getLast? ≠ some '\r') :
    splitLines (document.flatMap (· ++ ['\n'])) = document := by
  induction document with
  | nil => rfl
  | cons line document ih =>
    rw [List.forall_mem_cons] at plain
    obtain ⟨⟨noFeed, noReturn⟩, plain⟩ := plain
    rw [List.flatMap_cons, List.append_assoc, List.singleton_append, splitLines_append_feed noFeed,
      dropReturn_of_getLast?_ne noReturn, ih plain]

/-- **The lines of a formatted text are the formatted lines.** -/
theorem lines_formatText (text : String) : lines (formatText text) = formatLines (lines text) := by
  rw [lines, formatText, String.toList_ofList]
  apply splitLines_flatMap_feed
  intro line member
  obtain ⟨kept, rest, cut, formatted, -⟩ := exists_kept_formatLines (lines text)
  rw [formatted] at member
  obtain ⟨original, isKept, rfl⟩ := List.mem_map.mp member
  obtain ⟨tail, whole, -⟩ := exists_trimEnd_cut original
  constructor
  · intro feed
    have present : original ∈ splitLines text.toList := by
      show original ∈ lines text
      rw [cut]
      exact List.mem_append_left rest isKept
    apply feed_not_mem_of_mem_splitLines present
    rw [whole]
    exact List.mem_append_left tail feed
  · intro ends
    have solid := getLast?_trimEnd original
    rw [ends] at solid
    exact absurd solid (by decide)

/-- **A formatted text stays as it is when it is formatted.** -/
theorem formatText_formatText (text : String) : formatText (formatText text) = formatText text := by
  show String.ofList ((formatLines (lines (formatText text))).flatMap (· ++ ['\n'])) = _
  rw [lines_formatText, formatLines_formatLines]
  rfl

/-- A formatted document has a character that is no blank before its last line feed. -/
theorem formatText_eq_empty_or (text : String) :
    formatText text = "" ∨
      ∃ front c, (formatText text).toList = front ++ [c, '\n'] ∧ isBlank c = false := by
  rcases List.eq_nil_or_concat' (formatLines (lines text)) with empty | ⟨front, last, whole⟩
  · left
    rw [formatText, empty]
    rfl
  · right
    have filled := getLast?_formatLines_ne (lines text)
    have member : last ∈ formatLines (lines text) := by
      rw [whole]
      exact List.mem_append_right front List.mem_cons_self
    have solid := getLast?_trimEnd last
    rw [trimEnd_of_mem_formatLines member] at solid
    rw [whole, List.getLast?_concat] at filled
    rcases List.eq_nil_or_concat' last with rfl | ⟨inner, c, rfl⟩
    · exact absurd rfl filled
    · refine ⟨front.flatMap (· ++ ['\n']) ++ inner, c, ?_, ?_⟩
      · rw [formatText, String.toList_ofList, whole]
        simp
      · rwa [List.getLast?_concat] at solid

end KotlinAssist
