import KotlinAssist.Proofs.Format.Tidied
import KotlinAssist.Proofs.Format.Trailing

/-!
# Formatting preserves the analyses

A formatted document has the lines of the document without the blanks at their ends, less some blank
lines at the end.  Whatever reads a document line by line meets the same lines, as far as it can
tell, and then perhaps blank ones: these open and close nothing, and a run or a comment that is open
at the end of the document is treated like one that is open before blank lines.

Each scanner is followed along `Tidied`, with its state general: a blank line at the end leaves the
state as it is, and any other line changes it as the line without its blanks does.

## Main statements

* `diagnostics_tidied`, `FoldingRange.all_tidied`, `Declaration.ofLines_tidied` — the analyses of a
  document and of its lines when tidied
* `formatting_preserves_analyses` — the analyses of a text and of the formatted text
-/

namespace KotlinAssist

open Text

variable {document tidy : List Line}

namespace Tidied

/-- What is gathered from the lines one by one is the same, if nothing is gathered from a line
without characters. -/
theorem flatMap_zipIdx {α : Type} {gather gather' : Line × Nat → List α}
    (tidied : Tidied document tidy)
    (same : ∀ line index, gather (trimEnd line, index) = gather' (line, index))
    (nothing : ∀ index, gather ([], index) = []) (start : Nat) :
    (tidy.zipIdx start).flatMap gather = (document.zipIdx start).flatMap gather' := by
  induction tidied generalizing start with
  | nil => rfl
  | blank empty rest ih =>
    rw [List.zipIdx_cons, List.flatMap_cons, ← same, empty, nothing, List.nil_append]
    exact ih (start + 1)
  | line line rest ih =>
    rw [List.zipIdx_cons, List.zipIdx_cons, List.flatMap_cons, List.flatMap_cons, same, ih]

theorem filterMap_zipIdx {α : Type} {gather gather' : Line × Nat → Option α}
    (tidied : Tidied document tidy)
    (same : ∀ line index, gather (trimEnd line, index) = gather' (line, index))
    (nothing : ∀ index, gather ([], index) = none) :
    tidy.zipIdx.filterMap gather = document.zipIdx.filterMap gather' := by
  rw [List.filterMap_eq_flatMap_toList, List.filterMap_eq_flatMap_toList]
  apply tidied.flatMap_zipIdx
  · intro line index
    rw [same]
  · intro index
    rw [nothing]
    rfl

end Tidied

/-! ## Declarations -/

/-- **The declarations of a tidied document**, but for the columns in which their lines end. -/
theorem Declaration.ofLines_tidied (tidied : Tidied document tidy) :
    (ofLines tidy).map forgetLineEnd = (ofLines document).map forgetLineEnd := by
  unfold ofLines
  rw [List.map_filterMap, List.map_filterMap]
  apply tidied.filterMap_zipIdx
  · intro line index
    exact ofLine?_trimEnd index line
  · intro index
    have nothing : ofLine? index [] = none := ofLine?_eq_none_of_trimEnd rfl index
    exact congrArg (Option.map forgetLineEnd) nothing

/-! ## Diagnostics -/

theorem BraceBalance.findings_tidied (tidied : Tidied document tidy) (index depth : Nat) :
    findings index depth tidy = findings index depth document := by
  induction tidied generalizing index depth with
  | nil => rfl
  | @blank line _ empty rest ih =>
    have unchanged : scan 0 depth line = (none, depth) := by
      rw [← scan_trimEnd, empty]
      rfl
    rw [findings, findings, unchanged]
    exact ih (index + 1) depth
  | line line rest ih =>
    rw [findings, findings, scan_trimEnd]
    dsimp only
    rw [ih]

namespace UnusedImport

theorem isImportLine_trimEnd (line : Line) : isImportLine (trimEnd line) = isImportLine line := by
  rw [isImportLine, isImportLine, trim_trimEnd]

theorem isUsed_tidied (tidied : Tidied document tidy) {name : List Char}
    (solid : ∀ c ∈ name, isBlank c = false) : isUsed tidy name = isUsed document name := by
  unfold isUsed
  induction tidied with
  | nil => rfl
  | @blank line _ empty rest ih =>
    have unused : wordSpans line name = [] := by
      rw [← wordSpans_trimEnd solid, empty]
      unfold wordSpans occurrences
      split <;> rfl
    rw [List.any_cons, unused, List.isEmpty_nil, Bool.not_true, Bool.and_false, Bool.false_or, ih]
  | line line rest ih =>
    rw [List.any_cons, List.any_cons, isImportLine_trimEnd, wordSpans_trimEnd solid, ih]

theorem finding?_eq (lines : List Line) (index : Nat) (line : Line) :
    finding? lines index line = (Grammar.importedName? (trim line)).bind fun name =>
      if isUsed lines name then none
      else some (.ofRule id .hint (.onLine index (indentation line)
        (indentation line + (trim line).length)) s!"{message} '{String.ofList name}'") :=
  rfl

theorem finding?_tidied (tidied : Tidied document tidy) (index : Nat) (line : Line) :
    finding? tidy index (trimEnd line) = finding? document index line := by
  rw [finding?_eq, finding?_eq, trim_trimEnd]
  cases brought : Grammar.importedName? (trim line) with
  | none => rfl
  | some name =>
    have solid := Grammar.isBlank_of_mem_importedName? brought
    have nonempty : trimEnd line ≠ [] := by
      intro empty
      rw [← trim_trimEnd, empty] at brought
      cases brought
    rw [Option.bind_some, Option.bind_some, isUsed_tidied tidied solid,
      indentation_trimEnd nonempty]

theorem check_tidied (tidied : Tidied document tidy) : check tidy = check document := by
  apply tidied.filterMap_zipIdx
  · intro line index
    exact finding?_tidied tidied index line
  · intro index
    rfl

end UnusedImport

theorem NamingConvention.check_tidied (tidied : Tidied document tidy) :
    check tidy = check document := by
  -- the rule does not look at the columns in which lines end
  have forgets (document : List Line) : check document =
      ((Declaration.ofLines document).map Declaration.forgetLineEnd).filterMap fun declaration =>
        (message? declaration).map (Diagnostic.ofRule id .warning declaration.selection) := by
    rw [List.filterMap_map]
    rfl
  rw [forgets, forgets, Declaration.ofLines_tidied tidied]

theorem DiscouragedPattern.check_tidied (tidied : Tidied document tidy) :
    check tidy = check document := by
  have solid : ∀ pattern ∈ all, pattern.needle.toList.any isBlank = false := by decide
  apply tidied.flatMap_zipIdx
  · intro line index
    apply List.flatMap_congr
    intro pattern listed
    rw [occurrences_trimEnd (isBlank_of_any (solid pattern listed))]
  · intro index
    rfl

/-- **The findings about a tidied document.** -/
theorem diagnostics_tidied (tidied : Tidied document tidy) :
    diagnostics tidy = diagnostics document := by
  have braces : BraceBalance.check tidy = BraceBalance.check document :=
    BraceBalance.findings_tidied tidied 0 0
  simp only [diagnostics, Rule.all, List.flatMap_cons, List.flatMap_nil, braces,
    UnusedImport.check_tidied tidied, NamingConvention.check_tidied tidied,
    DiscouragedPattern.check_tidied tidied]

/-! ## Folding regions -/

theorem BraceRegion.startingAt_tidied (tidied : Tidied document tidy) (index : Nat)
    (stack : BraceStack) : startingAt index stack tidy = startingAt index stack document := by
  induction tidied generalizing index stack with
  | nil => rfl
  | @blank line _ empty rest ih =>
    have unchanged (kind : BlockKind) : scan index kind stack line = ([], stack) := by
      rw [← scan_trimEnd, empty, scan]
    rw [startingAt, startingAt, unchanged]
    exact ih (index + 1) stack
  | line line rest ih =>
    rw [startingAt, startingAt, scan_trimEnd, BlockKind.ofLine_trimEnd]
    dsimp only
    rw [ih]

namespace FunctionRegion

theorem closingLine?_tidied (tidied : Tidied document tidy) (index depth : Nat) :
    closingLine? index depth tidy = closingLine? index depth document := by
  induction tidied generalizing index depth with
  | nil => rfl
  | @blank line _ empty rest ih =>
    have unchanged : depthAfter? depth line = some depth := by
      rw [← depthAfter?_trimEnd, empty, depthAfter?]
    rw [closingLine?, closingLine?, unchanged]
    exact ih (index + 1) depth
  | line line rest ih =>
    rw [closingLine?, closingLine?, depthAfter?_trimEnd]
    simp only [ih]

theorem ofLine?_tidied (tidied : Tidied document tidy) (index : Nat) (line : Line) :
    ofLine? index (trimEnd line) tidy = ofLine? index line document := by
  have isFunction : (Declaration.ofLine? index (trimEnd line)).any (·.kind == .function) =
      (Declaration.ofLine? index line).any (·.kind == .function) := by
    have kinds := congrArg (Option.any (· == DeclarationKind.function))
      (Declaration.kind_ofLine?_trimEnd index line)
    rwa [Option.any_map, Option.any_map] at kinds
  have closing : closingLine? index 0 ((trimEnd line).dropWhile (· != '{') :: tidy) =
      closingLine? index 0 (line.dropWhile (· != '{') :: document) := by
    rw [closingLine?, closingLine?, depthAfter?_dropWhile_trimEnd]
    simp only [closingLine?_tidied tidied]
  unfold ofLine?
  rw [isFunction, contains_brace_trimEnd, closing]

theorem startingAt_tidied (tidied : Tidied document tidy) (index : Nat) :
    startingAt index tidy = startingAt index document := by
  induction tidied generalizing index with
  | nil => rfl
  | @blank line document empty rest ih =>
    have nothing : ofLine? index line document = none := by
      unfold ofLine?
      rw [Declaration.ofLine?_eq_none_of_trimEnd empty]
      rfl
    rw [startingAt, startingAt, nothing]
    exact ih (index + 1)
  | line line rest ih => rw [startingAt, startingAt, ofLine?_tidied rest, ih]

end FunctionRegion

theorem CommentRegion.startingAt_tidied (tidied : Tidied document tidy) (index : Nat)
    (opened : Option (Nat × Bool)) :
    startingAt index opened tidy = startingAt index opened document := by
  induction tidied generalizing index opened with
  | nil => rfl
  | @blank line _ empty rest ih =>
    have opens : opens? line = none := by
      rw [← opens?_trimEnd, empty]
      rfl
    have closes : occursIn "*/".toList line = false := by
      rw [← occursIn_close_trimEnd, empty]
      rfl
    have later : [] = startingAt (index + 1) opened _ := ih (index + 1) opened
    cases opened with
    | none =>
      show [] = startingAt (index + 1) ((opens? line).map (index, ·)) _
      rw [opens]
      exact later
    | some comment =>
      simp only [startingAt, closes]
      exact later
  | line line rest ih =>
    cases opened with
    | none => simp only [startingAt, opens?_trimEnd, ih]
    | some comment => simp only [startingAt, occursIn_close_trimEnd, ih]

/-- A run that is open before blank lines ends there, as it does at the end of the document. -/
theorem LineRun.startingAt_tidied {belongs : Line → Bool} (blank : belongs [] = false)
    (tidied : Tidied document tidy) (index : Nat) (first : Option Nat) :
    startingAt belongs index first tidy = startingAt belongs index first document := by
  induction tidied generalizing index first with
  | nil => rfl
  | @blank line _ empty rest ih =>
    have outside : belongs (trim line) = false := by
      rw [← trim_trimEnd, empty]
      exact blank
    have later := ih (index + 1) none
    rw [startingAt] at later
    rw [startingAt, startingAt, outside]
    simp only [Bool.false_eq_true, ↓reduceIte, ← later]
    exact (List.append_nil _).symm
  | line line rest ih =>
    rw [startingAt, startingAt, trim_trimEnd]
    simp only [ih]

/-- **The folding regions of a tidied document.** -/
theorem FoldingRange.all_tidied (tidied : Tidied document tidy) : all tidy = all document := by
  have braces : BraceRegion.all tidy = BraceRegion.all document :=
    BraceRegion.startingAt_tidied tidied 0 []
  have functions : FunctionRegion.all tidy = FunctionRegion.all document :=
    FunctionRegion.startingAt_tidied tidied 0
  have comments : CommentRegion.all tidy = CommentRegion.all document :=
    CommentRegion.startingAt_tidied tidied 0 none
  have lineComments : LineRun.comments tidy = LineRun.comments document :=
    LineRun.startingAt_tidied rfl tidied 0 none
  have imports : LineRun.imports tidy = LineRun.imports document :=
    LineRun.startingAt_tidied rfl tidied 0 none
  simp only [all, passes, braces, functions, comments, lineComments, imports]

/-! ## Texts -/

/-- **Formatting preserves the analyses.**  The findings about a text and its folding regions are
those of the formatted text, and so are its declarations, in their order and in every field but the
columns in which their lines end. -/
theorem formatting_preserves_analyses (text : String) :
    diagnostics (lines (formatText text)) = diagnostics (lines text) ∧
    FoldingRange.all (lines (formatText text)) = FoldingRange.all (lines text) ∧
    (Declaration.ofLines (lines (formatText text))).map Declaration.forgetLineEnd =
      (Declaration.ofLines (lines text)).map Declaration.forgetLineEnd := by
  have tidied := tidied_formatLines (lines text)
  rw [lines_formatText]
  exact ⟨diagnostics_tidied tidied, FoldingRange.all_tidied tidied,
    Declaration.ofLines_tidied tidied⟩

end KotlinAssist
