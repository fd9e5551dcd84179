import KotlinAssist.Diagnostic
import KotlinAssist.Fold
import KotlinAssist.Proofs.Grammar.Import
import KotlinAssist.Proofs.Text.Search

/-!
# Blanks at the end of a line

The analyses of a document read its lines in many ways: they count braces, look for fixed texts and
whole words, and read heads of declarations and imports from what trimming leaves.  None of them
notices blanks at the end of a line.  Braces and the texts looked for have no blank in them, a blank
is a character of no word, and the columns of a declared name are counted from the start of its
line.

Each fact is proved once for a line with blanks behind it, and then for the line without them.

## Main definitions

* `Declaration.forgetLineEnd` — a declaration but for the column in which its line ends

## Main statements

* `BraceBalance.scan_trimEnd`, `BraceRegion.scan_trimEnd`, `FunctionRegion.depthAfter?_trimEnd` —
  the braces of a line
* `occurrences_trimEnd`, `wordSpans_trimEnd`, `CommentRegion.opens?_trimEnd` — the texts on a line
* `Declaration.ofLine?_trimEnd` — what a line declares
-/

namespace KotlinAssist

open Text

/-- A blank is none of the characters that are no blanks. -/
theorem ne_of_isBlank {c d : Char} (blank : isBlank c = true) (solid : isBlank d = false) :
    c ≠ d := by
  rintro rfl
  rw [blank] at solid
  contradiction

theorem forall_notMem_of_isBlank {tail needle : List Char} (blank : ∀ c ∈ tail, isBlank c = true)
    (solid : ∀ c ∈ needle, isBlank c = false) : ∀ c ∈ tail, c ∉ needle := by
  intro c member inside
  exact ne_of_isBlank (blank c member) (solid c inside) rfl

/-- To say that nothing changes when the blanks at the end of a line go, say it of a line with
blanks behind it. -/
theorem eq_trimEnd_of_append {α : Type} (read : Line → α)
    (unread : ∀ line tail : List Char, (∀ c ∈ tail, isBlank c = true) →
      read (line ++ tail) = read line) (line : Line) : read (trimEnd line) = read line := by
  obtain ⟨tail, cut, blank⟩ := exists_trimEnd_cut line
  calc read (trimEnd line) = read (trimEnd line ++ tail) := (unread _ tail blank).symm
    _ = read line := by rw [← cut]

/-! ## Braces -/

/-- A blank is no brace. -/
theorem ne_brace_of_isBlank {c : Char} (blank : isBlank c = true) : c ≠ '{' ∧ c ≠ '}' :=
  ⟨ne_of_isBlank blank (by decide), ne_of_isBlank blank (by decide)⟩

namespace BraceBalance

theorem scan_blanks {tail : List Char} (blank : ∀ c ∈ tail, isBlank c = true) (column depth : Nat) :
    scan column depth tail = (none, depth) := by
  induction tail generalizing column with
  | nil => rfl
  | cons c tail ih =>
    rw [List.forall_mem_cons] at blank
    obtain ⟨notOpen, notClose⟩ := ne_brace_of_isBlank blank.1
    simp only [scan, notOpen, notClose, ↓reduceIte]
    exact ih blank.2 (column + 1)

theorem scan_trimEnd (column depth : Nat) (line : Line) :
    scan column depth (trimEnd line) = scan column depth line := by
  apply eq_trimEnd_of_append
  intro line tail blank
  fun_induction scan column depth line with
  | case1 column depth => exact scan_blanks blank column depth
  | case2 column depth rest ih => simpa [scan] using ih
  | case3 column rest _ ih => simp [scan, ih]
  | case4 column rest _ depth ih => simpa [scan] using ih
  | case5 column depth c rest notOpen notClose ih => simpa [scan, notOpen, notClose] using ih

end BraceBalance

namespace BraceRegion

theorem scan_blanks {tail : List Char} (blank : ∀ c ∈ tail, isBlank c = true) (index : Nat)
    (kind : BlockKind) (stack : BraceStack) : scan index kind stack tail = ([], stack) := by
  induction tail with
  | nil => rw [scan]
  | cons c tail ih =>
    rw [List.forall_mem_cons] at blank
    obtain ⟨notOpen, notClose⟩ := ne_brace_of_isBlank blank.1
    simp only [scan, notOpen, notClose, ↓reduceIte]
    exact ih blank.2

theorem scan_trimEnd (index : Nat) (kind : BlockKind) (stack : BraceStack) (line : Line) :
    scan index kind stack (trimEnd line) = scan index kind stack line := by
  apply eq_trimEnd_of_append
  intro line tail blank
  fun_induction scan index kind stack line with
  | case1 stack => exact scan_blanks blank index kind stack
  | case2 stack rest ih => simpa [scan] using ih
  | case3 rest _ ih => simpa [scan] using ih
  | case4 rest first opened stack regions stack' read _ ih => simp [scan, ih, read]
  | case5 stack c rest notOpen notClose ih => simpa [scan, notOpen, notClose] using ih

end BraceRegion

namespace FunctionRegion

theorem depthAfter?_blanks {tail : List Char} (blank : ∀ c ∈ tail, isBlank c = true)
    (depth : Nat) : depthAfter? depth tail = some depth := by
  induction tail with
  | nil => rfl
  | cons c tail ih =>
    rw [List.forall_mem_cons] at blank
    obtain ⟨notOpen, notClose⟩ := ne_brace_of_isBlank blank.1
    rw [depthAfter?, if_neg notOpen, if_neg notClose, ih blank.2]

theorem depthAfter?_append_blanks {tail : List Char} (blank : ∀ c ∈ tail, isBlank c = true)
    (depth : Nat) (line : Line) : depthAfter? depth (line ++ tail) = depthAfter? depth line := by
  fun_induction depthAfter? depth line with
  | case1 depth => exact depthAfter?_blanks blank depth
  | case2 depth rest ih => simpa [depthAfter?] using ih
  | case3 depth rest shallow _ => simp [depthAfter?, shallow]
  | case4 depth rest deep _ ih => simpa [depthAfter?, deep] using ih
  | case5 depth c rest notOpen notClose ih => simpa [depthAfter?, notOpen, notClose] using ih

theorem depthAfter?_trimEnd (depth : Nat) (line : Line) :
    depthAfter? depth (trimEnd line) = depthAfter? depth line := by
  apply eq_trimEnd_of_append
  intro line tail blank
  exact depthAfter?_append_blanks blank depth line

/-- The braces from the first opening one on. -/
theorem depthAfter?_dropWhile_trimEnd (depth : Nat) (line : Line) :
    depthAfter? depth ((trimEnd line).dropWhile (· != '{')) =
      depthAfter? depth (line.dropWhile (· != '{')) := by
  apply eq_trimEnd_of_append fun line => depthAfter? depth (line.dropWhile (· != '{'))
  intro line tail blank
  have skipped : tail.dropWhile (· != '{') = [] := by
    rw [List.dropWhile_eq_nil_iff]
    intro c member
    exact bne_iff_ne.mpr (ne_brace_of_isBlank (blank c member)).1
  show depthAfter? depth ((line ++ tail).dropWhile (· != '{')) = _
  rw [List.dropWhile_append, skipped]
  split
  · next empty => rw [List.isEmpty_iff.mp empty]
  · exact depthAfter?_append_blanks blank depth _

theorem contains_brace_trimEnd (line : Line) : (trimEnd line).contains '{' = line.contains '{' := by
  apply eq_trimEnd_of_append fun line => line.contains '{'
  intro line tail blank
  have outside : '{' ∉ tail := by
    intro member
    exact (ne_brace_of_isBlank (blank _ member)).1 rfl
  simp only [List.contains_eq_mem, List.mem_append, or_iff_left outside]

end FunctionRegion

/-! ## Texts and words -/

theorem occurrences_trimEnd {needle : List Char} (solid : ∀ c ∈ needle, isBlank c = false)
    (line : Line) : occurrences needle (trimEnd line) = occurrences needle line := by
  apply eq_trimEnd_of_append
  intro line tail blank
  exact occurrences_append (forall_notMem_of_isBlank blank solid) line

/-- Blanks behind a line are no neighbours of a word. -/
theorem standsAlone_append_blanks {line tail : List Char} (blank : ∀ c ∈ tail, isBlank c = true)
    {span : Span} (ordered : span.start ≤ span.stop) (within : span.stop ≤ line.length) :
    standsAlone (line ++ tail) span = standsAlone line span := by
  have before : (line ++ tail).take span.start = line.take span.start :=
    List.take_append_of_le_length (ordered.trans within)
  rw [standsAlone, standsAlone, before, List.drop_append_of_le_length within,
    head?_append_blanks blank fun _ => isIdentifierChar_of_isBlank]

theorem wordSpans_trimEnd {word : List Char} (solid : ∀ c ∈ word, isBlank c = false)
    (line : Line) : wordSpans (trimEnd line) word = wordSpans line word := by
  apply eq_trimEnd_of_append fun line => wordSpans line word
  intro line tail blank
  show (occurrences word (line ++ tail)).filter (standsAlone (line ++ tail)) =
    (occurrences word line).filter (standsAlone line)
  rw [occurrences_append (forall_notMem_of_isBlank blank solid)]
  apply List.filter_congr
  intro span found
  obtain ⟨front, back, cut, rfl⟩ := exists_of_mem_occurrences found
  apply standsAlone_append_blanks blank (Nat.le_add_right _ _)
  rw [cut, List.length_append, List.length_append]
  exact Nat.le_add_right _ _

namespace CommentRegion

/-- The marks of a block comment have no blank in them. -/
theorem marks_notMem_of_isBlank {tail : List Char} (blank : ∀ c ∈ tail, isBlank c = true) :
    (∀ c ∈ tail, c ∉ "/*".toList) ∧ ∀ c ∈ tail, c ∉ "*/".toList :=
  ⟨forall_notMem_of_isBlank blank (isBlank_of_any (by decide)),
    forall_notMem_of_isBlank blank (isBlank_of_any (by decide))⟩

theorem occursIn_close_trimEnd (line : Line) :
    occursIn "*/".toList (trimEnd line) = occursIn "*/".toList line := by
  apply eq_trimEnd_of_append
  intro line tail blank
  exact occursIn_append (marks_notMem_of_isBlank blank).2 (by decide) line

theorem opens?_trimEnd (line : Line) : opens? (trimEnd line) = opens? line := by
  apply eq_trimEnd_of_append
  intro line tail blank
  have marked (after : List Char) :
      ((after ++ tail).head? == some '*') = (after.head? == some '*') := by
    cases after with
    | cons c after => rfl
    | nil =>
      cases tail with
      | nil => rfl
      | cons c tail =>
        have other : c ≠ '*' := ne_of_isBlank (blank c List.mem_cons_self) (by decide)
        simpa using other
  obtain ⟨opening, closing⟩ := marks_notMem_of_isBlank blank
  unfold opens?
  rw [cutAt?_append opening (by decide)]
  cases cutAt? "/*".toList line with
  | none => rfl
  | some cut =>
    show (if occursIn "*/".toList (cut.2 ++ tail) then none
      else some ((cut.2 ++ tail).head? == some '*')) = _
    rw [occursIn_append closing (by decide), marked]

end CommentRegion

/-! ## Declarations -/

namespace Declaration

/-- A declaration but for the column in which its line ends. -/
def forgetLineEnd (declaration : Declaration) : Declaration :=
  { declaration with
    range := { declaration.range with stop := { declaration.range.stop with character := 0 } } }

/-- Nothing is declared on a blank line. -/
theorem ofLine?_eq_none_of_trimEnd {line : Line} (empty : trimEnd line = []) (index : Nat) :
    ofLine? index line = none := by
  rw [Option.eq_none_iff_forall_ne_some]
  intro declaration found
  obtain ⟨front, back, cut, -, named, -⟩ := exists_cut_of_ofLine? found
  have nonempty := ne_nil_of_isName named
  have allBlank : ∀ c ∈ line, isBlank c = true := (trimEnd_eq_nil_iff line).mp empty
  obtain ⟨c, member⟩ := List.exists_mem_of_ne_nil _ nonempty
  have onLine : c ∈ line := by
    rw [cut]
    exact List.mem_append_left back (List.mem_append_right front member)
  exact ne_of_isBlank (allBlank c onLine) (Grammar.isBlank_of_isName named c member) rfl

/-- **Blanks at the end of a line do not change what it declares**, but for the column in which the
line ends. -/
theorem ofLine?_trimEnd (index : Nat) (line : Line) :
    (ofLine? index (trimEnd line)).map forgetLineEnd = (ofLine? index line).map forgetLineEnd := by
  by_cases empty : trimEnd line = []
  · have still : trimEnd (trimEnd line) = [] := by rw [trimEnd_trimEnd, empty]
    rw [ofLine?_eq_none_of_trimEnd still, ofLine?_eq_none_of_trimEnd empty]
  · have column := indentation_trimEnd empty
    have same (kind : DeclarationKind) (head : Grammar.Head) :
        (ofHead index (trimEnd line) kind head).forgetLineEnd =
          (ofHead index line kind head).forgetLineEnd := by
      simp only [ofHead, forgetLineEnd, trim_trimEnd, column, Range.wholeLine, Range.onLine]
    have classes : forgetLineEnd ∘ ofClass index (trimEnd line) =
        forgetLineEnd ∘ ofClass index line := by
      funext head
      exact same _ head
    have types (kind : DeclarationKind) : forgetLineEnd ∘ ofHead index (trimEnd line) kind =
        forgetLineEnd ∘ ofHead index line kind := by
      funext head
      exact same kind head
    have functions : forgetLineEnd ∘ ofFunction index (trimEnd line) =
        forgetLineEnd ∘ ofFunction index line := by
      funext head
      simp only [Function.comp_apply, ofFunction, ofHead, forgetLineEnd, trim_trimEnd, column,
        Range.wholeLine, Range.onLine]
    have properties : forgetLineEnd ∘ ofProperty index (trimEnd line) =
        forgetLineEnd ∘ ofProperty index line := by
      funext head
      simp only [Function.comp_apply, ofProperty, ofHead, forgetLineEnd, trim_trimEnd, column,
        Range.wholeLine, Range.onLine]
    simp only [ofLine?, trim_trimEnd, Option.orElse_eq_orElse, Option.orElse_eq_or, Option.map_or,
      Option.map_map, classes, types, functions, properties]

theorem kind_ofLine?_trimEnd (index : Nat) (line : Line) :
    (ofLine? index (trimEnd line)).map kind = (ofLine? index line).map kind := by
  have same := congrArg (Option.map kind) (ofLine?_trimEnd index line)
  rwa [Option.map_map, Option.map_map] at same

end Declaration

theorem BlockKind.ofLine_trimEnd (index : Nat) (line : Line) :
    ofLine index (trimEnd line) = ofLine index line := by
  rw [ofLine, ofLine, Declaration.kind_ofLine?_trimEnd]

end KotlinAssist
