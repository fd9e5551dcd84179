import KotlinAssist.Proofs.Diagnostic.Findings
import KotlinAssist.Proofs.Outline
import Mathlib.Data.List.Nodup

/-!
# Ranges of diagnostics

A finding is about a piece of one line: a closing brace, an import line without the blanks around
it, a declared name or a discouraged text.  The rules find the columns of these pieces in four ways,
and in all of them the range of the finding covers just the piece.  So the range lies in the
document, and a client that hands a diagnostic back names the place that was reported.

A discouraged text is looked for from left to right and without overlap, on each line anew.  What is
found is reported once for each place and in order, and no other rule and no other text is reported
with the same characters.

## Main definitions

* `Diagnostic.IsAbout` — the text that a finding is about
* `DiscouragedPattern.findingsOn` — the findings about a discouraged text on one line

## Main statements

* `spells_of_mem_diagnostics` — the range of a finding covers what it is about
* `fits_of_mem_diagnostics` — the range of a diagnostic lies in the document
* `DiscouragedPattern.findingsOn_eq` — a discouraged text is reported once for each place
* `findings_cover_offending_text` — both, for every text
-/

namespace KotlinAssist

open Text

variable {document : List Line} {diagnostic : Diagnostic}

/-- The text that a finding about a line is about.  Its code tells the rule, and a finding about a
discouraged text carries what to write instead. -/
inductive Diagnostic.IsAbout (line : Line) (diagnostic : Diagnostic) : List Char → Prop
  | brace (code : diagnostic.code = some (.text BraceBalance.id)) : IsAbout line diagnostic ['}']
  | unusedImport (code : diagnostic.code = some (.text UnusedImport.id)) :
      IsAbout line diagnostic (trim line)
  | declaredName (code : diagnostic.code = some (.text NamingConvention.id))
      {declaration : Declaration}
      (read : Declaration.ofLine? diagnostic.range.start.line line = some declaration) :
      IsAbout line diagnostic declaration.name.toList
  | discouraged (code : diagnostic.code = some (.text DiscouragedPattern.id))
      {pattern : DiscouragedPattern} (listed : pattern ∈ DiscouragedPattern.all)
      (carries : diagnostic.data = some (.obj [("replacement", .str pattern.replacement)])) :
      IsAbout line diagnostic pattern.needle.toList

/-! ## Closing braces that close nothing -/

namespace BraceBalance

/-- The column that is found is that of a closing brace. -/
theorem exists_cut_of_scan {line : Line} {column depth found : Nat}
    (reported : (scan column depth line).1 = some found) :
    ∃ front back, line = front ++ ['}'] ++ back ∧ found = column + front.length := by
  induction line generalizing column depth with
  | nil => cases reported
  | cons c rest ih =>
    -- a brace that is found in the rest is found one column on
    have later {depth : Nat} (reported : (scan (column + 1) depth rest).1 = some found) :
        ∃ front back, c :: rest = front ++ ['}'] ++ back ∧ found = column + front.length := by
      obtain ⟨front, back, cut, placed⟩ := ih reported
      refine ⟨c :: front, back, by rw [cut]; rfl, ?_⟩
      rw [placed, List.length_cons]
      omega
    simp only [scan] at reported
    split at reported
    · exact later reported
    · split at reported
      · next closing =>
        cases depth with
        | zero =>
          cases reported
          exact ⟨[], rest, by rw [closing]; rfl, rfl⟩
        | succ depth => exact later reported
      · exact later reported

theorem exists_cut_of_mem_findings {index depth : Nat}
    (reported : diagnostic ∈ findings index depth document) :
    ∃ offset line front back, document[offset]? = some line ∧ line = front ++ ['}'] ++ back ∧
      diagnostic.range = .onLine (index + offset) front.length (front.length + 1) := by
  induction document generalizing index depth with
  | nil => cases reported
  | cons line rest ih =>
    rw [findings] at reported
    rcases List.mem_append.mp reported with here | later
    · obtain ⟨column, found, rfl⟩ := Option.map_eq_some_iff.mp (Option.mem_toList.mp here)
      obtain ⟨front, back, cut, rfl⟩ := exists_cut_of_scan found
      rw [Nat.zero_add]
      exact ⟨0, line, front, back, rfl, cut, rfl⟩
    · obtain ⟨offset, line', front, back, present, cut, placed⟩ := ih later
      refine ⟨offset + 1, line', front, back, present, cut, ?_⟩
      rw [placed, Nat.add_right_comm, Nat.add_assoc]

theorem spells_of_mem_check (reported : diagnostic ∈ check document)
    (code : diagnostic.code = some (.text id)) :
    ∃ line text, document[diagnostic.range.start.line]? = some line ∧
      diagnostic.IsAbout line text ∧ diagnostic.range.Spells document text := by
  obtain ⟨index, line, front, back, present, cut, placed⟩ := exists_cut_of_mem_findings reported
  rw [Nat.zero_add] at placed
  rw [placed]
  exact ⟨line, ['}'], present, .brace code, spells_onLine present cut (List.cons_ne_nil _ _)⟩

end BraceBalance

/-! ## The other rules -/

/-- The finding about an import covers the line without the blanks around it, which is not empty. -/
theorem UnusedImport.spells_of_mem_check (reported : diagnostic ∈ check document) :
    ∃ line text, document[diagnostic.range.start.line]? = some line ∧
      diagnostic.IsAbout line text ∧ diagnostic.range.Spells document text := by
  obtain ⟨index, line, name, present, brought, -, rfl⟩ := exists_of_mem_check reported
  obtain ⟨tail, cut, -⟩ := exists_trim_cut line
  have nonempty : trim line ≠ [] := by
    intro empty
    rw [empty] at brought
    cases brought
  exact ⟨line, trim line, present, .unusedImport rfl, spells_onLine present cut nonempty⟩

theorem NamingConvention.spells_of_mem_check (reported : diagnostic ∈ check document) :
    ∃ line text, document[diagnostic.range.start.line]? = some line ∧
      diagnostic.IsAbout line text ∧ diagnostic.range.Spells document text := by
  obtain ⟨declaration, line, message, present, read, -, rfl⟩ := exists_of_mem_check reported
  obtain ⟨spells, onLine⟩ := Declaration.selection_spells present read
  rw [← onLine] at present read
  exact ⟨line, declaration.name.toList, present, .declaredName rfl read, spells⟩

theorem DiscouragedPattern.needle_ne_nil {pattern : DiscouragedPattern} (listed : pattern ∈ all) :
    pattern.needle.toList ≠ [] := by
  have table : ∀ pattern ∈ all, pattern.needle.toList ≠ [] := by decide
  exact table pattern listed

theorem DiscouragedPattern.spells_of_mem_check (reported : diagnostic ∈ check document) :
    ∃ line text, document[diagnostic.range.start.line]? = some line ∧
      diagnostic.IsAbout line text ∧ diagnostic.range.Spells document text := by
  obtain ⟨index, line, pattern, listed, front, back, present, cut, rfl⟩ :=
    exists_of_mem_check reported
  exact ⟨line, pattern.needle.toList, present, .discouraged rfl listed rfl,
    spells_onLine present cut (needle_ne_nil listed)⟩

/-- **The range of a finding covers the text that it is about.** -/
theorem spells_of_mem_diagnostics (reported : diagnostic ∈ diagnostics document) :
    ∃ line text, document[diagnostic.range.start.line]? = some line ∧
      diagnostic.IsAbout line text ∧ diagnostic.range.Spells document text := by
  obtain ⟨rule, listed, reported⟩ := List.mem_flatMap.mp reported
  have code := code_of_mem_check listed reported
  simp only [Rule.all, List.mem_cons, List.not_mem_nil, or_false] at listed
  rcases listed with rfl | rfl | rfl | rfl
  · exact BraceBalance.spells_of_mem_check reported code
  · exact UnusedImport.spells_of_mem_check reported
  · exact NamingConvention.spells_of_mem_check reported
  · exact DiscouragedPattern.spells_of_mem_check reported

/-- **The range of a diagnostic lies in the document**: it does not reach behind the end of its
line. -/
theorem fits_of_mem_diagnostics (reported : diagnostic ∈ diagnostics document) :
    diagnostic.range.Fits document := by
  obtain ⟨line, text, -, -, spells⟩ := spells_of_mem_diagnostics reported
  exact spells.fits

/-! ## Discouraged texts -/

/-- Of several lists only one has entries. -/
theorem flatMap_eq_of_only {Item Entry : Type} {items : List Item} {entries : Item → List Entry}
    {only : Item} (distinct : items.Nodup) (listed : only ∈ items)
    (others : ∀ item ∈ items, item ≠ only → entries item = []) :
    items.flatMap entries = entries only := by
  obtain ⟨front, back, rfl⟩ := List.append_of_mem listed
  have apart : only ∉ front ++ back := (List.nodup_middle.mp distinct).notMem
  have empty : ∀ item ∈ front ++ back, entries item = [] := by
    intro item member
    refine others item ?_ ?_
    · rw [List.mem_append, List.mem_cons]
      exact (List.mem_append.mp member).imp_right .inr
    · rintro rfl
      exact apart member
  obtain ⟨before, behind⟩ := List.forall_mem_append.mp empty
  rw [List.flatMap_append, List.flatMap_cons, List.flatMap_eq_nil_iff.mpr before,
    List.flatMap_eq_nil_iff.mpr behind, List.nil_append, List.append_nil]

namespace DiscouragedPattern

/-- Whether a finding is about a discouraged text on a given line. -/
def IsFoundOn (pattern : DiscouragedPattern) (document : List Line) (index : Nat)
    (diagnostic : Diagnostic) : Prop :=
  diagnostic.code = some (.text id) ∧ diagnostic.range.start.line = index ∧
    diagnostic.range.Spells document pattern.needle.toList

instance (pattern : DiscouragedPattern) (document : List Line) (index : Nat) :
    DecidablePred (pattern.IsFoundOn document index) :=
  fun _ => inferInstanceAs (Decidable (_ ∧ _ ∧ _))

/-- The findings about a discouraged text on one line, in order. -/
def findingsOn (pattern : DiscouragedPattern) (document : List Line) (index : Nat) :
    List Diagnostic :=
  (diagnostics document).filter (pattern.IsFoundOn document index ·)

/-- No other rule has findings about a discouraged text. -/
theorem findingsOn_eq_filter_check (pattern : DiscouragedPattern) (document : List Line)
    (index : Nat) :
    pattern.findingsOn document index =
      (check document).filter (pattern.IsFoundOn document index ·) := by
  have distinct : (Rule.all.map Rule.id).Nodup := by decide
  let own : Rule :=
    ⟨id, "Flag discouraged constructs and suggest an alternative", check⟩
  have listed : own ∈ Rule.all := List.mem_of_getLast? rfl
  rw [findingsOn, diagnostics, List.filter_flatMap]
  refine flatMap_eq_of_only distinct.of_map listed ?_
  intro rule listed' other
  refine List.filter_eq_nil_iff.mpr fun diagnostic reported isFound => ?_
  have code := code_of_mem_check listed' reported
  obtain ⟨code', -⟩ := of_decide_eq_true isFound
  rw [code', Option.some.injEq, DiagnosticCode.text.injEq] at code
  exact other (List.inj_on_of_nodup_map distinct listed' listed code.symm)

/-- No other line has findings that stand on a line. -/
theorem filter_check_eq {pattern : DiscouragedPattern} {index : Nat} {line : Line}
    (present : document[index]? = some line) :
    (check document).filter (pattern.IsFoundOn document index ·) =
      (all.flatMap fun other =>
        (occurrences other.needle.toList line).map (other.finding index)).filter
          (pattern.IsFoundOn document index ·) := by
  have numbered : document.zipIdx.Nodup := by
    refine (pairwise_zipIdx document).imp ?_
    rintro left right earlier rfl
    exact Nat.lt_irrefl _ earlier
  have listed : (line, index) ∈ document.zipIdx := List.mem_zipIdx_iff_getElem?.mpr present
  rw [check, List.filter_flatMap]
  refine flatMap_eq_of_only numbered listed ?_
  rintro ⟨line', index'⟩ listed' other
  refine List.filter_eq_nil_iff.mpr fun diagnostic reported isFound => ?_
  obtain ⟨pattern', -, reported⟩ := List.mem_flatMap.mp reported
  obtain ⟨span, -, rfl⟩ := List.mem_map.mp reported
  obtain ⟨-, sameIndex, -⟩ := of_decide_eq_true isFound
  obtain rfl : index' = index := sameIndex
  cases present.symm.trans (List.mem_zipIdx_iff_getElem?.mp listed')
  exact other rfl

theorem finding_spells {pattern : DiscouragedPattern} (listed : pattern ∈ all) {index : Nat}
    {line : Line} (present : document[index]? = some line) {span : Span}
    (found : span ∈ occurrences pattern.needle.toList line) :
    (pattern.finding index span).range.Spells document pattern.needle.toList := by
  obtain ⟨front, back, cut, rfl⟩ := exists_of_mem_occurrences found
  exact spells_onLine present cut (needle_ne_nil listed)

/-- **A discouraged text is reported once for each place where it is found**, in order.  The finding
about another text covers that other text, so it is not counted. -/
theorem findingsOn_eq {pattern : DiscouragedPattern} (listed : pattern ∈ all) {index : Nat}
    {line : Line} (present : document[index]? = some line) :
    pattern.findingsOn document index =
      (occurrences pattern.needle.toList line).map (pattern.finding index) := by
  have distinct : (all.map (·.needle.toList)).Nodup := by decide
  rw [findingsOn_eq_filter_check, filter_check_eq present, List.filter_flatMap,
    flatMap_eq_of_only distinct.of_map listed]
  · refine List.filter_eq_self.mpr fun diagnostic reported => ?_
    obtain ⟨span, found, rfl⟩ := List.mem_map.mp reported
    exact decide_eq_true ⟨rfl, rfl, finding_spells listed present found⟩
  · intro other listed' differs
    refine List.filter_eq_nil_iff.mpr fun diagnostic reported isFound => ?_
    obtain ⟨span, found, rfl⟩ := List.mem_map.mp reported
    obtain ⟨-, -, spells⟩ := of_decide_eq_true isFound
    have sameNeedle := (finding_spells listed' present found).unique spells
    exact differs (List.inj_on_of_nodup_map distinct listed' listed sameNeedle)

end DiscouragedPattern

/-! ## All findings -/

/-- **Findings cover the text that offends.**  The range of every finding lies on one line of the
document, is not empty, and has just the characters of what the finding is about.  On each line,
spans are the places of a discouraged text from left to right and without overlap exactly if the
findings about it have these spans, each once and in this order. -/
theorem findings_cover_offending_text (text : String) :
    (∀ diagnostic ∈ diagnostics (lines text), ∃ line offending,
      (lines text)[diagnostic.range.start.line]? = some line ∧
      diagnostic.IsAbout line offending ∧ diagnostic.range.Spells (lines text) offending) ∧
    ∀ index line, (lines text)[index]? = some line → ∀ pattern ∈ DiscouragedPattern.all,
      ∀ spans, LeftToRight pattern.needle.toList line spans ↔
        (pattern.findingsOn (lines text) index).map Diagnostic.range =
          spans.map fun span => .onLine index span.start span.stop := by
  refine ⟨fun diagnostic => spells_of_mem_diagnostics, ?_⟩
  intro index line present pattern listed spans
  have nonempty := DiscouragedPattern.needle_ne_nil listed
  have injective : Function.Injective fun span : Span => Range.onLine index span.start span.stop := by
    rintro ⟨start, stop⟩ ⟨start', stop'⟩ same
    cases same
    rfl
  rw [DiscouragedPattern.findingsOn_eq listed present, List.map_map]
  constructor
  · intro found
    rw [found.unique nonempty (leftToRight_occurrences nonempty line)]
    rfl
  · intro same
    obtain rfl := List.map_injective_iff.mpr injective same
    exact leftToRight_occurrences nonempty line

/-- Five marks behind a character of two code units hold two discouraged texts, not four. -/
theorem findings_cover_offending_text_overlapping :
    LeftToRight "!!".toList "😀!!!!!".toList [⟨1, 3⟩, ⟨3, 5⟩] ∧
      ∃ pattern ∈ DiscouragedPattern.all, pattern.needle = "!!" ∧
        (pattern.findingsOn (lines "😀!!!!!") 0).map Diagnostic.range =
          [.onLine 0 1 3, .onLine 0 3 5] := by
  have found : LeftToRight "!!".toList "😀!!!!!".toList [⟨1, 3⟩, ⟨3, 5⟩] :=
    leftToRight_occurrences (by decide) "😀!!!!!".toList
  obtain ⟨pattern, listed, needle⟩ : ∃ pattern ∈ DiscouragedPattern.all, pattern.needle = "!!" :=
    ⟨_, List.mem_cons_self, rfl⟩
  obtain ⟨-, covers⟩ := findings_cover_offending_text "😀!!!!!"
  refine ⟨found, pattern, listed, needle, ?_⟩
  rw [← needle] at found
  exact (covers 0 _ (by decide) pattern listed _).mp found

end KotlinAssist
