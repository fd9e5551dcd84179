import KotlinAssist.Proofs.Fold.Braces
import KotlinAssist.Proofs.Text.Runs

/-!
# Bodies of functions among the pairs of braces

The pass for functions starts anew at every line that declares one and counts braces from the first
opening brace of the line on.  The pass for braces reads the whole document once, with a stack.
They agree: the count goes over the same braces as the stack does from there on, so it ends at the
partner of that brace, also in a document whose braces do not balance.

## Main definitions

* `BracePair.OpensFunction` — a pair that starts with the first brace of a function's line

## Main statements

* `FunctionRegion.closingLine?_eq_closing?` — counting over lines is counting over their braces
* `FunctionRegion.mem_all_iff` — the lines whose bodies are found
* `function_regions_are_brace_pairs` — the two passes agree
-/

namespace KotlinAssist

open Text

/-- Whether the opening brace of a pair is the first one of its line, and that line declares a
function. -/
def BracePair.OpensFunction (document : List Line) (pair : BracePair) : Prop :=
  ∃ line, document[pair.opening.line]? = some line ∧ '{' ∉ line.take pair.opening.character ∧
    (Declaration.ofLine? pair.opening.line line).any (·.kind == .function) = true

/-- The blocks that open on a line that declares a function are of that kind. -/
theorem BlockKind.ofLine_of_function {index : Nat} {line : Line}
    (declares : (Declaration.ofLine? index line).any (·.kind == .function) = true) :
    ofLine index line = .function := by
  obtain ⟨declaration, found, isFunction⟩ := (Option.any_eq_true _ _).mp declares
  rw [ofLine, found, Option.map_some, eq_of_beq isFunction]

namespace FunctionRegion

/-! ## Counting -/

/-- Counting on a line ends there, or goes on behind it with the braces that are open. -/
theorem closing?_ofLine_append (index column depth : Nat) (line : Line) (rest : List Brace) :
    (Brace.closing? depth (Brace.ofLine index column line ++ rest)).map Position.line =
      match depthAfter? depth line with
      | none => some index
      | some depth => (Brace.closing? depth rest).map Position.line := by
  induction line generalizing column depth with
  | nil => rfl
  | cons c line ih =>
    rw [Brace.ofLine, depthAfter?]
    split
    · exact ih (column + 1) (depth + 1)
    · split
      · rw [List.cons_append, Brace.closing?]
        split
        · rfl
        · exact ih (column + 1) (depth - 1)
      · exact ih (column + 1) depth

/-- **Counting over lines is counting over their braces.** -/
theorem closingLine?_eq_closing? (index depth : Nat) (document : List Line) :
    closingLine? index depth document =
      (Brace.closing? depth (Brace.startingAt index document)).map Position.line := by
  induction document generalizing index depth with
  | nil => rfl
  | cons line rest ih =>
    rw [closingLine?, Brace.startingAt, closing?_ofLine_append]
    cases depthAfter? depth line with
    | none => rfl
    | some depth => exact ih (index + 1) depth

/-- From the first brace of a line on, the count goes over what stands behind that brace. -/
theorem closingLine?_of_cut (index : Nat) {front back : Line} (first : '{' ∉ front)
    (below : List Line) :
    closingLine? index 0 ((front ++ '{' :: back).dropWhile (· != '{') :: below) =
      (Brace.closing? 1 (Brace.ofLine index (front.length + 1) back ++
        Brace.startingAt (index + 1) below)).map Position.line := by
  have dropped : (front ++ '{' :: back).dropWhile (· != '{') = '{' :: back :=
    dropWhile_run_append (bne_of_not_mem first) rfl
  rw [dropped, closingLine?, closing?_ofLine_append, depthAfter?, if_pos rfl, Nat.zero_add]
  cases depthAfter? 1 back with
  | none => rfl
  | some depth => exact closingLine?_eq_closing? (index + 1) depth below

/-! ## The bodies that are found -/

theorem mem_startingAt_iff {index : Nat} {document : List Line} {span : LineSpan} :
    span ∈ startingAt index document ↔
      ∃ above line below, document = above ++ line :: below ∧
        ofLine? (index + above.length) line below = some span := by
  induction document generalizing index with
  | nil =>
    constructor
    · intro member
      cases member
    · rintro ⟨above, line, below, whole, -⟩
      cases above <;> cases whole
  | cons line rest ih =>
    rw [startingAt, List.mem_append, Option.mem_toList, ih]
    constructor
    · rintro (here | ⟨above, line', below, rfl, later⟩)
      · exact ⟨[], line, rest, rfl, here⟩
      · refine ⟨line :: above, line', below, rfl, ?_⟩
        rw [List.length_cons, Nat.add_comm above.length, ← Nat.add_assoc]
        exact later
    · rintro ⟨above, line', below, whole, found⟩
      cases above with
      | nil =>
        cases whole
        exact .inl found
      | cons first above =>
        cases whole
        refine .inr ⟨above, line', below, rfl, ?_⟩
        rw [Nat.add_assoc, Nat.add_comm 1]
        exact found

/-- A line has a body when it declares a function, has a brace, and the count from its first brace
on ends on a later line. -/
theorem ofLine?_eq_some_iff {index : Nat} {line : Line} {below : List Line} {span : LineSpan} :
    ofLine? index line below = some span ↔
      (Declaration.ofLine? index line).any (·.kind == .function) = true ∧ '{' ∈ line ∧
        closingLine? index 0 (line.dropWhile (· != '{') :: below) = some span.last ∧
        span.first = index ∧ index < span.last := by
  obtain ⟨first, last⟩ := span
  rw [ofLine?]
  split
  · next condition =>
    rw [Bool.and_eq_true, List.contains_iff_mem] at condition
    rw [Option.bind_eq_bind, Option.bind_eq_some_iff]
    constructor
    · rintro ⟨last', counted, chosen⟩
      split at chosen
      · next later =>
        cases chosen
        exact ⟨condition.1, condition.2, counted, rfl, later⟩
      · cases chosen
    · rintro ⟨-, -, counted, rfl, later⟩
      exact ⟨last, counted, if_pos later⟩
  · next condition =>
    rw [Bool.and_eq_true, List.contains_iff_mem] at condition
    constructor
    · intro found
      cases found
    · rintro ⟨declares, brace, -⟩
      exact absurd ⟨declares, brace⟩ condition

theorem pairwise_startingAt (index : Nat) (document : List Line) :
    (startingAt index document).Pairwise fun left right => left.first < right.first := by
  induction document generalizing index with
  | nil => exact .nil
  | cons line rest ih =>
    rw [startingAt]
    refine List.pairwise_append.mpr ⟨?_, ih (index + 1), ?_⟩
    · cases ofLine? index line rest with
      | none => exact .nil
      | some span => exact List.pairwise_singleton _ _
    · intro left here right later
      obtain ⟨-, -, -, first, -⟩ := ofLine?_eq_some_iff.mp (Option.mem_toList.mp here)
      obtain ⟨above, _, _, -, found⟩ := mem_startingAt_iff.mp later
      obtain ⟨-, -, -, first', -⟩ := ofLine?_eq_some_iff.mp found
      omega

/-- **The bodies of functions are the pairs of braces that open a function** and end on a later
line. -/
theorem mem_all_iff {document : List Line} {span : LineSpan} :
    span ∈ all document ↔
      ∃ pair ∈ BracePair.all document, pair.OpensFunction document ∧ pair.span = span ∧
        span.first < span.last := by
  constructor
  · intro member
    obtain ⟨above, line, below, rfl, found⟩ := mem_startingAt_iff.mp member
    rw [Nat.zero_add] at found
    obtain ⟨declares, brace, counted, first, later⟩ := ofLine?_eq_some_iff.mp found
    obtain ⟨front, back, rfl, isFirst⟩ := List.eq_append_cons_of_mem brace
    rw [closingLine?_of_cut above.length isFirst below] at counted
    obtain ⟨place, closed, onLine⟩ := Option.map_eq_some_iff.mp counted
    refine ⟨⟨⟨above.length, front.length⟩, place⟩, ?_, ⟨_, ?_, ?_, declares⟩, ?_, ?_⟩
    · exact (BracePair.mem_all_iff (Brace.all_of_cut above below front back true)).mpr closed
    · simp
    · rw [List.take_left]
      exact isFirst
    · rw [BracePair.span, onLine, ← first]
    · rw [first]
      exact later
  · rintro ⟨⟨opening, place⟩, member, ⟨line, present, isFirst, declares⟩, rfl, later⟩
    obtain ⟨above, front, back, below, rfl, rfl⟩ := BracePair.exists_cut_of_mem_all member
    obtain rfl : front ++ '{' :: back = line := by simpa using present
    rw [List.take_left] at isFirst
    have closed := (BracePair.mem_all_iff (Brace.all_of_cut above below front back true)).mp member
    refine mem_startingAt_iff.mpr ⟨above, _, below, rfl, ?_⟩
    rw [Nat.zero_add, ofLine?_eq_some_iff, closingLine?_of_cut above.length isFirst below, closed]
    exact ⟨declares, by simp, rfl, rfl, later⟩

end FunctionRegion

/-- **The function pass agrees with the brace pass.**  The regions of braces are the pairs of braces
on different lines, and the bodies of functions are, in the order of their first lines, those of
these pairs that start with the first brace of a line that declares a function.  So each of them is
a region of braces, of the kind of a function. -/
theorem function_regions_are_brace_pairs (document : List Line) :
    BraceRegion.all document =
      (BracePair.all document).filterMap (BracePair.region? (BlockKind.at document)) ∧
    (FunctionRegion.all document).Pairwise (fun left right => left.first < right.first) ∧
    (∀ span, span ∈ FunctionRegion.all document ↔
      ∃ pair ∈ BracePair.all document, pair.OpensFunction document ∧ pair.span = span ∧
        span.first < span.last) ∧
    ∀ span ∈ FunctionRegion.all document, ⟨span, .function⟩ ∈ BraceRegion.all document := by
  refine ⟨BraceRegion.all_eq_filterMap document, FunctionRegion.pairwise_startingAt 0 document,
    fun span => FunctionRegion.mem_all_iff, ?_⟩
  intro span member
  obtain ⟨pair, paired, ⟨line, present, -, declares⟩, rfl, later⟩ :=
    FunctionRegion.mem_all_iff.mp member
  have kind : BlockKind.at document pair.opening.line = .function := by
    rw [BlockKind.at, present, Option.getD_some, BlockKind.ofLine_of_function declares]
  rw [BraceRegion.all_eq_filterMap, List.mem_filterMap]
  refine ⟨pair, paired, ?_⟩
  rw [BracePair.region?, kind]
  exact if_pos later

end KotlinAssist
