import KotlinAssist.Proofs.Fold.Braces

/-!
# The matching of braces

Which braces belong together is a matter of the text alone: an opening brace and a later closing one
do when the braces between them are balanced, that is, made up of such pairs themselves.  No stack
and no count are needed to say so.  The pass over the lines finds exactly these pairs, in a document
whose braces do not balance as well: a closing brace that closes nothing lies between no two braces
that belong together, and neither does an opening brace that is never closed.

Counting from an opening brace on, the closing brace at which nothing is open any more is found
behind balanced braces; this is the one that the stack pairs up.  That pairs do not cross is read
off the stack itself: what is paired up later was opened below on the stack, or later.

## Main definitions

* `charAt?`, `charsBefore` — the characters of a document by their places
* `Balanced` — braces that belong together in pairs
* `BracePair.Matching` — two braces with balanced braces between them
* `BlockKind.DecidedBy` — the kind of a block and the declaration on its first line

## Main statements

* `Brace.closing?_one_eq_some_iff` — counting ends behind balanced braces
* `BracePair.mem_all_iff_matching` — the pairs of a document
* `BracePair.pairwise_pairUp` — pairs do not cross
* `brace_regions_are_matching_pairs` — the regions of braces
-/

namespace KotlinAssist

open Text

/-! ## Characters by their places -/

theorem Position.lt_asymm {left right : Position} (before : left < right) : ¬ right < left := by
  rintro (above | ⟨same, after⟩) <;> rcases before with above' | ⟨same', before⟩ <;> omega

/-- The character at a place of a document. -/
def charAt? (document : List Line) (place : Position) : Option Char :=
  document[place.line]?.bind (·[place.character]?)

/-- The characters before a place of a document, one line after the other. -/
def charsBefore (document : List Line) (place : Position) : List Char :=
  (document.take place.line).flatten ++ (document[place.line]?.getD []).take place.character

theorem exists_append_of_getElem? {α : Type} {items : List α} {index : Nat} {item : α}
    (present : items[index]? = some item) :
    ∃ front back, items = front ++ item :: back ∧ index = front.length := by
  obtain ⟨inside, rfl⟩ := List.getElem?_eq_some_iff.mp present
  refine ⟨items.take index, items.drop (index + 1), ?_, ?_⟩
  · rw [List.getElem_cons_drop inside, List.take_append_drop]
  · rw [List.length_take, Nat.min_eq_left (Nat.le_of_lt inside)]

/-- A place with a character cuts the document, and there the line. -/
theorem charAt?_eq_some_iff {document : List Line} {place : Position} {c : Char} :
    charAt? document place = some c ↔
      ∃ above front back below, document = above ++ (front ++ c :: back) :: below ∧
        place = ⟨above.length, front.length⟩ := by
  constructor
  · intro present
    obtain ⟨line, found, here⟩ := Option.bind_eq_some_iff.mp present
    obtain ⟨above, below, rfl, row⟩ := exists_append_of_getElem? found
    obtain ⟨front, back, rfl, column⟩ := exists_append_of_getElem? here
    refine ⟨above, front, back, below, rfl, ?_⟩
    rw [← row, ← column]
  · rintro ⟨above, front, back, below, rfl, rfl⟩
    simp [charAt?]

theorem charsBefore_of_cut (above below : List Line) (front back : Line) :
    charsBefore (above ++ (front ++ back) :: below) ⟨above.length, front.length⟩ =
      above.flatten ++ front := by
  simp [charsBefore]

/-- Behind a place with a character, what stands before starts with what stood before that place,
and the character. -/
theorem exists_charsBefore_of_lt {document : List Line} {place place' : Position} {c : Char}
    (present : charAt? document place = some c) (before : place < place') :
    ∃ between, charsBefore document place' = charsBefore document place ++ c :: between := by
  obtain ⟨above, front, back, below, rfl, rfl⟩ := charAt?_eq_some_iff.mp present
  rw [charsBefore_of_cut]
  obtain ⟨row, column⟩ := place'
  rcases before with earlier | ⟨same, left⟩
  · -- the whole line stands before a place on a later one
    obtain ⟨count, rfl⟩ := Nat.exists_eq_add_of_lt earlier
    refine ⟨back ++ ((below.take count).flatten ++ (below[count]?.getD []).take column), ?_⟩
    simp [charsBefore, Nat.add_assoc, List.take_append, List.getElem?_append_right,
      List.take_of_length_le]
  · obtain rfl : above.length = row := same
    obtain ⟨count, rfl⟩ := Nat.exists_eq_add_of_lt left
    have whole : front.take (front.length + (count + 1)) = front :=
      List.take_of_length_le (Nat.le_add_right _ _)
    refine ⟨back.take count, ?_⟩
    simp [charsBefore, Nat.add_assoc, List.take_append, whole]

/-! ## Braces among the characters -/

/-- Whether a character is a brace. -/
def isBrace (c : Char) : Bool :=
  c == '{' || c == '}'

/-- The braces between two places of a document. -/
def bracesBetween (document : List Line) (place place' : Position) : List Char :=
  ((charsBefore document place').drop ((charsBefore document place).length + 1)).filter isBrace

namespace Brace

theorem char_eq_iff {brace : Brace} :
    (brace.char = '{' ↔ brace.opens = true) ∧ (brace.char = '}' ↔ brace.opens = false) := by
  obtain ⟨place, opens⟩ := brace
  cases opens <;> simp [char]

theorem map_char_ofLine (index column : Nat) (line : Line) :
    (ofLine index column line).map char = line.filter isBrace := by
  induction line generalizing column with
  | nil => rfl
  | cons c rest ih =>
    rw [ofLine]
    split
    · next opening =>
      rw [opening, List.map_cons, ih]
      rfl
    · next notOpening =>
      split
      · next closing =>
        rw [closing, List.map_cons, ih]
        rfl
      · next notClosing =>
        have other : ¬ isBrace c = true := by
          simp only [isBrace, Bool.or_eq_true, beq_iff_eq, not_or]
          exact ⟨notOpening, notClosing⟩
        rw [ih, List.filter_cons_of_neg other]

/-- The braces of lines are, as characters, what is left of the lines without all others. -/
theorem map_char_startingAt (index : Nat) (document : List Line) :
    (startingAt index document).map char = document.flatten.filter isBrace := by
  induction document generalizing index with
  | nil => rfl
  | cons line rest ih =>
    rw [startingAt, List.map_append, map_char_ofLine, ih, List.flatten_cons, List.filter_append]

/-- A place where a brace stands cuts the braces of a document. -/
theorem exists_split {document : List Line} {place : Position} {opens : Bool}
    (present : charAt? document place = some (char ⟨place, opens⟩)) :
    ∃ front back, all document = front ++ ⟨place, opens⟩ :: back := by
  obtain ⟨above, front, back, below, rfl, rfl⟩ := charAt?_eq_some_iff.mp present
  exact ⟨_, _, all_of_cut above below front back opens⟩

/-- **Where the braces of a document are cut, there stands the brace**, and before it the braces
before the cut. -/
theorem chars_of_split {document : List Line} {front back : List Brace} {brace : Brace}
    (split : all document = front ++ brace :: back) :
    charAt? document brace.place = some brace.char ∧
      (charsBefore document brace.place).filter isBrace = front.map char := by
  have ordered := pairwise_startingAt 0 document
  have member : brace ∈ all document := by
    rw [split]
    exact List.mem_append_right front List.mem_cons_self
  obtain ⟨above, front', back', below, whole, placed⟩ := exists_of_mem_startingAt member
  obtain ⟨place, opens⟩ := brace
  rw [Nat.zero_add] at placed
  subst placed
  have cut := all_of_cut above below front' back' opens
  have present : charAt? document ⟨above.length, front'.length⟩ =
      some (char ⟨⟨above.length, front'.length⟩, opens⟩) :=
    charAt?_eq_some_iff.mpr ⟨above, front', back', below, whole, rfl⟩
  refine ⟨present, ?_⟩
  -- places differ, so there is only one cut at this place
  rw [← all, split, List.pairwise_append, List.pairwise_cons] at ordered
  obtain ⟨-, ⟨behind, -⟩, before⟩ := ordered
  have same := split.symm.trans ((congrArg all whole).trans cut)
  rw [List.append_cons_inj_of_notMem] at same
  · rw [same.1, whole, charsBefore_of_cut, List.map_append, map_char_startingAt, map_char_ofLine,
      List.filter_append]
  · intro among
    exact Position.lt_irrefl _ (before _ among _ List.mem_cons_self)
  · intro among
    exact Position.lt_irrefl _ (behind _ among)

/-- The braces between two places, cut out of the braces of a document. -/
theorem bracesBetween_of_split {document : List Line} {front inner after : List Brace}
    {opening closing : Brace}
    (split : all document = front ++ opening :: (inner ++ closing :: after)) :
    bracesBetween document opening.place closing.place = inner.map char := by
  have ordered := pairwise_startingAt 0 document
  rw [← all, split, List.pairwise_append, List.pairwise_cons] at ordered
  obtain ⟨-, ⟨behind, -⟩, -⟩ := ordered
  have before : opening.place < closing.place :=
    behind closing (List.mem_append_right inner List.mem_cons_self)
  obtain ⟨present, above⟩ := chars_of_split split
  rw [← List.cons_append, ← List.append_assoc] at split
  obtain ⟨-, below⟩ := chars_of_split split
  obtain ⟨between, longer⟩ := exists_charsBefore_of_lt present before
  have dropped : bracesBetween document opening.place closing.place = between.filter isBrace := by
    rw [bracesBetween, longer, List.append_cons, List.drop_left']
    rw [List.length_append, List.length_singleton]
  have isBrace_opening : isBrace opening.char = true := by
    cases opens : opening.opens <;> simp [char, opens, isBrace]
  rw [longer, List.filter_append, above, List.filter_cons_of_pos isBrace_opening, List.map_append,
    List.map_cons, List.append_right_inj, List.cons.injEq] at below
  rw [dropped, below.2]

end Brace

/-! ## Balanced braces -/

/-- Braces that belong together in pairs: none, or an opening brace, balanced braces, the closing
brace that belongs to it, and balanced braces behind it. -/
inductive Balanced : List Char → Prop where
  | nil : Balanced []
  | pair {inner rest : List Char} (inside : Balanced inner) (behind : Balanced rest) :
    Balanced ('{' :: inner ++ '}' :: rest)

/-- Braces that close a number of braces which are open before them, and are balanced in between. -/
inductive Closes : Nat → List Char → Prop where
  | balanced {braces : List Char} (all : Balanced braces) : Closes 0 braces
  | close {depth : Nat} {inner rest : List Char} (first : Balanced inner)
    (more : Closes depth rest) : Closes (depth + 1) (inner ++ '}' :: rest)

/-- A brace that is opened is one more to be closed. -/
theorem Closes.opened {depth : Nat} {braces : List Char} (closes : Closes (depth + 1) braces) :
    Closes depth ('{' :: braces) := by
  cases closes with
  | close first more =>
    cases more with
    | balanced rest => exact .balanced (.pair first rest)
    | close second more =>
      rw [← List.cons_append, ← List.cons_append, ← List.append_assoc]
      exact .close (.pair first second) more

namespace Brace

/-- Counting goes over balanced braces as if they were not there. -/
theorem closing?_append_of_balanced {braces : List Char} (balanced : Balanced braces)
    {inner : List Brace} (spelled : inner.map char = braces) (depth : Nat) (rest : List Brace) :
    closing? (depth + 1) (inner ++ rest) = closing? (depth + 1) rest := by
  induction balanced generalizing inner depth rest with
  | nil => rw [List.map_eq_nil_iff.mp spelled, List.nil_append]
  | pair _ _ inside behind =>
    obtain ⟨first, back, rfl, front, after⟩ := List.map_eq_append_iff.mp spelled
    obtain ⟨⟨opening, opens⟩, inner, rfl, isOpening, spelledInner⟩ := List.map_eq_cons_iff.mp front
    obtain ⟨⟨closing, closes⟩, later, rfl, isClosing, spelledLater⟩ :=
      List.map_eq_cons_iff.mp after
    obtain rfl : opens = true := char_eq_iff.1.mp isOpening
    obtain rfl : closes = false := char_eq_iff.2.mp isClosing
    have deeper : ¬ depth + 1 + 1 ≤ 1 := by omega
    rw [List.append_assoc, List.cons_append, List.cons_append, closing?, inside spelledInner,
      closing?, if_neg deeper, Nat.add_sub_cancel, behind spelledLater]

/-- Counting ends at a place behind braces that close all but one of those that are open. -/
theorem exists_of_closing?_eq_some {braces : List Brace} {depth : Nat} {place : Position}
    (found : closing? (depth + 1) braces = some place) :
    ∃ inner after, braces = inner ++ ⟨place, false⟩ :: after ∧ Closes depth (inner.map char) := by
  induction braces generalizing depth with
  | nil => cases found
  | cons brace rest ih =>
    obtain ⟨here, opens⟩ := brace
    cases opens with
    | true =>
      obtain ⟨inner, after, rfl, closes⟩ := ih found
      exact ⟨⟨here, true⟩ :: inner, after, rfl, closes.opened⟩
    | false =>
      rw [closing?] at found
      split at found
      · next last =>
        cases found
        obtain rfl : depth = 0 := by omega
        exact ⟨[], rest, rfl, .balanced .nil⟩
      · next more =>
        obtain ⟨depth, rfl⟩ := Nat.exists_eq_succ_of_ne_zero (show depth ≠ 0 by omega)
        obtain ⟨inner, after, rfl, closes⟩ := ih found
        exact ⟨⟨here, false⟩ :: inner, after, rfl, .close .nil closes⟩

/-- **Counting from an opening brace on ends behind balanced braces.** -/
theorem closing?_one_eq_some_iff {braces : List Brace} {place : Position} :
    closing? 1 braces = some place ↔
      ∃ inner after, braces = inner ++ ⟨place, false⟩ :: after ∧ Balanced (inner.map char) := by
  constructor
  · intro found
    obtain ⟨inner, after, whole, closes⟩ := exists_of_closing?_eq_some found
    cases closes with
    | balanced all => exact ⟨inner, after, whole, all⟩
  · rintro ⟨inner, after, rfl, balanced⟩
    rw [closing?_append_of_balanced balanced rfl 0]
    rfl

end Brace

/-! ## Pairs -/

namespace BracePair

/-- An opening brace and a later closing brace, with balanced braces between them. -/
structure Matching (document : List Line) (pair : BracePair) : Prop where
  opens : charAt? document pair.opening = some '{'
  closes : charAt? document pair.closing = some '}'
  ordered : pair.opening < pair.closing
  balanced : Balanced (bracesBetween document pair.opening pair.closing)

/-- **The pairs of a document are the braces that match.** -/
theorem mem_all_iff_matching {document : List Line} {pair : BracePair} :
    pair ∈ all document ↔ pair.Matching document := by
  have ordered := Brace.pairwise_startingAt 0 document
  rw [← Brace.all] at ordered
  obtain ⟨opening, closing⟩ := pair
  constructor
  · intro member
    rcases opening_of_mem_pairUp member with pushed | opened
    · cases pushed
    · obtain ⟨front, back, split⟩ := List.append_of_mem opened
      have counted := (mem_all_iff split).mp member
      obtain ⟨inner, after, rfl, balanced⟩ := Brace.closing?_one_eq_some_iff.mp counted
      rw [split, List.pairwise_append, List.pairwise_cons] at ordered
      refine ⟨(Brace.chars_of_split split).1, ?_, ?_, ?_⟩
      · rw [← List.cons_append, ← List.append_assoc] at split
        exact (Brace.chars_of_split split).1
      · exact ordered.2.1.1 ⟨closing, false⟩ (List.mem_append_right inner List.mem_cons_self)
      · rw [← Brace.bracesBetween_of_split split] at balanced
        exact balanced
  · rintro ⟨opens, closes, before, balanced⟩
    obtain ⟨front, back, split⟩ :
        ∃ front back, Brace.all document = front ++ ⟨opening, true⟩ :: back :=
      Brace.exists_split opens
    -- the closing brace stands behind the opening one
    have behind : (⟨closing, false⟩ : Brace) ∈ back := by
      obtain ⟨front', back', split'⟩ :
          ∃ front' back', Brace.all document = front' ++ ⟨closing, false⟩ :: back' :=
        Brace.exists_split closes
      have member : (⟨closing, false⟩ : Brace) ∈ front ++ ⟨opening, true⟩ :: back := by
        rw [← split, split']
        exact List.mem_append_right front' List.mem_cons_self
      rw [split, List.pairwise_append] at ordered
      rcases List.mem_append.mp member with early | late
      · have reversed : closing < opening := ordered.2.2 _ early _ List.mem_cons_self
        exact absurd before (Position.lt_asymm reversed)
      · rcases List.mem_cons.mp late with same | late
        · cases same
        · exact late
    obtain ⟨inner, after, rfl⟩ := List.append_of_mem behind
    rw [mem_all_iff split, Brace.closing?_one_eq_some_iff]
    refine ⟨inner, after, rfl, ?_⟩
    rw [← Brace.bracesBetween_of_split split]
    exact balanced

/-- **Pairs are found in the order of their closing braces and do not cross**: a later one surrounds
an earlier one or opens behind it.  What is on the stack was opened outside of what lies above it
there, and before all braces that are left. -/
theorem pairwise_pairUp {stack : List Position} {braces : List Brace}
    (nested : stack.Pairwise fun inner outer => outer < inner)
    (open_before : ∀ place ∈ stack, ∀ brace ∈ braces, place < brace.place)
    (ordered : braces.Pairwise fun left right => left.place < right.place) :
    (pairUp stack braces).1.Pairwise fun left right =>
      left.closing < right.closing ∧
        (right.opening < left.opening ∨ left.closing < right.opening) := by
  fun_induction pairUp stack braces with
  | case1 stack => exact .nil
  | case2 stack place rest ih =>
    obtain ⟨behind, ordered⟩ := List.pairwise_cons.mp ordered
    refine ih (.cons ?_ nested) ?_ ordered
    · intro outer below
      exact open_before outer below _ List.mem_cons_self
    · intro pushed member brace later
      rcases List.mem_cons.mp member with rfl | below
      · exact behind brace later
      · exact open_before pushed below brace (List.mem_cons_of_mem _ later)
  | case3 place rest ih =>
    refine ih .nil ?_ ordered.of_cons
    intro place member
    cases member
  | case4 opening stack place rest ih =>
    obtain ⟨behind, ordered⟩ := List.pairwise_cons.mp ordered
    obtain ⟨inside, nested⟩ := List.pairwise_cons.mp nested
    refine .cons ?_ (ih nested ?_ ordered)
    · intro later paired
      refine ⟨behind _ (closing_of_mem_pairUp paired), ?_⟩
      exact (opening_of_mem_pairUp paired).imp (inside _) (behind _)
    · intro outer below brace later
      exact open_before outer (List.mem_cons_of_mem _ below) brace (List.mem_cons_of_mem _ later)

end BracePair

/-! ## Regions -/

/-- The kind of a block, as the declaration on the line of its first brace decides it: a function or
a type that is declared there has its body in the block, and every other block is plain. -/
structure BlockKind.DecidedBy (kind : BlockKind) (declared : Option DeclarationKind) : Prop where
  function : kind = .function ↔ declared = some .function
  typeBody : kind = .typeBody ↔
    ∃ type ∈ [DeclarationKind.plainClass, .interface, .object, .enumClass], declared = some type
  block : kind = .block ↔ declared = none ∨ declared = some .property

theorem BlockKind.decidedBy_ofLine (index : Nat) (line : Line) :
    (ofLine index line).DecidedBy ((Declaration.ofLine? index line).map Declaration.kind) := by
  rw [ofLine]
  generalize (Declaration.ofLine? index line).map Declaration.kind = declared
  cases declared with
  | none => constructor <;> simp
  | some kind => cases kind <;> constructor <;> simp

/-- **The regions of braces are the pairs of braces that match on different lines**, in the order of
their closing braces, with their lines and the kind of block that the first one starts, which is
decided by what its line declares.  Of two such pairs one lies inside of the other or behind it. -/
theorem brace_regions_are_matching_pairs (document : List Line) :
    ∃ pairs : List BracePair,
      BraceRegion.all document =
          pairs.map (fun pair => ⟨pair.span, .at document pair.opening.line⟩) ∧
        (∀ pair, pair ∈ pairs ↔
          pair.Matching document ∧ pair.opening.line < pair.closing.line) ∧
        (∀ pair ∈ pairs, ∃ line, document[pair.opening.line]? = some line ∧
          (BlockKind.at document pair.opening.line).DecidedBy
            ((Declaration.ofLine? pair.opening.line line).map Declaration.kind)) ∧
        pairs.Pairwise fun left right =>
          left.closing < right.closing ∧
            (right.opening < left.opening ∨ left.closing < right.opening) := by
  refine ⟨(BracePair.all document).filter fun pair => pair.opening.line < pair.closing.line,
    ?_, ?_, ?_, ?_⟩
  · rw [BraceRegion.all_eq_filterMap, ← List.filterMap_eq_map, List.filterMap_filter]
    refine List.filterMap_congr fun pair _ => ?_
    simp only [BracePair.region?, decide_eq_true_eq, Function.comp_apply]
  · intro pair
    rw [List.mem_filter, BracePair.mem_all_iff_matching, decide_eq_true_eq]
  · intro pair member
    have opens := (BracePair.mem_all_iff_matching.mp (List.mem_of_mem_filter member)).opens
    obtain ⟨line, present, -⟩ := Option.bind_eq_some_iff.mp opens
    refine ⟨line, present, ?_⟩
    rw [BlockKind.at, present, Option.getD_some]
    exact BlockKind.decidedBy_ofLine pair.opening.line line
  · refine List.Pairwise.filter _ (BracePair.pairwise_pairUp .nil ?_ ?_)
    · intro place member
      cases member
    · exact Brace.pairwise_startingAt 0 document

end KotlinAssist
