import KotlinAssist.Fold
import KotlinAssist.Proofs.Word.Document

/-!
# Pairs of braces

The braces of a document are a sequence, whatever stands between them and however they are spread
over lines.  A stack of the braces that are open pairs them up: a closing brace belongs to the one
that was opened last, and closes nothing when none is open.  The pass over the lines that finds
regions of braces does the same and forgets the columns.

The partner of an opening brace can also be found without a stack, by counting: it is the first
closing brace at which no more braces have been opened than closed.  What was open before the brace
lies below it on the stack and is never reached while it is open.

## Main definitions

* `Brace.all` — the braces of a document, in order
* `BracePair.all` — the pairs, in the order of their closing braces
* `Brace.closing?` — the place where a number of open braces has been closed

## Main statements

* `BraceRegion.all_eq_filterMap` — regions are the pairs on different lines
* `BracePair.mem_all_iff` — the partner of a brace is found by counting
-/

namespace KotlinAssist

open Text

/-- A brace of a document: where it stands, and whether it opens a block. -/
structure Brace where
  place : Position
  opens : Bool
  deriving DecidableEq

namespace Brace

/-- The character of a brace. -/
def char (brace : Brace) : Char :=
  if brace.opens then '{' else '}'

/-- The braces of the part of a line that starts at a column. -/
def ofLine (index column : Nat) : Line → List Brace
  | [] => []
  | c :: rest =>
    if c = '{' then ⟨⟨index, column⟩, true⟩ :: ofLine index (column + 1) rest
    else if c = '}' then ⟨⟨index, column⟩, false⟩ :: ofLine index (column + 1) rest
    else ofLine index (column + 1) rest

/-- The braces of lines numbered from `index` on. -/
def startingAt (index : Nat) : List Line → List Brace
  | [] => []
  | line :: rest => ofLine index 0 line ++ startingAt (index + 1) rest

/-- The braces of a document. -/
def all (document : List Line) : List Brace :=
  startingAt 0 document

/-- The place where `depth` open braces, and those opened on the way, have been closed. -/
def closing? (depth : Nat) : List Brace → Option Position
  | [] => none
  | ⟨_, true⟩ :: rest => closing? (depth + 1) rest
  | ⟨place, false⟩ :: rest => if depth ≤ 1 then some place else closing? (depth - 1) rest

/-! ## Where braces stand -/

theorem ofLine_append (index column : Nat) (front back : Line) :
    ofLine index column (front ++ back) =
      ofLine index column front ++ ofLine index (column + front.length) back := by
  induction front generalizing column with
  | nil => rfl
  | cons c front ih =>
    have next : column + (c :: front).length = column + 1 + front.length := by
      rw [List.length_cons]
      omega
    rw [List.cons_append, ofLine, ofLine, ih, next]
    split
    · rfl
    · split <;> rfl

theorem startingAt_append (index : Nat) (above below : List Line) :
    startingAt index (above ++ below) =
      startingAt index above ++ startingAt (index + above.length) below := by
  induction above generalizing index with
  | nil => rfl
  | cons line above ih =>
    have next : index + (line :: above).length = index + 1 + above.length := by
      rw [List.length_cons]
      omega
    rw [List.cons_append, startingAt, startingAt, ih, next, List.append_assoc]

theorem ofLine_char_cons (index column : Nat) (opens : Bool) (rest : Line) :
    ofLine index column (char ⟨⟨index, column⟩, opens⟩ :: rest) =
      ⟨⟨index, column⟩, opens⟩ :: ofLine index (column + 1) rest := by
  cases opens <;> rfl

/-- The braces of a document, cut at a brace of one of its lines. -/
theorem all_of_cut (above below : List Line) (front back : Line) (opens : Bool) :
    all (above ++ (front ++ char ⟨⟨above.length, front.length⟩, opens⟩ :: back) :: below) =
      (startingAt 0 above ++ ofLine above.length 0 front) ++
        ⟨⟨above.length, front.length⟩, opens⟩ ::
          (ofLine above.length (front.length + 1) back ++
            startingAt (above.length + 1) below) := by
  rw [all, startingAt_append, startingAt, ofLine_append, Nat.zero_add, Nat.zero_add,
    ofLine_char_cons]
  simp only [List.append_assoc, List.cons_append]

theorem exists_of_mem_ofLine {index column : Nat} {line : Line} {brace : Brace}
    (member : brace ∈ ofLine index column line) :
    ∃ front back, line = front ++ (if brace.opens then '{' else '}') :: back ∧
      brace.place = ⟨index, column + front.length⟩ := by
  induction line generalizing column with
  | nil => cases member
  | cons c rest ih =>
    have later (member : brace ∈ ofLine index (column + 1) rest) :
        ∃ front back, c :: rest = front ++ (if brace.opens then '{' else '}') :: back ∧
          brace.place = ⟨index, column + front.length⟩ := by
      obtain ⟨front, back, whole, placed⟩ := ih member
      refine ⟨c :: front, back, by rw [whole, List.cons_append], ?_⟩
      rw [placed, List.length_cons, Nat.add_assoc, Nat.add_comm 1]
    rw [ofLine] at member
    split at member
    · next opening =>
      rcases List.mem_cons.mp member with rfl | member
      · exact ⟨[], rest, by rw [opening]; rfl, rfl⟩
      · exact later member
    · split at member
      · next closing =>
        rcases List.mem_cons.mp member with rfl | member
        · exact ⟨[], rest, by rw [closing]; rfl, rfl⟩
        · exact later member
      · exact later member

/-- A brace stands on one of the lines, where the line has that character. -/
theorem exists_of_mem_startingAt {index : Nat} {document : List Line} {brace : Brace}
    (member : brace ∈ startingAt index document) :
    ∃ above front back below,
      document = above ++ (front ++ (if brace.opens then '{' else '}') :: back) :: below ∧
        brace.place = ⟨index + above.length, front.length⟩ := by
  induction document generalizing index with
  | nil => cases member
  | cons line rest ih =>
    rcases List.mem_append.mp member with here | later
    · obtain ⟨front, back, rfl, placed⟩ := exists_of_mem_ofLine here
      exact ⟨[], front, back, rest, rfl, by rw [placed, Nat.zero_add]; rfl⟩
    · obtain ⟨above, front, back, below, rfl, placed⟩ := ih later
      refine ⟨line :: above, front, back, below, rfl, ?_⟩
      rw [placed, List.length_cons, Nat.add_assoc, Nat.add_comm 1]

/-- The braces of a line are in order. -/
theorem pairwise_ofLine (index column : Nat) (line : Line) :
    (ofLine index column line).Pairwise fun left right => left.place < right.place := by
  induction line generalizing column with
  | nil => exact .nil
  | cons c rest ih =>
    have behind (opens : Bool) : ∀ brace ∈ ofLine index (column + 1) rest,
        (Brace.mk ⟨index, column⟩ opens).place < brace.place := by
      intro brace member
      obtain ⟨front, -, -, placed⟩ := exists_of_mem_ofLine member
      rw [placed]
      refine .inr ⟨rfl, ?_⟩
      show column < column + 1 + front.length
      omega
    rw [ofLine]
    split
    · exact .cons (behind true) (ih (column + 1))
    · split
      · exact .cons (behind false) (ih (column + 1))
      · exact ih (column + 1)

/-- The braces of a document are in order. -/
theorem pairwise_startingAt (index : Nat) (document : List Line) :
    (startingAt index document).Pairwise fun left right => left.place < right.place := by
  induction document generalizing index with
  | nil => exact .nil
  | cons line rest ih =>
    refine List.pairwise_append.mpr ⟨pairwise_ofLine index 0 line, ih (index + 1), ?_⟩
    intro left memberLeft right memberRight
    obtain ⟨_, _, _, placedLeft⟩ := exists_of_mem_ofLine memberLeft
    obtain ⟨above, _, _, _, _, placedRight⟩ := exists_of_mem_startingAt memberRight
    rw [placedLeft, placedRight]
    refine .inl ?_
    show index < index + 1 + above.length
    omega

end Brace

/-! ## Pairing up -/

/-- An opening brace and the closing brace that belongs to it. -/
structure BracePair where
  opening : Position
  closing : Position
  deriving DecidableEq

namespace BracePair

/-- The lines from the opening brace to the closing one. -/
def span (pair : BracePair) : LineSpan :=
  ⟨pair.opening.line, pair.closing.line⟩

/-- Pairs up braces, where `stack` holds the opening braces that are open, the innermost first.  The
result is the pairs and what is open at the end. -/
def pairUp : List Position → List Brace → List BracePair × List Position
  | stack, [] => ([], stack)
  | stack, ⟨place, true⟩ :: rest => pairUp (place :: stack) rest
  | [], ⟨_, false⟩ :: rest => pairUp [] rest
  | opening :: stack, ⟨place, false⟩ :: rest =>
    (⟨opening, place⟩ :: (pairUp stack rest).1, (pairUp stack rest).2)

/-- The pairs of braces of a document, in the order of their closing braces. -/
def all (document : List Line) : List BracePair :=
  (pairUp [] (Brace.all document)).1

theorem pairUp_append (stack : List Position) (front back : List Brace) :
    pairUp stack (front ++ back) =
      ((pairUp stack front).1 ++ (pairUp (pairUp stack front).2 back).1,
        (pairUp (pairUp stack front).2 back).2) := by
  fun_induction pairUp stack front with
  | case1 stack => rfl
  | case2 stack place rest ih => exact ih
  | case3 place rest ih => exact ih
  | case4 opening stack place rest ih =>
    rw [List.cons_append, pairUp, ih]
    rfl

/-- Every pair starts with a brace that was open before or that is one of those paired up. -/
theorem opening_of_mem_pairUp {stack : List Position} {braces : List Brace} {pair : BracePair}
    (member : pair ∈ (pairUp stack braces).1) :
    pair.opening ∈ stack ∨ ⟨pair.opening, true⟩ ∈ braces := by
  fun_induction pairUp stack braces with
  | case1 stack => cases member
  | case2 stack place rest ih =>
    rcases ih member with pushed | later
    · rcases List.mem_cons.mp pushed with same | below
      · exact .inr (by rw [same]; exact List.mem_cons_self)
      · exact .inl below
    · exact .inr (List.mem_cons_of_mem _ later)
  | case3 place rest ih =>
    rcases ih member with pushed | later
    · cases pushed
    · exact .inr (List.mem_cons_of_mem _ later)
  | case4 opening stack place rest ih =>
    rcases List.mem_cons.mp member with rfl | member
    · exact .inl List.mem_cons_self
    · rcases ih member with below | later
      · exact .inl (List.mem_cons_of_mem _ below)
      · exact .inr (List.mem_cons_of_mem _ later)

/-- Every pair ends with a closing brace of those paired up. -/
theorem closing_of_mem_pairUp {stack : List Position} {braces : List Brace}
    {pair : BracePair} (member : pair ∈ (pairUp stack braces).1) :
    ⟨pair.closing, false⟩ ∈ braces := by
  fun_induction pairUp stack braces with
  | case1 stack => cases member
  | case2 stack place rest ih => exact List.mem_cons_of_mem _ (ih member)
  | case3 place rest ih => exact List.mem_cons_of_mem _ (ih member)
  | case4 opening stack place rest ih =>
    rcases List.mem_cons.mp member with rfl | later
    · exact List.mem_cons_self
    · exact List.mem_cons_of_mem _ (ih later)

/-- **A brace on the stack is closed where the count says.**  The braces `inner` were opened after
it and are still open; those below it on the stack do not matter. -/
theorem mem_pairUp_iff_closing? {opening place : Position} {inner stack : List Position}
    {braces : List Brace} (notInner : opening ∉ inner) (notBelow : opening ∉ stack)
    (notLater : ⟨opening, true⟩ ∉ braces) :
    ⟨opening, place⟩ ∈ (pairUp (inner ++ opening :: stack) braces).1 ↔
      Brace.closing? (inner.length + 1) braces = some place := by
  induction braces generalizing inner with
  | nil => simp [pairUp, Brace.closing?]
  | cons brace rest ih =>
    obtain ⟨found, opens⟩ := brace
    have notRest : ⟨opening, true⟩ ∉ rest := fun later =>
      notLater (List.mem_cons_of_mem _ later)
    cases opens with
    | true =>
      have other : opening ≠ found := by
        rintro rfl
        exact notLater List.mem_cons_self
      have notPushed : opening ∉ found :: inner := by
        rw [List.mem_cons, not_or]
        exact ⟨other, notInner⟩
      rw [pairUp, Brace.closing?]
      exact ih notPushed notRest
    | false =>
      cases inner with
      | nil =>
        have outermost : ([] : List Position).length + 1 ≤ 1 := Nat.le_refl 1
        rw [List.nil_append, pairUp, Brace.closing?, if_pos outermost, List.mem_cons,
          BracePair.mk.injEq, Option.some.injEq]
        constructor
        · rintro (⟨-, same⟩ | member)
          · exact same.symm
          · rcases opening_of_mem_pairUp member with below | later
            · exact absurd below notBelow
            · exact absurd later notRest
        · intro same
          exact .inl ⟨rfl, same.symm⟩
      | cons last inner =>
        rw [List.mem_cons, not_or] at notInner
        have deeper : ¬ (last :: inner).length + 1 ≤ 1 := by
          rw [List.length_cons]
          omega
        rw [List.cons_append, pairUp, Brace.closing?, if_neg deeper, List.mem_cons,
          BracePair.mk.injEq, List.length_cons, Nat.add_sub_cancel]
        constructor
        · rintro (⟨same, -⟩ | member)
          · exact absurd same notInner.1
          · exact (ih notInner.2 notRest).mp member
        · intro closed
          exact .inr ((ih notInner.2 notRest).mpr closed)

/-- **The partner of a brace is found by counting** from that brace on, whatever stands before it.
-/
theorem mem_pairUp_iff {opening place : Position} {stack : List Position}
    {front back : List Brace} (notOpen : opening ∉ stack)
    (notBefore : ⟨opening, true⟩ ∉ front) (notLater : ⟨opening, true⟩ ∉ back) :
    ⟨opening, place⟩ ∈ (pairUp stack (front ++ ⟨opening, true⟩ :: back)).1 ↔
      Brace.closing? 1 back = some place := by
  induction front generalizing stack with
  | nil =>
    rw [List.nil_append, pairUp]
    exact mem_pairUp_iff_closing? List.not_mem_nil notOpen notLater
  | cons brace front ih =>
    obtain ⟨found, opens⟩ := brace
    rw [List.mem_cons, not_or] at notBefore
    rw [List.cons_append]
    cases opens with
    | true =>
      have notPushed : opening ∉ found :: stack := by
        rw [List.mem_cons, not_or]
        exact ⟨fun same => notBefore.1 (by rw [same]), notOpen⟩
      rw [pairUp]
      exact ih notPushed notBefore.2
    | false =>
      cases stack with
      | nil =>
        rw [pairUp]
        exact ih notOpen notBefore.2
      | cons last stack =>
        rw [List.mem_cons, not_or] at notOpen
        rw [pairUp, List.mem_cons, BracePair.mk.injEq, ih notOpen.2 notBefore.2]
        exact or_iff_right fun same => notOpen.1 same.1

/-- Every pair of a document starts at an opening brace of one of its lines. -/
theorem exists_cut_of_mem_all {document : List Line} {pair : BracePair}
    (member : pair ∈ all document) :
    ∃ above front back below, document = above ++ (front ++ '{' :: back) :: below ∧
      pair.opening = ⟨above.length, front.length⟩ := by
  rcases opening_of_mem_pairUp member with pushed | among
  · cases pushed
  · obtain ⟨above, front, back, below, whole, placed⟩ := Brace.exists_of_mem_startingAt among
    exact ⟨above, front, back, below, whole, by rw [← Nat.zero_add above.length]; exact placed⟩

/-- The same for the braces of a document, which stand at different places. -/
theorem mem_all_iff {document : List Line} {opening place : Position} {front back : List Brace}
    (braces : Brace.all document = front ++ ⟨opening, true⟩ :: back) :
    ⟨opening, place⟩ ∈ all document ↔ Brace.closing? 1 back = some place := by
  have ordered := Brace.pairwise_startingAt 0 document
  rw [← Brace.all, braces, List.pairwise_append, List.pairwise_cons] at ordered
  obtain ⟨-, ⟨behind, -⟩, before⟩ := ordered
  rw [all, braces]
  refine mem_pairUp_iff List.not_mem_nil ?_ ?_
  · intro among
    exact Position.lt_irrefl _ (before _ among _ List.mem_cons_self)
  · intro among
    exact Position.lt_irrefl _ (behind _ among)

end BracePair

/-! ## Regions -/

/-- The kind of the blocks that open on a line of a document. -/
def BlockKind.at (document : List Line) (index : Nat) : BlockKind :=
  ofLine index (document[index]?.getD [])

/-- The region of a pair of braces, if they stand on different lines. -/
def BracePair.region? (kinds : Nat → BlockKind) (pair : BracePair) : Option BraceRegion :=
  if pair.opening.line < pair.closing.line then some ⟨pair.span, kinds pair.opening.line⟩ else none

namespace BraceRegion

/-- What the pass over the lines keeps of the braces that are open. -/
def stackOf (kinds : Nat → BlockKind) (stack : List Position) : BraceStack :=
  stack.map fun place => (place.line, kinds place.line)

/-- Reading a line pairs up its braces. -/
theorem scan_eq_pairUp (kinds : Nat → BlockKind) (index column : Nat) (stack : List Position)
    (line : Line) :
    scan index (kinds index) (stackOf kinds stack) line =
      ((BracePair.pairUp stack (Brace.ofLine index column line)).1.filterMap
          (BracePair.region? kinds),
        stackOf kinds (BracePair.pairUp stack (Brace.ofLine index column line)).2) := by
  induction line generalizing column stack with
  | nil => rfl
  | cons c rest ih =>
    rw [scan.eq_def, Brace.ofLine]
    dsimp only
    split
    · exact ih (column + 1) (⟨index, column⟩ :: stack)
    · split
      · cases stack with
        | nil => exact ih (column + 1) []
        | cons opening stack =>
          have later := ih (column + 1) stack
          simp only [stackOf, List.map_cons] at later ⊢
          rw [later, BracePair.pairUp, List.filterMap_cons]
          simp only [BracePair.region?, BracePair.span]
          split <;> rfl
      · exact ih (column + 1) stack

/-- Reading lines pairs up their braces, if `kinds` tells the kinds of these lines. -/
theorem startingAt_eq_filterMap {kinds : Nat → BlockKind} {index : Nat} {document : List Line}
    (known : ∀ offset line, document[offset]? = some line →
      kinds (index + offset) = .ofLine (index + offset) line) (stack : List Position) :
    startingAt index (stackOf kinds stack) document =
      (BracePair.pairUp stack (Brace.startingAt index document)).1.filterMap
        (BracePair.region? kinds) := by
  induction document generalizing index stack with
  | nil => rfl
  | cons line rest ih =>
    have here : kinds index = .ofLine index line := known 0 line rfl
    have below : ∀ offset line, rest[offset]? = some line →
        kinds (index + 1 + offset) = .ofLine (index + 1 + offset) line := by
      intro offset line present
      rw [Nat.add_assoc, Nat.add_comm 1]
      exact known (offset + 1) line present
    rw [startingAt, ← here, scan_eq_pairUp kinds index 0, Brace.startingAt,
      BracePair.pairUp_append, List.filterMap_append, ← ih below]

/-- **The regions of braces are the pairs on different lines**, in their order and with the kind of
the line on which they open. -/
theorem all_eq_filterMap (document : List Line) :
    all document =
      (BracePair.all document).filterMap (BracePair.region? (BlockKind.at document)) := by
  refine startingAt_eq_filterMap ?_ []
  intro offset line present
  rw [Nat.zero_add, BlockKind.at, present, Option.getD_some]

end BraceRegion

end KotlinAssist
