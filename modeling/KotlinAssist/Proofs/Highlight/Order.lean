import KotlinAssist.Proofs.Encoding.Columns
import KotlinAssist.Proofs.Highlight.Spans
import Mathlib.Data.List.Forall2

/-!
# Tokens in order

The tokens of a document are found line by line, and on a line none starts inside the one before it.
They are therefore in document order, which is what sending them as differences needs: a client that
adds the differences up again gets the tokens back.  Conversion keeps the order of columns, so this
holds for either unit.

## Main definitions

* `Token.Apart` — a token that ends before another starts
* `Token.Precedes` — the order of tokens
* `Token.SortedFrom` — tokens in that order from a line on
* `Token.Corresponds` — the same token in characters and in code units

## Main statements

* `Token.exists_line_of_mem_startingAt` — a token was found on its line
* `Token.apart_ofLines` — the tokens of a document do not overlap
* `Token.pairwise_ofLines` — they are in order
* `Token.decode_full`, `Token.decode_inRange` — what a client decodes
-/

namespace KotlinAssist

open Text

namespace Token

/-- A token that ends before another starts. -/
def Apart (left right : Token) : Prop :=
  left.line < right.line ∨ left.line = right.line ∧ left.stop ≤ right.start

/-- A token that starts before another or at the same place. -/
def Precedes (left right : Token) : Prop :=
  left.line < right.line ∨ left.line = right.line ∧ left.start ≤ right.start

/-- Tokens in document order, of which none stands above a given line. -/
structure SortedFrom (baseLine : Nat) (tokens : List Token) : Prop where
  below : ∀ token ∈ tokens, baseLine ≤ token.line
  ordered : tokens.Pairwise Precedes

theorem Apart.precedes {left right : Token} (apart : left.Apart right) : left.Precedes right :=
  apart.imp_right fun ⟨sameLine, ends⟩ =>
    ⟨sameLine, Nat.le_trans (Nat.le_add_right _ _) ends⟩

/-! ## The tokens of a line -/

/-- When the tokens found on a line are in order, none of them is moved. -/
theorem ofLine_of_pairwise {index : Nat} {opened : OpenComment} {line : Line}
    (ordered : ((comments index opened line).1 ++ words index line ++
      (declared? index line).toList ++ literals index line).Pairwise fun left right =>
        before left right = true) :
    ofLine index opened line =
      (dropHidden 0 ((comments index opened line).1 ++ words index line ++
        (declared? index line).toList ++ literals index line), (comments index opened line).2) := by
  unfold ofLine
  rw [← List.mergeSort_of_pairwise ordered]

theorem le_start_of_mem_dropHidden {tokens : List Token} {column : Nat} {token : Token}
    (member : token ∈ dropHidden column tokens) : column ≤ token.start := by
  induction tokens generalizing column with
  | nil => cases member
  | cons first rest ih =>
    rw [dropHidden] at member
    split at member
    · exact ih member
    · next shown =>
      simp only [Bool.or_eq_true, decide_eq_true_eq, not_or, Nat.not_lt] at shown
      rcases List.mem_cons.mp member with rfl | later
      · exact shown.2
      · have behind := ih later
        rw [stop] at behind
        omega

/-- What is left when hidden tokens are dropped does not overlap. -/
theorem pairwise_dropHidden (column : Nat) (tokens : List Token) :
    (dropHidden column tokens).Pairwise fun left right => left.stop ≤ right.start := by
  induction tokens generalizing column with
  | nil => exact .nil
  | cons first rest ih =>
    rw [dropHidden]
    split
    · exact ih column
    · exact .cons (fun _ member => le_start_of_mem_dropHidden member) (ih first.stop)

theorem apart_ofLine (index : Nat) (opened : OpenComment) (line : Line) :
    (ofLine index opened line).1.Pairwise Apart := by
  have ends : (ofLine index opened line).1.Pairwise fun left right =>
      left.stop ≤ right.start :=
    pairwise_dropHidden 0 _
  refine ends.imp_of_mem ?_
  intro left right memberLeft memberRight before
  have sameLine : left.line = right.line := by
    rw [line_of_mem_ofLine memberLeft, line_of_mem_ofLine memberRight]
  exact .inr ⟨sameLine, before⟩

/-! ## The tokens of a document -/

/-- **Every token was found on its line**, read behind some comment that was open there. -/
theorem exists_line_of_mem_startingAt {lines : List Line} {index : Nat} {opened : OpenComment}
    {token : Token} (member : token ∈ startingAt index opened lines) :
    index ≤ token.line ∧ ∃ line before, lines[token.line - index]? = some line ∧
      token ∈ (ofLine token.line before line).1 := by
  induction lines generalizing index opened with
  | nil => cases member
  | cons line rest ih =>
    rw [startingAt] at member
    rcases List.mem_append.mp member with here | later
    · obtain rfl := line_of_mem_ofLine here
      refine ⟨Nat.le_refl _, line, opened, ?_, here⟩
      rw [Nat.sub_self]
      rfl
    · obtain ⟨below, found, before, present, read⟩ := ih later
      refine ⟨Nat.le_of_succ_le below, found, before, ?_, read⟩
      rw [show token.line - index = token.line - (index + 1) + 1 by omega]
      exact present

theorem line_of_mem_startingAt {lines : List Line} {index : Nat} {opened : OpenComment}
    {token : Token} (member : token ∈ startingAt index opened lines) :
    index ≤ token.line ∧ token.line < index + lines.length := by
  obtain ⟨below, line, before, present, -⟩ := exists_line_of_mem_startingAt member
  have inside := (List.getElem?_eq_some_iff.mp present).1
  omega

theorem apart_startingAt (index : Nat) (opened : OpenComment) (lines : List Line) :
    (startingAt index opened lines).Pairwise Apart := by
  induction lines generalizing index opened with
  | nil => exact .nil
  | cons line rest ih =>
    rw [startingAt]
    refine List.pairwise_append.mpr ⟨apart_ofLine index opened line, ih _ _, ?_⟩
    intro left memberLeft right memberRight
    have sameLine := line_of_mem_ofLine memberLeft
    have below := (line_of_mem_startingAt memberRight).1
    exact .inl (by omega)

/-- **The tokens of a document do not overlap**, and each ends before the next starts. -/
theorem apart_ofLines (lines : List Line) : (ofLines lines).Pairwise Apart :=
  apart_startingAt 0 none lines

/-- The tokens of a document are in order. -/
theorem pairwise_ofLines (lines : List Line) : (ofLines lines).Pairwise Precedes :=
  (apart_ofLines lines).imp Apart.precedes

theorem line_lt_of_mem_ofLines {lines : List Line} {token : Token}
    (member : token ∈ ofLines lines) : token.line < lines.length := by
  have bounds := line_of_mem_startingAt member
  omega

/-! ## Sending tokens as differences -/

/-- A token that does not come before a place is found again from its difference to the place. -/
theorem absolute_relative {line start : Nat} {token : Token}
    (behind : line < token.line ∨ line = token.line ∧ start ≤ token.start) :
    absolute line start (token.relative line start) = token := by
  obtain ⟨line', start', length, type, modifiers⟩ := token
  simp only [absolute, relative, mk.injEq, and_true] at behind ⊢
  rcases behind with below | ⟨same, after⟩
  · have moved : line' - line ≠ 0 := by omega
    rw [if_neg moved, if_neg moved]
    omega
  · have stayed : line' - line = 0 := by omega
    rw [if_pos stayed, if_pos stayed]
    omega

/-- Tokens in order are found again from their differences. -/
theorem decodeFrom_encodeFrom {tokens : List Token} {line start : Nat}
    (behind : ∀ token ∈ tokens, line < token.line ∨ line = token.line ∧ start ≤ token.start)
    (ordered : tokens.Pairwise Precedes) :
    decodeFrom line start (encodeFrom line start tokens) = tokens := by
  induction tokens generalizing line start with
  | nil => rfl
  | cons token rest ih =>
    have first := absolute_relative (behind token List.mem_cons_self)
    obtain ⟨next, later⟩ := List.pairwise_cons.mp ordered
    -- what has just been decoded is the place that the next token is relative to
    simp only [encodeFrom, decodeFrom]
    rw [first, ih next later]

theorem decode_encode {tokens : List Token} {baseLine : Nat} (sorted : SortedFrom baseLine tokens) :
    decode (encode tokens baseLine) baseLine = tokens := by
  refine decodeFrom_encodeFrom ?_ sorted.ordered
  intro token member
  rcases Nat.lt_or_eq_of_le (sorted.below token member) with later | same
  · exact .inl later
  · exact .inr ⟨same, Nat.zero_le _⟩

/-! ## Tokens in the columns of a client -/

@[simp] theorem line_convert (encoding : Encoding) (lines : List Line) (token : Token) :
    (token.convert encoding lines).line = token.line := by
  cases encoding <;> rfl

/-- Conversion keeps the order of tokens. -/
theorem Precedes.convert {left right : Token} (ordered : left.Precedes right)
    (encoding : Encoding) (lines : List Line) :
    (left.convert encoding lines).Precedes (right.convert encoding lines) := by
  rcases ordered with earlier | ⟨same, before⟩
  · refine .inl ?_
    rw [line_convert, line_convert]
    exact earlier
  · refine .inr ⟨by rw [line_convert, line_convert, same], ?_⟩
    cases encoding with
    | utf32 => exact before
    | utf16 =>
      simp only [Token.convert, same]
      exact unitOfChar_le_unitOfChar _ before

theorem SortedFrom.convert {baseLine : Nat} {tokens : List Token}
    (sorted : SortedFrom baseLine tokens) (encoding : Encoding) (lines : List Line) :
    SortedFrom baseLine (tokens.map (Token.convert encoding lines)) where
  below := by
    intro token member
    obtain ⟨original, present, rfl⟩ := List.mem_map.mp member
    rw [line_convert]
    exact sorted.below original present
  ordered := List.pairwise_map.mpr (sorted.ordered.imp fun before => before.convert encoding lines)

theorem sortedFrom_ofLines (lines : List Line) : SortedFrom 0 (ofLines lines) where
  below := fun _ _ => Nat.zero_le _
  ordered := pairwise_ofLines lines

/-- **A client decodes all tokens of a document**, in its own columns. -/
theorem decode_full (encoding : Encoding) (lines : List Line) :
    decode (full encoding lines) 0 = (ofLines lines).map (convert encoding lines) :=
  decode_encode ((sortedFrom_ofLines lines).convert encoding lines)

/-- The tokens on the lines of a range. -/
def within (range : Range) (lines : List Line) : List Token :=
  (ofLines lines).filter fun token =>
    range.start.line ≤ token.line && token.line ≤ max range.stop.line range.start.line

theorem sortedFrom_within (range : Range) (lines : List Line) :
    SortedFrom range.start.line (within range lines) where
  below := by
    intro token member
    have bounds := (List.mem_filter.mp member).2
    rw [Bool.and_eq_true, decide_eq_true_eq] at bounds
    exact bounds.1
  ordered := (pairwise_ofLines lines).filter _

/-- A client decodes the tokens on the lines of a range, counted from its first line. -/
theorem decode_inRange (encoding : Encoding) (lines : List Line) (range : Range) :
    decode (inRange encoding lines range) range.start.line =
      (within range lines).map (convert encoding lines) :=
  decode_encode ((sortedFrom_within range lines).convert encoding lines)

/-- Of the range for which tokens are asked, only the lines matter. -/
theorem inRange_of_lines_eq (encoding : Encoding) (lines : List Line) {left right : Range}
    (start : left.start.line = right.start.line) (stop : left.stop.line = right.stop.line) :
    inRange encoding lines left = inRange encoding lines right := by
  rw [inRange, inRange, start, stop]

/-- The same token in characters and in code units. -/
structure Corresponds (document : List Line) (chars units : Token) : Prop where
  line : units.line = chars.line
  type : units.type = chars.type
  modifiers : units.modifiers = chars.modifiers
  columns : ∃ line, document[chars.line]? = some line ∧
    units.start = unitOfChar line chars.start ∧ units.stop = unitOfChar line chars.stop

/-- Conversion to code units gives the same token. -/
theorem corresponds_convert {document : List Line} {token : Token}
    (member : token ∈ ofLines document) :
    Corresponds document token (token.convert .utf16 document) where
  line := rfl
  type := rfl
  modifiers := rfl
  columns := by
    obtain ⟨line, present⟩ : ∃ line, document[token.line]? = some line :=
      ⟨_, List.getElem?_eq_getElem (line_lt_of_mem_ofLines member)⟩
    refine ⟨line, present, ?_, ?_⟩
    · simp only [convert, present, Option.getD_some]
    · have ordered : token.start ≤ token.stop := Nat.le_add_right _ _
      have kept := unitOfChar_le_unitOfChar line ordered
      simp only [convert, present, Option.getD_some, stop] at kept ⊢
      omega

/-- Tokens of a document correspond, one by one, to what they are in code units. -/
theorem forall₂_corresponds {document : List Line} {tokens : List Token}
    (found : ∀ token ∈ tokens, token ∈ ofLines document) :
    List.Forall₂ (Corresponds document) (tokens.map (convert .utf32 document))
      (tokens.map (convert .utf16 document)) := by
  rw [List.forall₂_map_left_iff, List.forall₂_map_right_iff, List.forall₂_same]
  intro token member
  exact corresponds_convert (found token member)

end Token

end KotlinAssist
