import KotlinAssist.Proofs.Highlight.Order
import Mathlib.Data.Set.Function

/-!
# Places and differences say the same

A list of tokens in document order is sent as differences, and every list of differences is read
back as tokens in document order.  Reading carries the place that it has reached, writing the token
before; these are the same place, so each step of one undoes the step of the other, on the same line
and on a new one.

A place has 32 bits on the wire.  Reading adds the differences up, so a list of differences makes
sense as long as none of its sums leaves that range.

## Main definitions

* `Token.PlacedBelow` — a token whose place fits on the wire
* `DeltaToken.SumsBelow` — differences whose sums fit on the wire

## Main statements

* `Token.encodeFrom_decodeFrom` — differences are found again from the tokens they place
* `DeltaToken.sumsBelow_iff` — the sums are the places of the tokens
* `Token.differences_biject` — places and differences determine each other
-/

namespace KotlinAssist

open Text

namespace Token

/-- A token whose line and column are below a limit. -/
def PlacedBelow (limit : Nat) (token : Token) : Prop :=
  token.line < limit ∧ token.start < limit

instance (limit : Nat) (token : Token) : Decidable (token.PlacedBelow limit) :=
  inferInstanceAs (Decidable (_ ∧ _))

end Token

namespace DeltaToken

/-- The running sums of the differences, from a place on, stay below a limit: the sum of the lines,
and the sum of the columns since the line last changed. -/
def SumsBelow (limit line start : Nat) : List DeltaToken → Prop
  | [] => True
  | delta :: rest =>
    let line := line + delta.deltaLine
    let start := if delta.deltaLine = 0 then start + delta.deltaStart else delta.deltaStart
    (line < limit ∧ start < limit) ∧ SumsBelow limit line start rest

end DeltaToken

namespace Token

/-! ## Reading differences -/

/-- A difference leads to a place that does not come before the one it starts from. -/
theorem behind_absolute (line start : Nat) (delta : DeltaToken) :
    line < (absolute line start delta).line ∨
      line = (absolute line start delta).line ∧ start ≤ (absolute line start delta).start := by
  by_cases stays : delta.deltaLine = 0
  · right
    simp only [absolute, stays, if_true]
    omega
  · left
    show line < line + delta.deltaLine
    omega

theorem behind_of_mem_decodeFrom {deltas : List DeltaToken} {line start : Nat} {token : Token}
    (member : token ∈ decodeFrom line start deltas) :
    line < token.line ∨ line = token.line ∧ start ≤ token.start := by
  induction deltas generalizing line start with
  | nil => cases member
  | cons delta rest ih =>
    have first := behind_absolute line start delta
    rcases List.mem_cons.mp member with rfl | later
    · exact first
    · have next := ih later
      omega

/-- What is read from differences is in document order. -/
theorem pairwise_decodeFrom (line start : Nat) (deltas : List DeltaToken) :
    (decodeFrom line start deltas).Pairwise Precedes := by
  induction deltas generalizing line start with
  | nil => exact .nil
  | cons delta rest ih =>
    refine .cons ?_ (ih _ _)
    intro token member
    exact behind_of_mem_decodeFrom member

theorem sortedFrom_decode (deltas : List DeltaToken) (baseLine : Nat) :
    SortedFrom baseLine (decode deltas baseLine) where
  below := by
    intro token member
    have behind := behind_of_mem_decodeFrom member
    omega
  ordered := pairwise_decodeFrom baseLine 0 deltas

/-! ## Writing what has been read -/

/-- A difference is found again from the place that it leads to. -/
theorem relative_absolute (line start : Nat) (delta : DeltaToken) :
    (absolute line start delta).relative line start = delta := by
  obtain ⟨deltaLine, deltaStart, length, type, modifiers⟩ := delta
  have sameLine : line + deltaLine - line = deltaLine := Nat.add_sub_cancel_left line deltaLine
  simp only [relative, absolute, sameLine, DeltaToken.mk.injEq, and_true, true_and]
  split
  · exact Nat.add_sub_cancel_left start deltaStart
  · rfl

/-- Differences are found again from the tokens that they place. -/
theorem encodeFrom_decodeFrom (line start : Nat) (deltas : List DeltaToken) :
    encodeFrom line start (decodeFrom line start deltas) = deltas := by
  induction deltas generalizing line start with
  | nil => rfl
  | cons delta rest ih =>
    -- the token just read is the place from which both sides go on
    simp only [decodeFrom, encodeFrom]
    rw [relative_absolute, ih]

theorem encode_decode (deltas : List DeltaToken) (baseLine : Nat) :
    encode (decode deltas baseLine) baseLine = deltas :=
  encodeFrom_decodeFrom baseLine 0 deltas

end Token

/-! ## Sums on the wire -/

/-- The running sums are the places of the tokens that are read. -/
theorem DeltaToken.sumsBelow_iff {limit line start : Nat} {deltas : List DeltaToken} :
    SumsBelow limit line start deltas ↔
      ∀ token ∈ Token.decodeFrom line start deltas, token.PlacedBelow limit := by
  induction deltas generalizing line start with
  | nil => simp [SumsBelow, Token.decodeFrom]
  | cons delta rest ih =>
    simp only [SumsBelow, Token.decodeFrom, List.forall_mem_cons, Token.PlacedBelow]
    rw [ih]
    exact Iff.rfl

instance (limit line start : Nat) (deltas : List DeltaToken) :
    Decidable (DeltaToken.SumsBelow limit line start deltas) :=
  decidable_of_iff _ DeltaToken.sumsBelow_iff.symm

namespace Token

/-- The differences of tokens whose places fit on the wire have sums that fit on it. -/
theorem sumsBelow_encode {limit baseLine : Nat} {tokens : List Token}
    (sorted : SortedFrom baseLine tokens) (placed : ∀ token ∈ tokens, token.PlacedBelow limit) :
    DeltaToken.SumsBelow limit baseLine 0 (encode tokens baseLine) := by
  rw [DeltaToken.sumsBelow_iff]
  have same : decodeFrom baseLine 0 (encode tokens baseLine) = tokens :=
    decode_encode sorted
  rw [same]
  exact placed

/-- **Places and differences determine each other.**  Tokens in document order, from a line on, are
found again from their differences.  Differences whose sums stay in 32 bits place tokens in document
order, in 32 bits, and are found again from them.  So writing is a bijection between the two. -/
theorem differences_biject (baseLine : Nat) :
    (∀ tokens, SortedFrom baseLine tokens → decode (encode tokens baseLine) baseLine = tokens) ∧
    (∀ deltas, DeltaToken.SumsBelow Encoding.columnLimit baseLine 0 deltas →
      SortedFrom baseLine (decode deltas baseLine) ∧
      (∀ token ∈ decode deltas baseLine, token.PlacedBelow Encoding.columnLimit) ∧
      encode (decode deltas baseLine) baseLine = deltas) ∧
    Set.BijOn (fun tokens => encode tokens baseLine)
      {tokens | SortedFrom baseLine tokens ∧
        ∀ token ∈ tokens, token.PlacedBelow Encoding.columnLimit}
      {deltas | DeltaToken.SumsBelow Encoding.columnLimit baseLine 0 deltas} := by
  refine ⟨fun _ => decode_encode, ?_, ?_, ?_, ?_⟩
  · intro deltas fits
    exact ⟨sortedFrom_decode deltas baseLine, DeltaToken.sumsBelow_iff.mp fits,
      encode_decode deltas baseLine⟩
  · rintro tokens ⟨sorted, placed⟩
    exact sumsBelow_encode sorted placed
  · rintro left ⟨sortedLeft, -⟩ right ⟨sortedRight, -⟩ same
    rw [← decode_encode sortedLeft, ← decode_encode sortedRight]
    exact congrArg (decode · baseLine) same
  · intro deltas fits
    refine ⟨decode deltas baseLine, ⟨sortedFrom_decode deltas baseLine, ?_⟩,
      encode_decode deltas baseLine⟩
    exact DeltaToken.sumsBelow_iff.mp fits

/-- Two tokens at one place, a third further on its line and a fourth two lines below, counted from
a line above them all; and the differences between them. -/
theorem differences_biject_at_equal_places :
    let tokens : List Token :=
      [⟨4, 2, 3, 0, 0⟩, ⟨4, 2, 1, 5, 1⟩, ⟨4, 7, 2, 1, 0⟩, ⟨6, 1, 4, 10, 16⟩]
    let deltas : List DeltaToken :=
      [⟨1, 2, 3, 0, 0⟩, ⟨0, 0, 1, 5, 1⟩, ⟨0, 5, 2, 1, 0⟩, ⟨2, 1, 4, 10, 16⟩]
    decode deltas 3 = tokens ∧ encode tokens 3 = deltas ∧
      decode (encode tokens 3) 3 = tokens ∧ encode (decode deltas 3) 3 = deltas := by
  intro tokens deltas
  have read : decode deltas 3 = tokens := by decide
  obtain ⟨there, back, -⟩ := differences_biject 3
  obtain ⟨sorted, -, same⟩ := back deltas (by decide)
  refine ⟨read, ?_, there tokens (read ▸ sorted), same⟩
  rw [← read]
  exact same

end Token

end KotlinAssist
