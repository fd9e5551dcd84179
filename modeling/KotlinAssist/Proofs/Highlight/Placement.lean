import KotlinAssist.Proofs.Highlight.Stream
import Mathlib.Algebra.Order.BigOperators.Group.List
import Mathlib.Algebra.Order.Ring.Nat

/-!
# Well-formed tokens

A token of a document has a place, a length, a type and modifiers.  The place and the length are
those of a piece of a line, whichever of the four searches has found it; that the piece is not empty
and does not overlap another is left to the selection that puts the tokens of a line together.  Type
and modifiers are taken from the legend.

## Main statements

* `TokenType.code_lt`, `TokenModifier.bits_lt` — numbers that the legend explains
* `Token.length_pos_of_mem_ofLine` — no token is empty
* `Token.tokens_well_formed` — the tokens of a document
-/

namespace KotlinAssist

open Text

/-! ## The legend -/

/-- The number of a type is a place in the legend. -/
theorem TokenType.code_lt (type : TokenType) : type.code < all.length := by
  cases type <;> decide

/-- A set of modifiers is a sum of bits of the legend, each taken at most once. -/
theorem TokenModifier.bits_lt (modifiers : List TokenModifier) :
    bits modifiers < 2 ^ all.length := by
  have chosen : ((all.filter modifiers.contains).map bit).Sublist (all.map bit) :=
    List.filter_sublist.map bit
  calc bits modifiers
      = ((all.filter modifiers.contains).map bit).sum := by rw [bits, List.sum, List.foldr_map]
    _ ≤ (all.map bit).sum := chosen.sum_le_sum fun _ _ => Nat.zero_le _
    _ < 2 ^ all.length := by decide

namespace Token

/-! ## Tokens of a line -/

theorem length_pos_of_mem_dropHidden {tokens : List Token} {column : Nat} {token : Token}
    (member : token ∈ dropHidden column tokens) : 0 < token.length := by
  induction tokens generalizing column with
  | nil => cases member
  | cons first rest ih =>
    rw [dropHidden] at member
    split at member
    · exact ih member
    · next shown =>
      simp only [Bool.or_eq_true, decide_eq_true_eq, not_or] at shown
      rcases List.mem_cons.mp member with rfl | later
      · exact Nat.pos_of_ne_zero shown.1
      · exact ih later

theorem length_pos_of_mem_ofLine {index : Nat} {opened : OpenComment} {line : Line} {token : Token}
    (member : token ∈ (ofLine index opened line).1) : 0 < token.length :=
  length_pos_of_mem_dropHidden member

/-- Type and modifiers of a token are taken from the legend. -/
theorem legend_of_mem_ofLine {index : Nat} {opened : OpenComment} {line : Line} {token : Token}
    (member : token ∈ (ofLine index opened line).1) :
    ∃ type modifiers, token.type = TokenType.code type ∧
      token.modifiers = TokenModifier.bits modifiers := by
  obtain ⟨span, type, modifiers, -, rfl⟩ := exists_span_of_mem_ofLine member
  exact ⟨type, modifiers, rfl, rfl⟩

/-! ## Tokens of a document -/

/-- **The tokens of a document are well formed.**  Each of them stands on one of its lines, is not
empty and ends on that line, and its type and modifiers are numbers of the legend; and of two of
them the first stands on an earlier line or ends before the second starts. -/
theorem tokens_well_formed (document : List Line) :
    (∀ token ∈ ofLines document,
      token.line < document.length ∧ 0 < token.length ∧
      (∃ line, document[token.line]? = some line ∧ token.start + token.length ≤ line.length) ∧
      token.type < 11 ∧ token.modifiers < 64) ∧
    (ofLines document).Pairwise fun left right =>
      left.line < right.line ∨
        left.line = right.line ∧ left.start + left.length ≤ right.start := by
  refine ⟨?_, apart_ofLines document⟩
  intro token member
  obtain ⟨-, line, before, -, read⟩ := exists_line_of_mem_startingAt member
  obtain ⟨type, modifiers, typed, modified⟩ := legend_of_mem_ofLine read
  refine ⟨line_lt_of_mem_ofLines member, length_pos_of_mem_ofLine read,
    exists_line_of_mem_ofLines member, ?_, ?_⟩
  · rw [typed]
    exact type.code_lt
  · rw [modified]
    exact TokenModifier.bits_lt modifiers

end Token

end KotlinAssist
