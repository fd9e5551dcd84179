import KotlinAssist.Highlight.Scan
import KotlinAssist.Proofs.Grammar.Reading
import KotlinAssist.Proofs.Text.Search

/-!
# Tokens stand on their lines

Comments, words, names and literals are found in different ways, but each as a span of the line.  A
recogniser never takes more than is left of the line, so what a search finds ends on the line; and a
span that was found behind an open comment is moved by the length of what stands before it.

## Main definitions

* `Span.Within` — a span that ends on a line
* `Recogniser.Bounded` — a recogniser that takes no more than there is

## Main statements

* `within_of_mem_matchesOf` — what a search finds ends on the line
* `Token.mem_words_iff` — the tokens of words
* `Token.exists_span_of_mem_ofLine` — every token of a line is made from a span of it
-/

namespace KotlinAssist

open Text

/-! ## Searches -/

/-- A span that does not reach behind the end of a text. -/
structure Text.Span.Within (text : List Char) (span : Span) : Prop where
  ordered : span.start ≤ span.stop
  inside : span.stop ≤ text.length

/-- A recogniser that never takes more than there is. -/
def Text.Recogniser.Bounded (recognise : Recogniser) : Prop :=
  ∀ before text length, recognise before text = some length → length ≤ text.length

theorem within_of_mem_matchesOf {recognise : Recogniser} (bounded : recognise.Bounded)
    {text : List Char} {span : Span} (found : span ∈ matchesOf recognise text) :
    span.Within text := by
  obtain ⟨front, back, length, rfl, -, -, accepted, rfl⟩ := exists_of_mem_matchesFrom found
  have taken : length ≤ back.length := bounded _ back length accepted
  constructor
  · show 0 + front.length ≤ 0 + front.length + length
    omega
  · show 0 + front.length + length ≤ (front ++ back).length
    rw [List.length_append]
    omega

/-! ## Comments -/

theorem bounded_comment : Recogniser.Bounded CommentSpan.comment := by
  intro before text length found
  unfold CommentSpan.comment at found
  split at found
  · cases found
    exact Nat.le_refl _
  · split at found
    · next inside rest cut =>
      have whole := append_of_cutAt? cut
      cases found
      rw [whole]
      simp only [List.length_cons, List.length_append]
      show 2 + inside.length + 2 ≤ inside.length + 2 + rest.length + 1 + 1
      omega
    · cases found
      exact Nat.le_refl _
  · cases found

/-- Comments that are found behind some characters stand behind them. -/
theorem within_of_mem_inCode {front text : List Char} {comment : CommentSpan}
    (member : comment ∈ (CommentSpan.inCode front.length text).1) :
    comment.span.Within (front ++ text) := by
  obtain ⟨span, found, rfl⟩ := List.mem_map.mp member
  have within := within_of_mem_matchesOf bounded_comment found
  constructor
  · exact Nat.add_le_add_left within.ordered front.length
  · rw [List.length_append]
    exact Nat.add_le_add_left within.inside front.length

theorem within_of_mem_comments {opened : OpenComment} {line : Line} {comment : CommentSpan}
    (member : comment ∈ (CommentSpan.ofLine opened line).1) : comment.span.Within line := by
  unfold CommentSpan.ofLine at member
  split at member
  · have found : comment ∈ (CommentSpan.inCode ([] : List Char).length line).1 := member
    exact within_of_mem_inCode found
  · split at member
    · split at member
      · cases member
      · cases List.mem_singleton.mp member
        exact ⟨Nat.zero_le _, Nat.le_refl _⟩
    · next documentation inside rest cut =>
      -- the open comment ends with its closing mark, the others are found behind that mark
      have whole := append_of_cutAt? cut
      have length : (inside ++ "*/".toList).length = inside.length + 2 := List.length_append
      rw [whole]
      rcases List.mem_cons.mp member with rfl | later
      · refine ⟨Nat.zero_le _, ?_⟩
        show inside.length + 2 ≤ (inside ++ "*/".toList ++ rest).length
        rw [List.length_append, length]
        omega
      · rw [← length] at later
        exact within_of_mem_inCode later

/-! ## Words and literals -/

theorem bounded_wordRun : Recogniser.Bounded Token.wordRun := by
  intro before text length found
  unfold Token.wordRun at found
  split at found
  · cases found
  · cases found
    exact (List.takeWhile_sublist isIdentifierChar).length_le

namespace Grammar

theorem stringTail?_le {text : List Char} {length : Nat} (found : stringTail? text = some length) :
    length ≤ text.length := by
  fun_induction stringTail? text generalizing length with
  | case1 => cases found
  | case2 rest =>
    cases found
    exact Nat.le_add_left 1 rest.length
  | case3 => cases found
  | case4 c rest _ ih =>
    obtain ⟨tail, read, rfl⟩ := Option.map_eq_some_iff.mp found
    have shorter := ih read
    simp only [List.length_cons]
    omega
  | case5 => cases found
  | case6 c rest _ _ _ ih =>
    obtain ⟨tail, read, rfl⟩ := Option.map_eq_some_iff.mp found
    exact Nat.succ_le_succ (ih read)

theorem charTail?_le {text : List Char} {length : Nat} (found : charTail? text = some length) :
    length ≤ text.length := by
  unfold charTail? at found
  split at found
  · split at found
    · cases found
    · cases found
      simp only [List.length_cons]
      omega
  · split at found
    · cases found
    · cases found
      simp only [List.length_cons]
      omega
  · cases found

theorem bounded_stringLiteral : Recogniser.Bounded stringLiteral := by
  intro before text length found
  unfold stringLiteral at found
  split at found
  · obtain ⟨tail, read, rfl⟩ := Option.map_eq_some_iff.mp found
    exact Nat.succ_le_succ (stringTail?_le read)
  · obtain ⟨tail, read, rfl⟩ := Option.map_eq_some_iff.mp found
    exact Nat.succ_le_succ (charTail?_le read)
  · cases found

theorem bounded_numberLiteral : Recogniser.Bounded numberLiteral := by
  intro before text length found
  unfold numberLiteral at found
  split at found
  · cases found
  · obtain ⟨rest, -, rfl⟩ := Option.map_eq_some_iff.mp found
    exact Nat.sub_le _ _

theorem within_of_mem_literals {line : List Char} {literal : Literal}
    (member : literal ∈ literals line) : literal.span.Within line := by
  have found := List.mem_mergeSort.mp member
  rcases List.mem_append.mp found with string | number
  · obtain ⟨span, read, rfl⟩ := List.mem_map.mp string
    exact within_of_mem_matchesOf bounded_stringLiteral read
  · obtain ⟨span, read, rfl⟩ := List.mem_map.mp number
    exact within_of_mem_matchesOf bounded_numberLiteral (List.mem_filter.mp read).1

end Grammar

/-! ## Tokens -/

namespace Token

theorem mem_of_mem_dropHidden {tokens : List Token} {column : Nat} {token : Token}
    (member : token ∈ dropHidden column tokens) : token ∈ tokens := by
  induction tokens generalizing column with
  | nil => cases member
  | cons first rest ih =>
    rw [dropHidden] at member
    split at member
    · exact List.mem_cons_of_mem _ (ih member)
    · rcases List.mem_cons.mp member with rfl | later
      · exact List.mem_cons_self
      · exact List.mem_cons_of_mem _ (ih later)

/-- The token of a word comes from a word that was found, and has its type and modifiers from the
vocabulary. -/
theorem mem_words_iff {index : Nat} {line : Line} {token : Token} :
    token ∈ words index line ↔
      ∃ span ∈ matchesOf wordRun line, (span.slice line).head?.any Char.isDigit = false ∧
        (line.take span.start).getLast? ≠ some '.' ∧
        ∃ type modifiers,
          ofVocabulary? (String.ofList (span.slice line)) = some (type, modifiers) ∧
          token = ofSpan index span type modifiers := by
  rw [words, List.mem_filterMap]
  refine exists_congr fun span => and_congr_right fun _ => ?_
  rw [ofWord?]
  dsimp only
  split
  · next dropped =>
    rw [Bool.or_eq_true, beq_iff_eq] at dropped
    constructor
    · intro nothing
      cases nothing
    · rintro ⟨notDigit, undotted, -⟩
      rcases dropped with digit | dotted
      · rw [notDigit] at digit
        cases digit
      · exact absurd dotted undotted
  · next kept =>
    rw [Bool.or_eq_true, beq_iff_eq, not_or, Bool.not_eq_true] at kept
    rw [Option.map_eq_some_iff]
    constructor
    · rintro ⟨⟨type, modifiers⟩, known, rfl⟩
      exact ⟨kept.1, kept.2, type, modifiers, known, rfl⟩
    · rintro ⟨-, -, type, modifiers, known, rfl⟩
      exact ⟨(type, modifiers), known, rfl⟩

/-- **Every token of a line is made from a span of the line**, whatever it was found as. -/
theorem exists_span_of_mem_ofLine {index : Nat} {opened : OpenComment} {line : Line} {token : Token}
    (member : token ∈ (ofLine index opened line).1) :
    ∃ span type modifiers, span.Within line ∧ token = ofSpan index span type modifiers := by
  have found := List.mem_mergeSort.mp (mem_of_mem_dropHidden member)
  simp only [List.mem_append] at found
  rcases found with ((comment | word) | name) | literal
  · obtain ⟨span, read, rfl⟩ := List.mem_map.mp comment
    exact ⟨_, _, _, within_of_mem_comments read, rfl⟩
  · obtain ⟨span, matched, -, -, type, modifiers, -, rfl⟩ := mem_words_iff.mp word
    exact ⟨_, _, _, within_of_mem_matchesOf bounded_wordRun matched, rfl⟩
  · obtain ⟨declaration, read, rfl⟩ := Option.map_eq_some_iff.mp (Option.mem_toList.mp name)
    obtain ⟨start, stop, selected, ordered, inside⟩ := Declaration.selection_of_ofLine? read
    refine ⟨_, _, _, ?_, rfl⟩
    rw [selected]
    exact ⟨ordered, inside⟩
  · obtain ⟨span, read, rfl⟩ := List.mem_map.mp literal
    exact ⟨_, _, _, Grammar.within_of_mem_literals read, rfl⟩

/-- The tokens of a line stand on that line. -/
theorem line_of_mem_ofLine {index : Nat} {opened : OpenComment} {line : Line} {token : Token}
    (member : token ∈ (ofLine index opened line).1) : token.line = index := by
  obtain ⟨span, type, modifiers, -, rfl⟩ := exists_span_of_mem_ofLine member
  rfl

theorem stop_le_of_mem_ofLine {index : Nat} {opened : OpenComment} {line : Line} {token : Token}
    (member : token ∈ (ofLine index opened line).1) : token.stop ≤ line.length := by
  obtain ⟨span, type, modifiers, within, rfl⟩ := exists_span_of_mem_ofLine member
  show span.start + (span.stop - span.start) ≤ line.length
  rw [Nat.add_sub_cancel' within.ordered]
  exact within.inside

end Token

end KotlinAssist
