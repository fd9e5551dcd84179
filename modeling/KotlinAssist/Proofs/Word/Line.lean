import KotlinAssist.Identifier
import KotlinAssist.Proofs.Text.Runs
import KotlinAssist.Proofs.Text.Search

/-!
# Words of a line

A word is a maximal run of identifier characters.  The cursor finds it by walking outwards from a
column, and a search finds it by looking for its text and testing the neighbours of each occurrence.
Both find the same words: the search skips over the characters of an occurrence, but a word cannot
start among them, because an identifier character would precede it.

## Main definitions

* `IsWord` — the texts that can be a word
* `CutsWord` — a line cut around one of its words

## Main statements

* `wordAt?_eq_some_iff` — the cursor finds the word that it touches
* `mem_wordSpans_iff` — the search finds the words with the text looked for
* `pairwise_wordSpans` — in order, and with a gap between any two
-/

namespace KotlinAssist

open Text

/-! ## Characters of names -/

theorem toNat_lt_of_isAlpha {c : Char} (letter : c.isAlpha = true) : c.toNat < 0x80 := by
  rcases (Bool.or_eq_true c.isUpper c.isLower).mp letter with upper | lower
  · have bound : c.val ≤ 'Z'.val := (of_decide_eq_true upper).2
    exact Nat.lt_of_le_of_lt (UInt32.le_iff_toNat_le.mp bound) (by decide)
  · have bound : c.val ≤ 'z'.val := of_decide_eq_true ((Bool.and_eq_true _ _).mp lower).2
    exact Nat.lt_of_le_of_lt (UInt32.le_iff_toNat_le.mp bound) (by decide)

theorem toNat_lt_of_isDigit {c : Char} (digit : c.isDigit = true) : c.toNat < 0x80 :=
  Nat.lt_of_le_of_lt (Char.isDigit_iff_toNat.mp digit).2 (by decide)

theorem isIdentifierChar_of_isNamePart {c : Char} (part : isNamePart c = true) :
    isIdentifierChar c = true := by
  rw [isNamePart, Char.isAlphanum, Bool.or_eq_true, Bool.or_eq_true] at part
  rw [isIdentifierChar, Bool.or_eq_true, Bool.or_eq_true]
  rcases part with (letter | digit) | underscore
  · refine .inl (.inl ?_)
    rw [isAlphabetic, if_pos (toNat_lt_of_isAlpha letter), letter]
  · refine .inl (.inr ?_)
    rw [isNumeric, if_pos (toNat_lt_of_isDigit digit), digit]
  · exact .inr underscore

theorem toNat_lt_of_isNamePart {c : Char} (part : isNamePart c = true) : c.toNat < 0x80 := by
  rw [isNamePart, Char.isAlphanum, Bool.or_eq_true, Bool.or_eq_true, beq_iff_eq] at part
  rcases part with (letter | digit) | rfl
  · exact toNat_lt_of_isAlpha letter
  · exact toNat_lt_of_isDigit digit
  · decide

theorem isDigit_of_isNameStart {c : Char} (start : isNameStart c = true) : c.isDigit = false := by
  by_contra digit
  rw [Bool.not_eq_false] at digit
  have small : c.toNat ≤ '9'.toNat := (Char.isDigit_iff_toNat.mp digit).2
  rw [isNameStart, Bool.or_eq_true, beq_iff_eq] at start
  rcases start with letter | rfl
  · have large : 'A'.toNat ≤ c.toNat := by
      rcases (Bool.or_eq_true c.isUpper c.isLower).mp letter with upper | lower
      · have bound : 'A'.val ≤ c.val := (of_decide_eq_true upper).1
        exact UInt32.le_iff_toNat_le.mp bound
      · have bound : 'a'.val ≤ c.val := of_decide_eq_true ((Bool.and_eq_true _ _).mp lower).1
        exact Nat.le_trans (by decide) (UInt32.le_iff_toNat_le.mp bound)
    exact absurd (Nat.le_trans large small) (by decide)
  · cases digit

theorem ne_nil_of_isName {name : List Char} (named : isName name = true) : name ≠ [] := by
  rintro rfl
  contradiction

theorem isNamePart_of_isName {name : List Char} (named : isName name = true) :
    ∀ c ∈ name, isNamePart c = true := by
  cases name with
  | nil => cases named
  | cons c rest =>
    rw [isName, Bool.and_eq_true, List.all_eq_true] at named
    rw [List.forall_mem_cons]
    refine ⟨?_, named.2⟩
    have starts := named.1
    rw [isNameStart, Bool.or_eq_true] at starts
    rw [isNamePart, Char.isAlphanum, Bool.or_eq_true, Bool.or_eq_true]
    rcases starts with letter | underscore
    · exact .inl (.inl letter)
    · exact .inr underscore

/-! ## Cuts -/

/-- A text that can be a word: one or more identifier characters. -/
structure IsWord (word : List Char) : Prop where
  nonempty : word ≠ []
  identifier : ∀ c ∈ word, isIdentifierChar c = true

/-- A name is a word. -/
theorem isWord_of_isName {name : List Char} (named : isName name = true) : IsWord name where
  nonempty := ne_nil_of_isName named
  identifier := by
    intro c member
    exact isIdentifierChar_of_isNamePart (isNamePart_of_isName named c member)

/-- A line cut around one of its words: identifier characters that no identifier character precedes
or follows. -/
structure CutsWord (line front word back : List Char) : Prop extends IsWord word where
  whole : line = front ++ word ++ back
  starts : front.getLast?.any isIdentifierChar = false
  ends : back.head?.any isIdentifierChar = false

/-- The columns of a word that follows some characters. -/
def Text.Span.after (front word : List Char) : Span :=
  ⟨front.length, front.length + word.length⟩

/-! ## The word under the cursor -/

/-- A column inside a word, or at either end of it, divides the word into what the cursor finds on
its left and on its right. -/
theorem typed_of_cutsWord {line front word back : List Char} (cut : CutsWord line front word back)
    {column : Nat} (above : front.length ≤ column) (below : column ≤ front.length + word.length) :
    typedBefore line column = word.take (column - front.length) ∧
      typedAfter line column = word.drop (column - front.length) := by
  have left : line.take column = front ++ word.take (column - front.length) := by
    rw [cut.whole, List.append_assoc, List.take_append, List.take_of_length_le above,
      List.take_append_of_le_length (by omega)]
  have right : line.drop column = word.drop (column - front.length) ++ back := by
    rw [cut.whole, List.append_assoc, List.drop_append, List.drop_of_length_le above,
      List.nil_append, List.drop_append_of_le_length (by omega)]
  constructor
  · rw [typedBefore, left, List.reverse_append, takeWhile_run_append, List.reverse_reverse]
    · intro c member
      exact cut.identifier c (List.mem_of_mem_take (List.mem_reverse.mp member))
    · rw [List.head?_reverse]
      exact cut.starts
  · rw [typedAfter, right, takeWhile_run_append _ cut.ends]
    intro c member
    exact cut.identifier c (List.mem_of_mem_drop member)

/-- The line is cut around what the cursor finds on its left and on its right. -/
theorem cutsWord_of_typed {line : Line} {column : Nat}
    (found : typedBefore line column ++ typedAfter line column ≠ []) :
    CutsWord line ((line.take column).reverse.dropWhile isIdentifierChar).reverse
      (typedBefore line column ++ typedAfter line column)
      ((line.drop column).dropWhile isIdentifierChar) where
  whole := by
    have left : ((line.take column).reverse.dropWhile isIdentifierChar).reverse ++
        typedBefore line column = line.take column := by
      rw [typedBefore, ← List.reverse_append, List.takeWhile_append_dropWhile,
        List.reverse_reverse]
    have right : typedAfter line column ++ (line.drop column).dropWhile isIdentifierChar =
        line.drop column := by
      rw [typedAfter, List.takeWhile_append_dropWhile]
    rw [← List.append_assoc, left, List.append_assoc, right, List.take_append_drop]
  nonempty := found
  identifier := by
    intro c member
    rcases List.mem_append.mp member with before | after
    · exact List.mem_takeWhile_imp (List.mem_reverse.mp before)
    · exact List.mem_takeWhile_imp after
  starts := by
    rw [List.getLast?_reverse]
    exact head?_dropWhile_any _
  ends := head?_dropWhile_any _

/-- **The cursor finds the word that it touches**, its two ends included, and no other. -/
theorem wordAt?_eq_some_iff {line : Line} {column : Nat} {word : Word} :
    wordAt? line column = some word ↔
      ∃ front back, CutsWord line front word.text.toList back ∧
        word.span = Span.after front word.text.toList ∧
        word.span.start ≤ column ∧ column ≤ word.span.stop := by
  constructor
  · intro found
    simp only [wordAt?] at found
    split at found
    · cases found
    · next inside =>
      rw [not_or, Nat.not_lt] at inside
      cases found
      have cut := cutsWord_of_typed inside.2
      -- the characters before the cursor are those before the word and those of its first part
      have length : ((line.take column).reverse.dropWhile isIdentifierChar).length +
          (typedBefore line column).length = column := by
        rw [typedBefore, List.length_reverse, Nat.add_comm, ← List.length_append,
          List.takeWhile_append_dropWhile, List.length_reverse, List.length_take]
        omega
      refine ⟨_, _, by simpa using cut, ?_, ?_, ?_⟩
      · simp only [Span.after, String.toList_ofList, List.length_append, List.length_reverse,
          Span.mk.injEq]
        omega
      · exact Nat.sub_le _ _
      · exact Nat.le_add_right _ _
  · rintro ⟨front, back, cut, placed, above, below⟩
    rw [placed] at above below
    obtain ⟨before, after⟩ := typed_of_cutsWord cut above below
    have inside : ¬ (line.length < column ∨
        typedBefore line column ++ typedAfter line column = []) := by
      rw [before, after, List.take_append_drop]
      rintro (outside | empty)
      · rw [cut.whole] at outside
        simp only [List.length_append] at outside
        simp only [Span.after] at below
        omega
      · exact cut.nonempty empty
    simp only [wordAt?]
    rw [if_neg inside, before, after, List.take_append_drop, String.ofList_toList]
    obtain ⟨text, span⟩ := word
    simp only [Span.after] at placed above below
    simp only [Option.some.injEq, Word.mk.injEq, true_and, placed, Span.mk.injEq,
      List.length_take, List.length_drop]
    omega

/-- A column inside a word or at either end of it finds the word. -/
theorem CutsWord.wordAt?_eq {line front word back : List Char} {column : Nat}
    (cut : CutsWord line front word back) (above : front.length ≤ column)
    (below : column ≤ front.length + word.length) :
    wordAt? line column = some ⟨String.ofList word, Span.after front word⟩ := by
  rw [wordAt?_eq_some_iff, String.toList_ofList]
  exact ⟨front, back, cut, rfl, above, below⟩

/-- One word at most is touched at a column. -/
theorem CutsWord.unique {line front word back front' word' back' : List Char} {column : Nat}
    (cut : CutsWord line front word back) (cut' : CutsWord line front' word' back')
    (above : front.length ≤ column) (below : column ≤ front.length + word.length)
    (above' : front'.length ≤ column) (below' : column ≤ front'.length + word'.length) :
    word' = word := by
  have found := cut.wordAt?_eq above below
  rw [cut'.wordAt?_eq above' below', Option.some.injEq, Word.mk.injEq, String.ofList_inj] at found
  exact found.1

/-! ## Words with a given text -/

/-- A word stands alone, and what stands alone is cut out as a word. -/
theorem standsAlone_after_iff (front word back : List Char) :
    standsAlone (front ++ word ++ back) (Span.after front word) = true ↔
      front.getLast?.any isIdentifierChar = false ∧ back.head?.any isIdentifierChar = false := by
  have left : (front ++ word ++ back).take front.length = front := by
    rw [List.append_assoc, List.take_left]
  have right : (front ++ word ++ back).drop (front.length + word.length) = back := by
    rw [← List.length_append, List.drop_left]
  rw [standsAlone, Span.after, left, right, Bool.and_eq_true, Bool.not_eq_true',
    Bool.not_eq_true']

/-- **The search finds the words with the text looked for**, and nothing else.  The search goes on
behind each occurrence, so a word could be lost only if it started inside an occurrence; but then an
identifier character would precede it. -/
theorem mem_wordSpans_iff {line word : List Char} {span : Span} (isWord : IsWord word) :
    span ∈ wordSpans line word ↔
      ∃ front back, CutsWord line front word back ∧ span = Span.after front word := by
  rw [wordSpans, List.mem_filter]
  constructor
  · rintro ⟨found, alone⟩
    obtain ⟨front, back, rfl, rfl⟩ := exists_of_mem_occurrences found
    obtain ⟨starts, ends⟩ := (standsAlone_after_iff front word back).mp alone
    exact ⟨front, back, ⟨isWord, rfl, starts, ends⟩, rfl⟩
  · rintro ⟨front, back, cut, rfl⟩
    have alone : standsAlone line (Span.after front word) = true := by
      rw [cut.whole]
      exact (standsAlone_after_iff front word back).mpr ⟨cut.starts, cut.ends⟩
    refine ⟨?_, alone⟩
    obtain ⟨span, found, rfl | ⟨before, inside⟩⟩ :=
      exists_covering_occurrences cut.nonempty front back
    · rw [cut.whole]
      exact found
    · exfalso
      obtain ⟨front', back', same, rfl⟩ := exists_of_mem_occurrences found
      -- the last character before the word belongs to the occurrence found before
      have reach : front'.length < front.length := before
      have cover : front.length < front'.length + word.length := inside
      have starts := cut.starts
      have ending : front = front' ++ word.take (front.length - front'.length) := by
        have heads := congrArg (List.take front.length) same
        rw [List.append_assoc, List.take_left, List.append_assoc, List.take_append,
          List.take_of_length_le (by omega), List.take_append_of_le_length (by omega)] at heads
        exact heads
      have nonempty' : word.take (front.length - front'.length) ≠ [] := by
        rw [Ne, List.take_eq_nil_iff, not_or]
        exact ⟨by omega, cut.nonempty⟩
      rw [ending, List.getLast?_append, List.getLast?_eq_some_getLast nonempty',
        Option.some_or, Option.any_some] at starts
      have isIdentifier := cut.identifier _ (List.mem_of_mem_take (List.getLast_mem nonempty'))
      rw [starts] at isIdentifier
      cases isIdentifier

/-- Words with the same text are found in order, and do not touch each other. -/
theorem pairwise_wordSpans {line word : List Char} (isWord : IsWord word) :
    (wordSpans line word).Pairwise fun left right => left.stop < right.start := by
  have ordered : (wordSpans line word).Pairwise fun left right =>
      left.stop ≤ right.start ∧ left.start < right.start :=
    (pairwise_occurrences word line).filter _
  refine ordered.imp_of_mem ?_
  rintro left right foundLeft foundRight ⟨apart, -⟩
  obtain ⟨front, back, cut, rfl⟩ := (mem_wordSpans_iff isWord).mp foundLeft
  obtain ⟨front', back', cut', rfl⟩ := (mem_wordSpans_iff isWord).mp foundRight
  refine Nat.lt_of_le_of_ne apart fun touching => ?_
  -- if they touched, the second would start with what follows the first
  have rest : back = word ++ back' := by
    have tails := congrArg (List.drop (front.length + word.length)) (cut.whole.symm.trans cut'.whole)
    rw [← List.length_append, List.drop_left, List.length_append] at tails
    change front.length + word.length = front'.length at touching
    rw [tails, touching, List.append_assoc, List.drop_left]
  obtain ⟨c, tail, rfl⟩ := List.exists_cons_of_ne_nil isWord.nonempty
  have ends := cut.ends
  rw [rest, List.cons_append, List.head?_cons, Option.any_some] at ends
  have isIdentifier := isWord.identifier c List.mem_cons_self
  rw [ends] at isIdentifier
  cases isIdentifier

end KotlinAssist
