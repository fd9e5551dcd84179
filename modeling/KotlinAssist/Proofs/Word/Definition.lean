import KotlinAssist.Proofs.Grammar.Reading
import KotlinAssist.Proofs.Word.Document

/-!
# The definition and the declared name

The definition of a word is looked for on the first line that declares it, and there its first
occurrence is taken.  The declaration read from that line knows the place of its name.  The two
places differ when the word stands on the line before its declaration, as a modifier, in the
arguments of a marker or in a receiver type: `open fun open()` declares the second `open`, and the
definition is the first.

## Main definitions

* `FirstCut` — a line cut around the first of its words with a given text

## Main statements

* `head?_wordSpans_eq_some_iff` — the first word with a given text
* `definition?_eq_some` — where a definition is found
* `definition_at_declared_name_iff` — when it is found at the declared name
-/

namespace KotlinAssist

open Text

/-! ## The first word with a given text -/

/-- A line cut around the first of its words with a given text. -/
structure FirstCut (line front word back : List Char) : Prop extends
    CutsWord line front word back where
  first : ∀ front' back', CutsWord line front' word back' → front.length ≤ front'.length

/-- Words with the same text are found from left to right, so the first one found is the first on
the line. -/
theorem head?_wordSpans_eq_some_iff {line word : List Char} {span : Span} (isWord : IsWord word) :
    (wordSpans line word).head? = some span ↔
      ∃ front back, FirstCut line front word back ∧ span = Span.after front word := by
  have ordered : (wordSpans line word).Pairwise fun left right => left.stop < right.start :=
    pairwise_wordSpans isWord
  constructor
  · intro isHead
    obtain ⟨later, whole⟩ := List.head?_eq_some_iff.mp isHead
    have found : span ∈ wordSpans line word := List.mem_of_mem_head? isHead
    obtain ⟨front, back, cut, rfl⟩ := (mem_wordSpans_iff isWord).mp found
    refine ⟨front, back, ⟨cut, ?_⟩, rfl⟩
    intro front' back' cut'
    have found' : Span.after front' word ∈ wordSpans line word :=
      (mem_wordSpans_iff isWord).mpr ⟨front', back', cut', rfl⟩
    rw [whole] at found' ordered
    rcases List.mem_cons.mp found' with same | behind
    · exact Nat.le_of_eq (congrArg Span.start same).symm
    · have apart := (List.pairwise_cons.mp ordered).1 _ behind
      exact Nat.le_trans (Nat.le_add_right _ _) (Nat.le_of_lt apart)
  · rintro ⟨front, back, cut, rfl⟩
    have found : Span.after front word ∈ wordSpans line word :=
      (mem_wordSpans_iff isWord).mpr ⟨front, back, cut.toCutsWord, rfl⟩
    cases spans : wordSpans line word with
    | nil =>
      rw [spans] at found
      cases found
    | cons head later =>
      have present : head ∈ wordSpans line word := by
        rw [spans]
        exact List.mem_cons_self
      obtain ⟨front', back', cut', rfl⟩ := (mem_wordSpans_iff isWord).mp present
      rw [spans] at found ordered
      rcases List.mem_cons.mp found with same | behind
      · rw [same]
        rfl
      · -- a word behind the first one found would start before it
        exfalso
        have apart : front'.length + word.length < front.length :=
          (List.pairwise_cons.mp ordered).1 _ behind
        have before : front.length ≤ front'.length := cut.first front' back' cut'
        omega

/-! ## Definitions -/

/-- A definition is found on a line that declares the word under the cursor, at the first place
where the line holds it. -/
theorem definition?_eq_some {uri : Uri} {document : List Line} {position : Position} {word : Word}
    {location : Location} (cursor : wordAtPosition? document position = some word)
    (found : definition? uri document position = some location) :
    ∃ index line front back, document[index]? = some line ∧
      Grammar.declares word.text.toList (trim line) = true ∧
      FirstCut line front word.text.toList back ∧
      location = ⟨uri, .onLine index front.length (front.length + word.text.toList.length)⟩ := by
  obtain ⟨word', here, found⟩ := Option.bind_eq_some_iff.mp found
  cases cursor.symm.trans here
  obtain ⟨⟨span, index⟩, defined, same⟩ := Option.bind_eq_some_iff.mp found
  cases same
  obtain ⟨⟨line, index'⟩, member, onLine⟩ := List.exists_of_findSome?_eq_some defined
  obtain ⟨span', declaredOn, same⟩ := Option.map_eq_some_iff.mp onLine
  cases same
  rw [declaredOn?] at declaredOn
  split at declaredOn
  · next declares =>
    have isWord := isWord_of_wordAtPosition? cursor
    obtain ⟨front, back, cut, rfl⟩ := (head?_wordSpans_eq_some_iff isWord).mp declaredOn
    exact ⟨index, line, front, back, List.mem_zipIdx_iff_getElem?.mp member, declares, cut, rfl⟩
  · cases declaredOn

/-- Where a line is cut around one place, the other cut at that place is the same. -/
theorem eq_of_cut_at_same_length {line front word back front' back' : List Char}
    (cut : line = front ++ word ++ back) (cut' : line = front' ++ word ++ back')
    (same : front.length = front'.length) : front = front' ∧ back = back' := by
  have joined : front ++ word ++ back = front' ++ word ++ back' := cut.symm.trans cut'
  rw [List.append_assoc, List.append_assoc] at joined
  obtain ⟨fronts, rest⟩ := List.append_inj joined same
  exact ⟨fronts, List.append_cancel_left rest⟩

/-- **Where the definition of a word is found.**  When it is found on a line that is read as a
declaration of the word, it is the first place where the line holds the word.  This is the declared
name exactly if the word stands nowhere before the declared name, and no identifier character
follows the declared name. -/
theorem definition_at_declared_name_iff {uri : Uri} {text : String} {position : Position}
    {word : Word} {location : Location} {line : Line} {declaration : Declaration}
    (cursor : wordAtPosition? (lines text) position = some word)
    (found : definition? uri (lines text) position = some location)
    (present : (lines text)[location.range.start.line]? = some line)
    (declared : Declaration.ofLine? location.range.start.line line = some declaration)
    (named : declaration.name = word.text) :
    (∃ front back, FirstCut line front word.text.toList back ∧
      location.range = .onLine location.range.start.line front.length
        (front.length + word.text.toList.length)) ∧
    (location.range = declaration.selection ↔
      (∀ front back, CutsWord line front word.text.toList back →
        declaration.selection.start.character ≤ front.length) ∧
      (line.drop declaration.selection.stop.character).head?.any isIdentifierChar = false) := by
  obtain ⟨index, line', front, back, present', -, cut, rfl⟩ := definition?_eq_some cursor found
  have sameLine : line' = line := Option.some.inj (present'.symm.trans present)
  subst sameLine
  obtain ⟨before, after, whole, apart, -, selected⟩ := Declaration.exists_cut_of_ofLine? declared
  rw [named] at whole selected
  have behind : line'.drop declaration.selection.stop.character = after := by
    rw [selected, whole]
    show (before ++ word.text.toList ++ after).drop (before.length + word.text.toList.length) =
      after
    rw [← List.length_append, List.drop_left]
  refine ⟨⟨front, back, cut, rfl⟩, ?_⟩
  rw [behind, selected]
  constructor
  · intro same
    have sameStart : front.length = before.length :=
      congrArg (fun range => range.start.character) same
    obtain ⟨-, rfl⟩ := eq_of_cut_at_same_length cut.whole whole sameStart
    refine ⟨?_, cut.ends⟩
    intro front' back' cut'
    show before.length ≤ front'.length
    rw [← sameStart]
    exact cut.first front' back' cut'
  · rintro ⟨first, ends⟩
    -- the declared name is a word of the line, so neither of the two places is before the other
    have cutName : CutsWord line' before word.text.toList after :=
      ⟨cut.toIsWord, whole, apart, ends⟩
    have notBehind : front.length ≤ before.length := cut.first before after cutName
    have notBefore : before.length ≤ front.length := first front back cut.toCutsWord
    rw [Nat.le_antisymm notBehind notBefore]
    rfl

/-- A function with a modifier: its name stands nowhere before, so it is found. -/
theorem definition_at_declared_name_iff_behind_modifier :
    definition? "file:///a.kt" (lines "open fun f()") ⟨0, 9⟩ =
        some ⟨"file:///a.kt", .onLine 0 9 10⟩ ∧
      ∃ declaration, Declaration.ofLine? 0 "open fun f()".toList = some declaration ∧
        declaration.selection = .onLine 0 9 10 ∧
        ∀ front back, CutsWord "open fun f()".toList front "f".toList back → 9 ≤ front.length := by
  have cursor : wordAtPosition? (lines "open fun f()") ⟨0, 9⟩ = some ⟨"f", ⟨9, 10⟩⟩ := by decide
  have found : definition? "file:///a.kt" (lines "open fun f()") ⟨0, 9⟩ =
      some ⟨"file:///a.kt", .onLine 0 9 10⟩ := by decide +kernel
  have present : (lines "open fun f()")[0]? = some "open fun f()".toList := by decide
  have declared : Declaration.ofLine? 0 "open fun f()".toList =
      some ⟨"f", .function, 0, .onLine 0 0 12, .onLine 0 9 10, ["open"], "open fun f()", some "",
        none, false⟩ := by decide +kernel
  have placed := definition_at_declared_name_iff cursor found present declared rfl
  exact ⟨found, _, declared, rfl, (placed.2.mp rfl).1⟩

/-- A function that is named like its modifier: the cursor stands on the name, the line declares
that name, and the definition is the modifier. -/
theorem definition_at_modifier_of_same_name :
    wordAtPosition? (lines "open fun open()") ⟨0, 9⟩ = some ⟨"open", ⟨9, 13⟩⟩ ∧
    definition? "file:///a.kt" (lines "open fun open()") ⟨0, 9⟩ =
      some ⟨"file:///a.kt", .onLine 0 0 4⟩ ∧
    (lines "open fun open()")[0]? = some "open fun open()".toList ∧
    (Declaration.ofLine? 0 "open fun open()".toList).map (fun declaration =>
      (declaration.name, declaration.selection)) = some ("open", .onLine 0 9 13) ∧
    Range.onLine 0 0 4 ≠ .onLine 0 9 13 := by
  refine ⟨by decide, by decide +kernel, by decide, by decide +kernel, by decide⟩

end KotlinAssist
