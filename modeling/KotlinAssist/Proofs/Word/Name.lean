import KotlinAssist.Proofs.Word.Navigation

/-!
# Names and the words that they start

A name is read as far as ASCII letters, digits and underscores go, and the words of a line are made
of the letters and digits of any script.  So a name that no identifier character precedes is the
start of a word: the longest start of it that has characters of names only.  It is the whole word
exactly if the word has no other characters.

Behind the name of a function stands a parenthesis, and behind that of a property a colon, an equals
sign or the end of the head, with blanks between; none of them is an identifier character.  Behind
the name of a type nothing is looked for, so it may end inside of a word.

## Main definitions

* `CutsName` — a line cut around a name

## Main statements

* `CutsName.cutsWord`, `CutsName.takeWhile_word` — a name as the start of a word
* `CutsName.isName_word_iff` — when the name is the whole word
* `Declaration.declared_name_whole_iff` — declared names that are whole words
-/

namespace KotlinAssist

open Text

/-- A line cut around a name that no identifier character precedes and that goes as far as it
can. -/
structure CutsName (line front name back : List Char) : Prop where
  whole : line = front ++ (name ++ back)
  named : isName name = true
  starts : front.getLast?.any isIdentifierChar = false
  ends : back.head?.any isNamePart = false

namespace CutsName

variable {line front name back : List Char} (cut : CutsName line front name back)

include cut

/-- The word that starts with the name. -/
theorem cutsWord :
    CutsWord line front (name ++ back.takeWhile isIdentifierChar)
      (back.dropWhile isIdentifierChar) := by
  have isWord := isWord_of_isName cut.named
  have nonempty : name ++ back.takeWhile isIdentifierChar ≠ [] :=
    List.append_ne_nil_of_left_ne_nil isWord.nonempty _
  have identifier : ∀ c ∈ name ++ back.takeWhile isIdentifierChar, isIdentifierChar c = true :=
    List.forall_mem_append.mpr ⟨isWord.identifier, fun c => List.mem_takeWhile_imp⟩
  refine ⟨⟨nonempty, identifier⟩, ?_, cut.starts, head?_dropWhile_any back⟩
  rw [cut.whole, List.append_assoc, List.append_assoc, List.takeWhile_append_dropWhile]

/-- A name starts with no digit. -/
theorem head?_isDigit (rest : List Char) : (name ++ rest).head?.any Char.isDigit = false := by
  have named := cut.named
  cases name with
  | nil => cases named
  | cons c name => exact isDigit_of_isNameStart ((Bool.and_eq_true _ _).mp named).1

/-- The cursor finds the word at the start of the name. -/
theorem wordAt?_start :
    wordAt? line front.length =
      some ⟨String.ofList (name ++ back.takeWhile isIdentifierChar),
        .after front (name ++ back.takeWhile isIdentifierChar)⟩ :=
  cut.cutsWord.wordAt?_eq (Nat.le_refl _) (Nat.le_add_right _ _)

/-- Of the word, the name is what has characters of names only. -/
theorem takeWhile_word :
    (name ++ back.takeWhile isIdentifierChar).takeWhile isNamePart = name := by
  refine takeWhile_run_append (isNamePart_of_isName cut.named) ?_
  have ends := cut.ends
  cases back with
  | nil => rfl
  | cons c back =>
    by_cases identifier : isIdentifierChar c = true
    · rw [List.takeWhile_cons_of_pos identifier]
      exact ends
    · rw [List.takeWhile_cons_of_neg identifier]
      rfl

/-- **The word is a name exactly if the name is the whole word**: no identifier character
follows. -/
theorem isName_word_iff :
    isName (name ++ back.takeWhile isIdentifierChar) = true ↔
      back.head?.any isIdentifierChar = false := by
  constructor
  · intro known
    -- all of the word has characters of names, so the name takes all of it
    have same := cut.takeWhile_word
    rw [List.takeWhile_eq_self_iff.mpr (isNamePart_of_isName known),
      List.append_right_eq_self] at same
    rw [← List.takeWhile_append_dropWhile (p := isIdentifierChar) (l := back), same]
    exact head?_dropWhile_any back
  · intro stop
    rw [takeWhile_eq_nil_of_head? stop, List.append_nil]
    exact cut.named

end CutsName

namespace Declaration

/-- A line is cut around its declared name. -/
theorem exists_cutsName {index : Nat} {line : Line} {declaration : Declaration}
    (found : ofLine? index line = some declaration) :
    ∃ front back, CutsName line front declaration.name.toList back ∧
      declaration.selection = .onLine index front.length
        (front.length + declaration.name.toList.length) := by
  obtain ⟨front, back, whole, starts, named, selected⟩ := exists_cut_of_ofLine? found
  rw [List.append_assoc] at whole
  have behind : line.drop declaration.selection.stop.character = back := by
    rw [selected, whole]
    exact (List.drop_length_add_append ..).trans List.drop_left
  refine ⟨front, back, ⟨whole, named, starts, ?_⟩, selected⟩
  rw [← behind]
  exact head?_drop_of_ofLine? found

/-- **When a declared name is a whole word.**  No identifier character precedes a declared name, so
it starts the word that the cursor finds at its start, and is the longest start of that word with
characters of names only.  An identifier character follows the name exactly if the word is no name
itself; otherwise the cursor finds the declared name.  Behind the name of a function or property no
identifier character follows. -/
theorem declared_name_whole_iff {index : Nat} {line : Line} {declaration : Declaration}
    (found : ofLine? index line = some declaration) :
    let start := declaration.selection.start.character
    let stop := declaration.selection.stop.character
    (line.take start).getLast?.any isIdentifierChar = false ∧
    (∃ word, wordAt? line start = some word ∧ word.span.start = start ∧
      declaration.name.toList = word.text.toList.takeWhile isNamePart ∧
      ((line.drop stop).head?.any isIdentifierChar = false ↔ isName word.text.toList = true) ∧
      (word = ⟨declaration.name, ⟨start, stop⟩⟩ ↔ isName word.text.toList = true)) ∧
    (declaration.kind.isTypeLike = false →
      (line.drop stop).head?.any isIdentifierChar = false) := by
  obtain ⟨front, back, cut, selected⟩ := exists_cutsName found
  intro start stop
  have isStart : start = front.length := congrArg (·.start.character) selected
  have isStop : stop = front.length + declaration.name.toList.length :=
    congrArg (·.stop.character) selected
  have before : line.take start = front := by
    rw [isStart, cut.whole, List.take_left]
  have behind : line.drop stop = back := by
    rw [isStop, cut.whole]
    exact (List.drop_length_add_append ..).trans List.drop_left
  refine ⟨?_, ?_, ?_⟩
  · rw [before]
    exact cut.starts
  · rw [isStart]
    refine ⟨_, cut.wordAt?_start, rfl, ?_, ?_, ?_⟩
    · rw [String.toList_ofList, cut.takeWhile_word]
    · rw [behind, String.toList_ofList, cut.isName_word_iff]
    · rw [String.toList_ofList]
      constructor
      · intro same
        have text := congrArg (·.text.toList) same
        rw [String.toList_ofList] at text
        rw [text]
        exact cut.named
      · intro known
        have alone := takeWhile_eq_nil_of_head? (cut.isName_word_iff.mp known)
        rw [alone, List.append_nil, String.ofList_toList, isStop]
        rfl
  · intro notType
    refine (declares_of_ofLine? found ?_).2
    intro isType
    rw [notType] at isType
    cases isType

/-- A function behind a marker with letters of another script: its name is a whole word. -/
theorem declared_name_whole_iff_behind_marker :
    ∃ declaration, ofLine? 0 "@A(\"é\") fun <T> List<T>.f() = 1".toList = some declaration ∧
      declaration.name = "f" ∧ declaration.kind.isTypeLike = false ∧
      declaration.selection.stop.character = 25 ∧
      ("@A(\"é\") fun <T> List<T>.f() = 1".toList.drop 25).head?.any isIdentifierChar = false := by
  have found : ofLine? 0 "@A(\"é\") fun <T> List<T>.f() = 1".toList =
      some ⟨"f", .function, 0, .onLine 0 0 31, .onLine 0 24 25, [],
        "@A(\"é\") fun <T> List<T>.f() = 1", some "", none, false⟩ := by decide +kernel
  have whole := declared_name_whole_iff found
  exact ⟨_, found, rfl, rfl, rfl, whole.2.2 rfl⟩

/-- A class whose name is cut: the last letter of the word follows the declared name. -/
theorem class_name_cut_inside_word :
    (ofLine? 0 "class Café".toList).map (fun declaration =>
      (declaration.name, declaration.selection)) = some ("Caf", .onLine 0 6 9) ∧
    ("class Café".toList.drop 9).head?.any isIdentifierChar = true ∧
    wordAt? "class Café".toList 6 = some ⟨"Café", ⟨6, 10⟩⟩ := by
  refine ⟨by decide +kernel, by decide, by decide⟩

end Declaration

end KotlinAssist
