import KotlinAssist.Text.CodeRanges

/-!
# Blanks

A blank is a character with the Unicode property `White_Space`.  The table holds the whole property:
the controls U+0009 to U+000D, the space, U+0085, U+00A0 and the wide and narrow spaces beyond
Latin-1.  The zero-width space U+200B and the byte order mark U+FEFF are not blanks.

## Main definitions

* `isBlank` — membership in the property
* `trim` — a text without the blanks at its ends
* `indentation` — the number of blanks a line starts with
* `words` — the maximal runs of other characters
-/

namespace KotlinAssist.Text

/-- The characters with the property `White_Space`. -/
def blankRanges : CodeRanges :=
  [(0x9, 0xD), (0x20, 0x20), (0x85, 0x85), (0xA0, 0xA0), (0x1680, 0x1680), (0x2000, 0x200A),
   (0x2028, 0x2029), (0x202F, 0x202F), (0x205F, 0x205F), (0x3000, 0x3000)]

/-- Whether a character is a blank. -/
def isBlank (c : Char) : Bool :=
  blankRanges.has c.toNat

/-- A text without its leading blanks. -/
def trimStart (text : List Char) : List Char :=
  text.dropWhile isBlank

/-- A text without its trailing blanks. -/
def trimEnd (text : List Char) : List Char :=
  (text.reverse.dropWhile isBlank).reverse

/-- A text without its leading and trailing blanks. -/
def trim (text : List Char) : List Char :=
  trimEnd (trimStart text)

/-- Number of leading blanks of a line. -/
def indentation (line : List Char) : Nat :=
  (line.takeWhile isBlank).length

/-- The maximal runs of non-blank characters, read from the right: the first component is the run
that reaches back to the current character, the second the runs already closed by a blank. -/
def wordsStep (c : Char) (state : List Char × List (List Char)) :
    List Char × List (List Char) :=
  if isBlank c then
    match state with
    | ([], words) => ([], words)
    | (word, words) => ([], word :: words)
  else (c :: state.1, state.2)

/-- The maximal runs of non-blank characters of a text, in order. -/
def words (text : List Char) : List (List Char) :=
  match text.foldr wordsStep ([], []) with
  | ([], words) => words
  | (word, words) => word :: words

/-- Only a text of blanks has nothing left when its leading blanks are gone. -/
theorem trimStart_eq_nil_iff (text : List Char) :
    trimStart text = [] ↔ ∀ c ∈ text, isBlank c = true := by
  induction text with
  | nil => simp [trimStart]
  | cons c rest ih =>
    by_cases blank : isBlank c = true
    · rw [trimStart, List.dropWhile_cons_of_pos blank, List.forall_mem_cons]
      exact ⟨fun empty => ⟨blank, ih.mp empty⟩, fun all => ih.mpr all.2⟩
    · rw [trimStart, List.dropWhile_cons_of_neg blank, List.forall_mem_cons]
      exact ⟨fun empty => absurd empty (List.cons_ne_nil c rest), fun all => absurd all.1 blank⟩

end KotlinAssist.Text
