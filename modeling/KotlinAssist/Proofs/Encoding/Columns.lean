import KotlinAssist.Encoding
import KotlinAssist.Proofs.Text.Lines
import KotlinAssist.Text.Span

/-!
# Columns there and back

A column is cut to 32 bits when it is converted, so a conversion can be undone only where the
columns are small enough.  They are in every document of fewer than 2^32 code units, for the
positions up to the end of a line; and a line that does not exist is never converted.

## Main definitions

* `units` — the length of a text in UTF-16 code units
* `Position.Fits` — a position that does not lie behind the end of its line
* `Range.Spells` — a range that has given characters of one line

## Main statements

* `unitOfChar_le_unitOfChar` — conversion keeps the order of columns
* `unitOfChar_eq_units_take` — a column in code units is the length of what stands before it
* `length_lt_charOfUnit_iff` — a column is behind the end of a line in both units alike
* `Encoding.toChars_fromChars` — a position is found again from that of the client
-/

namespace KotlinAssist

open Text

/-! ## Code units -/

/-- The length of a text in UTF-16 code units. -/
def Text.units : List Char → Nat
  | [] => 0
  | c :: rest => units16 c + units rest

/-- Conversion keeps the order of columns. -/
theorem unitOfChar_le_unitOfChar (line : List Char) {left right : Nat} (ordered : left ≤ right) :
    unitOfChar line left ≤ unitOfChar line right := by
  induction line generalizing left right with
  | nil => exact ordered
  | cons c rest ih =>
    cases left with
    | zero => exact Nat.zero_le _
    | succ left =>
      cases right with
      | zero => exact absurd ordered (Nat.not_succ_le_zero left)
      | succ right => exact Nat.add_le_add_left (ih (Nat.le_of_succ_le_succ ordered)) _

theorem units_append (front back : List Char) :
    units (front ++ back) = units front + units back := by
  induction front with
  | nil => exact (Nat.zero_add _).symm
  | cons c front ih =>
    rw [List.cons_append, units, ih, units, Nat.add_assoc]

/-- A column in code units is the length of what stands before it. -/
theorem unitOfChar_eq_units_take {line : List Char} {column : Nat} (inside : column ≤ line.length) :
    unitOfChar line column = units (line.take column) := by
  induction line generalizing column with
  | nil =>
    rw [List.take_nil]
    exact Nat.le_zero.mp inside
  | cons c rest ih =>
    cases column with
    | zero => rfl
    | succ column =>
      rw [unitOfChar, ih (Nat.le_of_succ_le_succ inside), List.take_succ_cons, units]

/-- A character has one code unit at least. -/
theorem length_le_units (line : List Char) : line.length ≤ units line := by
  induction line with
  | nil => exact Nat.le_refl 0
  | cons c rest ih =>
    have one := units16_pos c
    rw [List.length_cons, units]
    omega

theorem units_le_of_sublist {part whole : List Char} (sublist : part.Sublist whole) :
    units part ≤ units whole := by
  induction sublist with
  | slnil => exact Nat.le_refl 0
  | cons c _ ih => exact Nat.le_trans ih (Nat.le_add_left _ _)
  | cons_cons c _ ih => exact Nat.add_le_add_left ih _

theorem unitOfChar_le_units {line : List Char} {column : Nat} (inside : column ≤ line.length) :
    unitOfChar line column ≤ units line := by
  rw [unitOfChar_eq_units_take inside]
  exact units_le_of_sublist (List.take_sublist column line)

/-- A column in characters is never behind the same place in code units. -/
theorem charOfUnit_le (line : List Char) (unit : Nat) : charOfUnit line unit ≤ unit := by
  induction line generalizing unit with
  | nil => exact Nat.le_refl unit
  | cons c rest ih =>
    have one := units16_pos c
    have rest := ih (unit - units16 c)
    rw [charOfUnit]
    split <;> omega

/-- A column is behind the end of a line in both units alike. -/
theorem length_lt_charOfUnit_iff (line : List Char) (unit : Nat) :
    line.length < charOfUnit line unit ↔ units line < unit := by
  induction line generalizing unit with
  | nil => exact Iff.rfl
  | cons c rest ih =>
    have rest := ih (unit - units16 c)
    rw [charOfUnit, List.length_cons, units]
    split <;> omega

/-- A line is no longer than the text. -/
theorem units_le_of_mem_splitLines {text line : List Char} (member : line ∈ splitLines text) :
    units line ≤ units text :=
  units_le_of_sublist (sublist_of_mem_splitLines member)

/-! ## Positions -/

/-- A position that is not behind the end of its line, if the document has that line. -/
def Position.Fits (document : List Line) (position : Position) : Prop :=
  ∀ line ∈ document[position.line]?, position.character ≤ line.length

instance (document : List Line) (position : Position) : Decidable (position.Fits document) :=
  inferInstanceAs (Decidable (∀ line ∈ document[position.line]?, _))

/-- A range between two such positions. -/
def Range.Fits (document : List Line) (range : Range) : Prop :=
  range.start.Fits document ∧ range.stop.Fits document

/-- A range that lies on one line of a document, is not empty and has these characters there. -/
def Range.Spells (document : List Line) (range : Range) (text : List Char) : Prop :=
  ∃ line ∈ document[range.start.line]?, range.stop.line = range.start.line ∧
    range.start.character < range.stop.character ∧ range.stop.character ≤ line.length ∧
    Span.slice ⟨range.start.character, range.stop.character⟩ line = text

instance (document : List Line) (range : Range) (text : List Char) :
    Decidable (range.Spells document text) :=
  inferInstanceAs (Decidable (∃ line ∈ document[range.start.line]?, _))

/-- Characters of a line are covered by the range between their columns. -/
theorem spells_onLine {document : List Line} {index : Nat} {line front text back : List Char}
    (present : document[index]? = some line) (cut : line = front ++ text ++ back)
    (nonempty : text ≠ []) :
    (Range.onLine index front.length (front.length + text.length)).Spells document text := by
  refine ⟨line, present, rfl, ?_, ?_, ?_⟩
  · exact Nat.lt_add_of_pos_right (List.length_pos_of_ne_nil nonempty)
  · show front.length + text.length ≤ line.length
    rw [cut, List.length_append, List.length_append]
    exact Nat.le_add_right _ _
  · show (line.drop front.length).take (front.length + text.length - front.length) = text
    rw [cut, List.append_assoc, List.drop_left, Nat.add_sub_cancel_left, List.take_left]

theorem Range.Spells.fits {document : List Line} {range : Range} {text : List Char}
    (spells : range.Spells document text) : range.Fits document := by
  obtain ⟨line, present, oneLine, ordered, inside, -⟩ := spells
  constructor
  · intro found isLine
    cases present.symm.trans isLine
    exact Nat.le_trans (Nat.le_of_lt ordered) inside
  · intro found isLine
    rw [oneLine] at isLine
    cases present.symm.trans isLine
    exact inside

/-- A range spells one text. -/
theorem Range.Spells.unique {document : List Line} {range : Range} {text text' : List Char}
    (spells : range.Spells document text) (spells' : range.Spells document text') :
    text = text' := by
  obtain ⟨line, present, -, -, -, rfl⟩ := spells
  obtain ⟨line', present', -, -, -, rfl⟩ := spells'
  cases present.symm.trans present'
  rfl

namespace Encoding

variable (encoding : Encoding) {document : List Line}

@[simp] theorem line_fromChars (document : List Line) (position : Position) :
    (encoding.fromChars document position).line = position.line := by
  simp only [fromChars, convert]
  split <;> rfl

@[simp] theorem line_toChars (document : List Line) (position : Position) :
    (encoding.toChars document position).line = position.line := by
  simp only [toChars, convert]
  split <;> rfl

/-- **A position is found again from that of the client** when its line has fewer than 2^32 code
units. -/
theorem toChars_fromChars (short : ∀ line ∈ document, units line < columnLimit)
    {position : Position} (fits : position.Fits document) :
    encoding.toChars document (encoding.fromChars document position) = position := by
  cases encoding with
  | utf32 => rfl
  | utf16 =>
    cases present : document[position.line]? with
    | none => simp [toChars, fromChars, convert, present]
    | some line =>
      have inside : position.character ≤ line.length := fits line present
      have bound := short line (List.mem_of_getElem? present)
      -- neither conversion is cut: code units and characters are both below the limit
      have unitsFit : unitOfChar line position.character < columnLimit :=
        Nat.lt_of_le_of_lt (unitOfChar_le_units inside) bound
      have charsFit : position.character < columnLimit :=
        Nat.lt_of_le_of_lt (Nat.le_trans inside (length_le_units line)) bound
      simp [toChars, fromChars, convert, present, Nat.mod_eq_of_lt unitsFit,
        Nat.mod_eq_of_lt charsFit]

theorem rangeToChars_rangeFromChars (short : ∀ line ∈ document, units line < columnLimit)
    {range : Range} (fits : range.Fits document) :
    encoding.rangeToChars document (encoding.rangeFromChars document range) = range := by
  rw [rangeToChars, rangeFromChars, encoding.toChars_fromChars short fits.1,
    encoding.toChars_fromChars short fits.2]

end Encoding

end KotlinAssist
