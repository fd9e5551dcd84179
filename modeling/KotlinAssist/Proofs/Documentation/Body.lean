import KotlinAssist.Documentation
import KotlinAssist.Proofs.Text.Blank

/-!
# The text of a documentation block

Reading a block moves text about: the description is joined from several lines, a tag is cut into
its name, its subject and its text, and later lines are added to that text.  Blanks come and go on
the way, everything else stays and keeps its order.  So the block is measured by its characters other
than blanks.  Each function that takes part in the reading keeps them, and the reading of the whole
body does so too, because a line goes either to the tag that was opened last or, before the first
tag, to the description.

## Main definitions

* `Text.solid` — the characters of a text other than blanks
* `DocComment.spelled` — a block written out, one part after the other

## Main statements

* `DocComment.solid_splitWord`, `DocComment.solid_readTag`, `DocComment.solid_joinParagraphs` — what
  the parts of the reading keep
* `DocComment.spelled_readLines` — what reading some lines keeps, by induction from the last one
* `DocComment.reading_keeps_text` — reading a body keeps its text, and opens a tag where one stands
-/

namespace KotlinAssist

namespace Text

/-- The characters of a text other than blanks. -/
def solid (text : List Char) : List Char :=
  text.filter fun c => !isBlank c

@[simp] theorem solid_nil : solid [] = [] := rfl

@[simp] theorem solid_append (front back : List Char) :
    solid (front ++ back) = solid front ++ solid back :=
  List.filter_append front back

theorem solid_cons_of_solid {c : Char} (notBlank : isBlank c = false) (text : List Char) :
    solid (c :: text) = c :: solid text := by
  rw [solid, List.filter_cons_of_pos]
  · rfl
  · rw [notBlank]
    rfl

theorem solid_cons_of_blank {c : Char} (blank : isBlank c = true) (text : List Char) :
    solid (c :: text) = solid text := by
  rw [solid, List.filter_cons_of_neg]
  · rfl
  · rw [blank]
    exact Bool.false_ne_true

/-- Only blanks leave nothing. -/
theorem solid_eq_nil_iff {text : List Char} : solid text = [] ↔ ∀ c ∈ text, isBlank c = true := by
  rw [solid, List.filter_eq_nil_iff]
  simp

/-- Blanks behind a text do not count. -/
theorem solid_append_blanks {tail : List Char} (blank : ∀ c ∈ tail, isBlank c = true)
    (text : List Char) : solid (text ++ tail) = solid text := by
  rw [solid_append, solid_eq_nil_iff.mpr blank, List.append_nil]

@[simp] theorem solid_trimEnd (text : List Char) : solid (trimEnd text) = solid text := by
  obtain ⟨tail, cut, blank⟩ := exists_trimEnd_cut text
  have same := solid_append_blanks blank (trimEnd text)
  rw [← cut] at same
  exact same.symm

@[simp] theorem solid_trimStart (text : List Char) : solid (trimStart text) = solid text := by
  have blank : solid (text.takeWhile isBlank) = [] :=
    solid_eq_nil_iff.mpr fun c member => List.mem_takeWhile_imp member
  have cut := solid_append (text.takeWhile isBlank) (text.dropWhile isBlank)
  rw [List.takeWhile_append_dropWhile, blank, List.nil_append] at cut
  exact cut.symm

@[simp] theorem solid_trim (text : List Char) : solid (trim text) = solid text := by
  rw [trim, solid_trimEnd, solid_trimStart]

end Text

open Text

/-! ## Blocks written out -/

/-- A tag written out: an at sign, its name, its subject if it has one, and its text. -/
def DocTag.spelled (tag : DocTag) : List Char :=
  '@' :: tag.name.toList ++ (tag.subject.getD "").toList ++ tag.text.toList

namespace DocComment

/-- A block written out: its description, and then its tags. -/
def spelled (doc : DocComment) : List Char :=
  doc.description.toList ++ doc.tags.flatMap DocTag.spelled

/-- Whether a line of a body opens a tag. -/
def opensTag (line : Line) : Bool :=
  (stripMarker line).head? == some '@'

theorem isBlank_at : isBlank '@' = false := by
  decide

/-! ## The parts of the reading -/

theorem solid_splitWord (text : List Char) :
    solid (splitWord text).1 ++ solid (splitWord text).2 = solid text := by
  simp only [splitWord, solid_trim]
  rw [← solid_append, List.takeWhile_append_dropWhile, solid_trimStart]

theorem solid_continueText (text : List Char) (line : Line) :
    solid (continueText text line) = solid text ++ solid line := by
  unfold continueText
  split
  · next empty => rw [List.isEmpty_iff.mp empty, solid_nil, List.append_nil]
  · split
    · next empty => rw [List.isEmpty_iff.mp empty, solid_trim, solid_nil, List.nil_append]
    · rw [solid_append, solid_cons_of_blank (by decide), solid_trim]

theorem solid_foldl_continueText (text : List Char) (further : List Line) :
    solid (further.foldl continueText text) = solid text ++ further.flatMap solid := by
  induction further generalizing text with
  | nil => simp
  | cons line further ih =>
    rw [List.foldl_cons, ih, solid_continueText, List.flatMap_cons, List.append_assoc]

/-- The subject is the first word behind the name of a tag, or all of it is text. -/
theorem solid_subject (named : Bool) (rest : List Char) :
    solid (if named then splitWord rest else ([], rest)).1 ++
      solid (if named then splitWord rest else ([], rest)).2 = solid rest := by
  cases named with
  | true => exact solid_splitWord rest
  | false => rfl

theorem toList_subject (subject : List Char) :
    ((if subject.isEmpty then none else some (String.ofList subject)).getD "").toList =
      subject := by
  cases subject with
  | nil => rfl
  | cons c rest => exact String.toList_ofList

/-- A tag holds what stands behind its at sign, and the lines that continue it. -/
theorem solid_readTag (line : Line) (further : List Line) :
    solid (readTag line further).spelled = '@' :: solid line ++ further.flatMap solid := by
  have named := solid_splitWord line
  have subjected := solid_subject (subjectTags.contains (String.ofList (splitWord line).1))
    (splitWord line).2
  unfold readTag DocTag.spelled
  dsimp only
  rw [toList_subject]
  simp only [String.toList_ofList, List.cons_append, solid_cons_of_solid isBlank_at, solid_append,
    solid_foldl_continueText]
  rw [← named, ← subjected]
  simp only [List.append_assoc]

/-- Joining lines adds blanks between them only. -/
theorem solid_joinFrom (joined : List Char) (pending : Bool) (lines : List Line) :
    solid (joinFrom joined pending lines) = solid joined ++ lines.flatMap solid := by
  induction lines generalizing joined pending with
  | nil => simp [joinFrom]
  | cons line rest ih =>
    rw [joinFrom, List.flatMap_cons]
    split
    · next empty => rw [ih, List.isEmpty_iff.mp empty, solid_nil, List.nil_append]
    · have blank : solid (if pending = true then ['\n', '\n']
          else if joined.isEmpty = true then [] else [' ']) = [] := by
        split
        · decide
        · split <;> decide
      rw [ih, solid_append, solid_append, blank, List.append_nil, List.append_assoc]

theorem solid_joinParagraphs (lines : List Line) :
    solid (joinParagraphs lines) = lines.flatMap solid :=
  solid_joinFrom [] false lines

/-! ## The whole body -/

/-- One line more, read before those below it: it opens a tag, which takes all lines that have no
tag yet, or it becomes one of them. -/
theorem spelled_readStep (line : Line) (state : List Line × List DocTag) :
    (readStep line state).1.flatMap solid ++ (readStep line state).2.flatMap (solid ·.spelled) =
        solid line ++ (state.1.flatMap solid ++ state.2.flatMap (solid ·.spelled)) ∧
      (readStep line state).2.length =
        (if line.head? == some '@' then 1 else 0) + state.2.length := by
  unfold readStep
  split
  · next rest =>
    refine ⟨?_, Nat.add_comm _ _⟩
    rw [List.flatMap_nil, List.nil_append, List.flatMap_cons, solid_readTag,
      solid_cons_of_solid isBlank_at]
    simp only [List.append_assoc, List.cons_append]
  · next other =>
    have plain : (line.head? == some '@') = false := by
      cases line with
      | nil => rfl
      | cons c rest =>
        rw [List.head?_cons]
        refine beq_false_of_ne fun same => ?_
        cases same
        exact other rest rfl
    rw [plain]
    refine ⟨?_, (Nat.zero_add _).symm⟩
    rw [List.flatMap_cons, List.append_assoc]

/-- **Reading lines keeps their text**, whatever the lines are, and opens one tag for each line that
starts with an at sign. -/
theorem spelled_readLines (lines : List Line) :
    (lines.foldr readStep ([], [])).1.flatMap solid ++
        (lines.foldr readStep ([], [])).2.flatMap (solid ·.spelled) = lines.flatMap solid ∧
      (lines.foldr readStep ([], [])).2.length = lines.countP (·.head? == some '@') := by
  induction lines with
  | nil => exact ⟨rfl, rfl⟩
  | cons line lines ih =>
    obtain ⟨text, tags⟩ := spelled_readStep line (lines.foldr readStep ([], []))
    rw [List.foldr_cons]
    refine ⟨?_, ?_⟩
    · rw [text, ih.1, List.flatMap_cons]
    · rw [tags, ih.2, List.countP_cons, Nat.add_comm]

/-- **Reading a documentation block loses, doubles and moves no text.**  The characters other than
blanks of the description and of the tags that follow it, each written out with its at sign, name,
subject and text, are those of the lines of the body without their markers; and there are as many
tags as lines that open one. -/
theorem reading_keeps_text (body : List Line) :
    solid (ofBody body).spelled = (body.flatMap fun line => solid (stripMarker line)) ∧
      (ofBody body).tags.length = body.countP opensTag := by
  obtain ⟨text, tags⟩ := spelled_readLines (body.map stripMarker)
  have read : ofBody body =
      ⟨String.ofList (joinParagraphs ((body.map stripMarker).foldr readStep ([], [])).1),
        ((body.map stripMarker).foldr readStep ([], [])).2⟩ := rfl
  rw [read]
  refine ⟨?_, ?_⟩
  · rw [spelled, solid_append, String.toList_ofList, solid_joinParagraphs, solid,
      List.filter_flatMap]
    refine text.trans ?_
    rw [List.flatMap_map]
  · rw [tags, List.countP_map]
    rfl

/-- A line continues the tag above it, and an at sign alone opens a tag without a name. -/
example : ofBody ["* Loads.".toList, "* @throws IOException when".toList,
      "*   the disk fails".toList, "* @".toList] =
    ⟨"Loads.", [⟨"throws", some "IOException", "when the disk fails"⟩, ⟨"", none, ""⟩]⟩ := by
  decide

end DocComment

end KotlinAssist
