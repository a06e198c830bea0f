import CodeDeck.Text.Lines
import Mathlib.Data.List.Basic

namespace CodeDeck.Text

/-!
# Cutting what has been joined

Items without separator are found again after they have been joined, unless
there are none: the empty text is cut into one empty item. The lines of a text
hold no newline, so a text and its lines determine each other, and the lines of
joined texts are the lines of each text in turn.
-/

theorem separated_of_not_mem
    {separator : Char}
    {item : List Char}
    (absent : separator ∉ item) :
    separated separator item = [item] := by
  induction item with
  | nil => rfl
  | cons c rest inductionHypothesis =>
      simp only [List.mem_cons, not_or] at absent
      rw [separated, inductionHypothesis absent.2]
      simp [Ne.symm absent.1]

/-- A separator cuts whatever stands around it. -/
theorem separated_append_separator
    (separator : Char)
    (first rest : List Char) :
    separated separator (first ++ separator :: rest) =
      separated separator first ++ separated separator rest := by
  induction first with
  | nil =>
      cases shape : separated separator rest with
      | nil => exact absurd shape (separated_ne_nil separator rest)
      | cons item items => simp [separated, shape]
  | cons c first inductionHypothesis =>
      cases shape : separated separator first with
      | nil => exact absurd shape (separated_ne_nil separator first)
      | cons item items =>
          rw [List.cons_append, separated, inductionHypothesis, separated, shape]
          simp only [List.cons_append]
          split <;> rfl

/-- Joined texts are cut like the texts one after the other. -/
theorem separated_joined_eq_flatMap
    (separator : Char)
    {items : List (List Char)}
    (nonempty : items ≠ []) :
    separated separator (joined separator items) = items.flatMap (separated separator) := by
  induction items with
  | nil => exact absurd rfl nonempty
  | cons item items inductionHypothesis =>
      cases items with
      | nil => simp [joined]
      | cons next more =>
          rw [joined, separated_append_separator, inductionHypothesis (by simp)]
          exact List.flatMap_cons.symm

/-- Joining and cutting gives the items back. -/
theorem separated_joined
    {separator : Char}
    {items : List (List Char)}
    (absent : ∀ item ∈ items, separator ∉ item)
    (nonempty : items ≠ []) :
    separated separator (joined separator items) = items := by
  calc
    separated separator (joined separator items)
        = items.flatMap (separated separator) := separated_joined_eq_flatMap separator nonempty
    _ = items.flatMap fun item => [item] :=
      List.flatMap_congr fun item member => separated_of_not_mem (absent item member)
    _ = items := List.flatMap_singleton' items

theorem not_mem_of_mem_separated
    {separator : Char}
    {chars item : List Char}
    (member : item ∈ separated separator chars) :
    separator ∉ item := by
  induction chars generalizing item with
  | nil =>
      simp only [separated, List.mem_singleton] at member
      simp [member]
  | cons c rest inductionHypothesis =>
      cases shape : separated separator rest with
      | nil => exact absurd shape (separated_ne_nil separator rest)
      | cons first more =>
          rw [shape] at inductionHypothesis
          have firstAbsent : separator ∉ first := inductionHypothesis (by simp)
          by_cases found : c = separator
          · simp only [separated, shape, found, if_true, List.mem_cons] at member
            rcases member with rfl | rfl | inMore
            · simp
            · exact firstAbsent
            · exact inductionHypothesis (List.mem_cons_of_mem first inMore)
          · simp only [separated, shape, found, if_false, List.mem_cons] at member
            rcases member with rfl | inMore
            · simp [firstAbsent, Ne.symm found]
            · exact inductionHypothesis (List.mem_cons_of_mem first inMore)

theorem mem_joined
    {separator c : Char}
    {item : List Char}
    {items : List (List Char)}
    (listed : item ∈ items)
    (member : c ∈ item) :
    c ∈ joined separator items := by
  induction items with
  | nil => contradiction
  | cons first items inductionHypothesis =>
      cases items with
      | nil =>
          rw [List.mem_singleton] at listed
          rw [joined, ← listed]
          exact member
      | cons next more =>
          rw [joined, List.mem_append]
          rcases List.mem_cons.mp listed with rfl | inMore
          · exact .inl member
          · exact .inr (List.mem_cons_of_mem separator (inductionHypothesis inMore))

/-- A line holds no newline. -/
def IsLine (line : String) : Prop :=
  '\n' ∉ line.toList

instance (line : String) : Decidable (IsLine line) :=
  inferInstanceAs (Decidable ('\n' ∉ line.toList))

theorem isLine_of_mem_splitLines
    {text line : String}
    (member : line ∈ splitLines text) :
    IsLine line := by
  obtain ⟨chars, charsMember, rfl⟩ := List.mem_map.mp member
  simpa [IsLine] using not_mem_of_mem_separated charsMember

theorem splitLines_joinLines
    {lines : List String}
    (areLines : ∀ line ∈ lines, IsLine line)
    (nonempty : lines ≠ []) :
    splitLines (joinLines lines) = lines := by
  have absent : ∀ item ∈ lines.map String.toList, '\n' ∉ item := by
    intro item member
    obtain ⟨line, lineMember, rfl⟩ := List.mem_map.mp member
    exact areLines line lineMember
  simp [splitLines, joinLines, separated_joined absent, nonempty, Function.comp_def]

/-- The lines of joined texts are the lines of the texts one after the other. -/
theorem splitLines_joinLines_eq_flatMap
    {texts : List String}
    (nonempty : texts ≠ []) :
    splitLines (joinLines texts) = texts.flatMap splitLines := by
  have charsNonempty : texts.map String.toList ≠ [] := by simpa using nonempty
  rw [splitLines, joinLines, String.toList_ofList, separated_joined_eq_flatMap _ charsNonempty,
    List.flatMap_map, List.map_flatMap]
  rfl

/-- The lines of a text, of which the empty text has none. -/
def linesOf (text : String) : List String :=
  if text = "" then [] else splitLines text

@[simp] theorem joinLines_nil : joinLines [] = "" :=
  rfl

/-- Lines of which the first is not empty are the lines of the joined text. -/
theorem linesOf_joinLines
    {lines : List String}
    (areLines : ∀ line ∈ lines, IsLine line)
    (startsFull : ∀ line ∈ lines.head?, line ≠ "") :
    linesOf (joinLines lines) = lines := by
  cases lines with
  | nil => simp [linesOf]
  | cons first more =>
      have notEmpty : joinLines (first :: more) ≠ "" := by
        intro empty
        have firstFull : first ≠ "" := startsFull first rfl
        have cut := splitLines_joinLines areLines (by simp)
        rw [empty] at cut
        injection cut with firstEmpty _
        exact firstFull firstEmpty.symm
      rw [linesOf, if_neg notEmpty, splitLines_joinLines areLines (by simp)]

/-- A text without a carriage return keeps its line ends. -/
theorem unifyLineEnds_of_not_mem
    {chars : List Char}
    (absent : '\r' ∉ chars) :
    unifyLineEnds chars = chars := by
  induction chars with
  | nil => rfl
  | cons c rest inductionHypothesis =>
      rw [List.mem_cons, not_or] at absent
      rw [unifyLineEnds, if_neg (Ne.symm absent.1), inductionHypothesis absent.2]
      intro _ isReturn _
      exact absent.1 isReturn.symm

end CodeDeck.Text
