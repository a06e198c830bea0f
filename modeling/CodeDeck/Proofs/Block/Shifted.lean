import CodeDeck.Proofs.Block.Trimmed
import Mathlib.Data.List.Forall2

namespace CodeDeck

/-!
# Trimming what has been trimmed or shifted

Trimming does not see what trimming takes away. Lines that have been trimmed
before are trimmed to the same text as at first, and so are lines with blank
ones around them. Lines that all stand further to the right by some spaces are
undented to the same text; if the blank ones stay where they are, the others
are still the same. These are the parts of `text_unaffected`.
-/

namespace Text

/-- A line behind some spaces. -/
def indent (count : Nat) (line : String) : String :=
  String.ofList (List.replicate count ' ' ++ line.toList)

/-- A line behind some spaces, unless it is blank. -/
def indentFull (count : Nat) (line : String) : String :=
  if isBlank line then line else indent count line

/-- Two lines are the same, or both are blank. -/
def SameUnlessBlank (first second : String) : Prop :=
  first = second ∨ isBlank first = true ∧ isBlank second = true

variable {count : Nat} {line : String}

theorem isBlank_indent (count : Nat) (line : String) :
    isBlank (indent count line) = isBlank line := by
  simp [isBlank, indent, show isSpace ' ' = true from rfl]

theorem margin_indent (count : Nat) (line : String) :
    margin (indent count line) = margin line + count := by
  have spaces : ∀ c ∈ List.replicate count ' ', isSpace c = true := by
    intro c member
    rw [List.eq_of_mem_replicate member]
    rfl
  rw [margin, indent, String.toList_ofList, List.takeWhile_append_of_pos spaces,
    List.length_append, List.length_replicate, Nat.add_comm, margin]

theorem dropFront_indent (dropped count : Nat) (line : String) :
    dropFront (dropped + count) (indent count line) = dropFront dropped line := by
  rw [dropFront, dropFront, indent, String.toList_ofList, Nat.add_comm, ← List.drop_drop,
    List.drop_left' List.length_replicate]

theorem isLine_indent
    (count : Nat)
    (isLine : IsLine line) :
    IsLine (indent count line) := by
  simpa [IsLine, indent] using isLine

theorem indentFull_of_full
    (count : Nat)
    (notBlank : isBlank line = false) :
    indentFull count line = indent count line := by
  simp [indentFull, notBlank]

theorem isBlank_indentFull (count : Nat) (line : String) :
    isBlank (indentFull count line) = isBlank line := by
  rw [indentFull]
  split
  · rfl
  · exact isBlank_indent count line

theorem isLine_indentFull
    (count : Nat)
    (isLine : IsLine line) :
    IsLine (indentFull count line) := by
  rw [indentFull]
  split
  · exact isLine
  · exact isLine_indent count isLine

end Text

namespace Trim

/--
Lines are moved to the right by some spaces; what becomes of the blank ones is open, but that
they stay blank.
-/
structure Shifts (count : Nat) (shift : String → String) : Prop where
  sameBlank : ∀ line, Text.isBlank (shift line) = Text.isBlank line
  full : ∀ line, Text.isBlank line = false → shift line = Text.indent count line

theorem shifts_indent (count : Nat) : Shifts count (Text.indent count) where
  sameBlank := Text.isBlank_indent count
  full _ _ := rfl

theorem shifts_indentFull (count : Nat) : Shifts count (Text.indentFull count) where
  sameBlank := Text.isBlank_indentFull count
  full _ := Text.indentFull_of_full count

namespace Shifts

variable {count : Nat} {shift : String → String} {line : String}

theorem window_map
    (shifts : Shifts count shift)
    (source : List String) :
    window (source.map shift) = (window source).map shift := by
  have sameTest : Text.isBlank ∘ shift = Text.isBlank := funext shifts.sameBlank
  rw [window, window, List.dropWhile_map, sameTest, ← List.map_reverse, List.dropWhile_map,
    sameTest, List.map_reverse]

/-- The common margin grows by the spaces, if there is a line that has a say in it. -/
theorem commonMargin_map
    {kept : List String}
    (shifts : Shifts count shift)
    (member : line ∈ kept)
    (notBlank : Text.isBlank line = false) :
    commonMargin (kept.map shift) = commonMargin kept + count := by
  have margin_shift {line : String} (notBlank : Text.isBlank line = false) :
      Text.margin (shift line) = Text.margin line + count := by
    rw [shifts.full line notBlank, Text.margin_indent]
  -- Either margin is that of some line, which is a line of the other side but for the spaces.
  apply Nat.le_antisymm
  · obtain ⟨least, inKept, leastNotBlank, sameMargin⟩ :=
      exists_margin_eq_commonMargin member notBlank
    rw [← sameMargin, ← margin_shift leastNotBlank]
    exact commonMargin_le (List.mem_map_of_mem inKept)
      ((shifts.sameBlank least).trans leastNotBlank)
  · obtain ⟨shifted, inShifted, leastNotBlank, sameMargin⟩ :=
      exists_margin_eq_commonMargin (List.mem_map_of_mem member)
        ((shifts.sameBlank line).trans notBlank)
    obtain ⟨least, inKept, rfl⟩ := List.mem_map.mp inShifted
    rw [shifts.sameBlank] at leastNotBlank
    rw [← sameMargin, margin_shift leastNotBlank]
    exact Nat.add_le_add_right (commonMargin_le inKept leastNotBlank) count

/-- Undenting takes the spaces off all lines again. -/
theorem lines_map
    (shifts : Shifts count shift)
    (source : List String) :
    lines (source.map shift) true =
      (window source).map fun line =>
        Text.dropFront (commonMargin (window source) + count) (shift line) := by
  rw [lines_eq_map, removed, if_pos rfl, shifts.window_map, List.map_map]
  cases shape : (window source).head? with
  | none =>
      rw [List.head?_eq_none_iff.mp shape]
      rfl
  | some first =>
      rw [shifts.commonMargin_map (List.mem_of_mem_head? shape) (isBlank_head?_window shape)]
      rfl

end Shifts

theorem text_indent (count : Nat) (source : List String) :
    text (source.map (Text.indent count)) true = text source true := by
  rw [text, (shifts_indent count).lines_map, text, lines_eq_map source]
  simp only [Text.dropFront_indent]
  rfl

/-- Lines that are indented unless they are blank are undented to the same lines but for those. -/
theorem lines_indentFull (count : Nat) (source : List String) :
    List.Forall₂ Text.SameUnlessBlank
      (lines (source.map (Text.indentFull count)) true)
      (lines source true) := by
  rw [(shifts_indentFull count).lines_map, lines_eq_map source, removed, if_pos rfl,
    List.forall₂_map_left_iff, List.forall₂_map_right_iff, List.forall₂_same]
  intro line _
  cases blank : Text.isBlank line with
  | true =>
      refine .inr ⟨?_, Text.isBlank_dropFront_of_isBlank _ blank⟩
      exact Text.isBlank_dropFront_of_isBlank _ ((Text.isBlank_indentFull count line).trans blank)
  | false =>
      rw [Text.indentFull_of_full count blank, Text.dropFront_indent]
      exact .inl rfl

/--
Trimming lines gives the same text if they have been trimmed before (undented if they are undented
either time), if there are blank lines around them, and, undented, if all lines stand behind some
spaces. If only the lines that are not blank do, the text is the same but for blank lines.
-/
theorem text_unaffected
    {source : List String}
    (areLines : ∀ line ∈ source, Text.IsLine line) :
    (∀ undented again,
        text (Text.splitLines (text source undented)) again = text source (undented || again)) ∧
      (∀ before after, (∀ line ∈ before ++ after, Text.isBlank line = true) →
        ∀ undented, text (before ++ source ++ after) undented = text source undented) ∧
      ∀ count,
        text (source.map (Text.indent count)) true = text source true ∧
          List.Forall₂ Text.SameUnlessBlank
            (Text.linesOf (text (source.map (Text.indentFull count)) true))
            (Text.linesOf (text source true)) := by
  refine ⟨text_retrimmed areLines, ?_, fun count => ⟨text_indent count source, ?_⟩⟩
  · intro before after blank undented
    obtain ⟨blankBefore, blankAfter⟩ := List.forall_mem_append.mp blank
    exact text_eq_of_window_eq undented (window_surrounded source blankBefore blankAfter)
  · have stillLines : ∀ line ∈ source.map (Text.indentFull count), Text.IsLine line := by
      intro line member
      obtain ⟨original, inSource, rfl⟩ := List.mem_map.mp member
      exact Text.isLine_indentFull count (areLines original inSource)
    rw [linesOf_text stillLines, linesOf_text areLines]
    exact lines_indentFull count source

/-- Lines with a longer and a shorter blank one between them, trimmed, undented and shifted. -/
theorem text_unaffected_blanks :
    let source := ["", "    a", "\t \t   ", "\u3000", "     b", " "]
    (∀ line ∈ source, Text.IsLine line) ∧
      text source true = "a\n  \n\n b" ∧
      text (Text.splitLines (text source false)) true = text source true ∧
      text (["\t"] ++ source ++ ["", " "]) true = text source true ∧
      text (source.map (Text.indent 3)) true = text source true ∧
      text (source.map (Text.indentFull 3)) true = "a\n\n\n b" := by
  intro source
  have areLines : ∀ line ∈ source, Text.IsLine line := by decide
  obtain ⟨retrimmed, surrounded, shifted⟩ := text_unaffected areLines
  exact ⟨areLines, by decide, retrimmed false true, surrounded _ _ (by decide) true,
    (shifted 3).1, by decide⟩

end Trim

end CodeDeck
