import CodeDeck.Proofs.Block.Excerpt
import Mathlib.Order.Bounds.Basic

namespace CodeDeck

/-!
# The slice that trimming keeps

Lines that are not all blank can be cut in one way only into blank lines, a
slice with no blank line at either end, and blank lines. Trimming joins the
lines of that slice. When it undents them, it takes as many characters off
each of them as it can without taking one that is no whitespace off a line
that is not blank: `text_eq_slice`.
-/

namespace Text

/-- A line starts with some number of whitespace characters, or more. -/
def StartsWithSpaces (count : Nat) (line : String) : Prop :=
  count ≤ line.toList.length ∧ ∀ c ∈ line.toList.take count, isSpace c = true

/-- The whitespace that a line starts with is whitespace in front of the rest of its margin. -/
theorem takeWhile_eq_take_append
    {line : String}
    {count : Nat}
    (spaces : ∀ c ∈ line.toList.take count, isSpace c = true) :
    line.toList.takeWhile isSpace =
      line.toList.take count ++ (line.toList.drop count).takeWhile isSpace := by
  conv_lhs => rw [← List.take_append_drop count line.toList]
  exact List.takeWhile_append_of_pos spaces

/-- A line starts with as many whitespace characters as its margin has, and no more. -/
theorem startsWithSpaces_iff
    {count : Nat}
    {line : String} :
    StartsWithSpaces count line ↔ count ≤ margin line := by
  constructor
  · rintro ⟨within, spaces⟩
    rw [margin, takeWhile_eq_take_append spaces, List.length_append, List.length_take_of_le within]
    exact Nat.le_add_right count _
  · intro within
    exact ⟨within.trans (margin_le_length line), fun _ => isSpace_of_mem_take within⟩

/-- What is taken off a margin is missing from it. -/
theorem margin_dropFront
    {line : String}
    {count : Nat}
    (within : count ≤ margin line) :
    margin (dropFront count line) + count = margin line := by
  obtain ⟨enough, spaces⟩ := startsWithSpaces_iff.mpr within
  rw [margin, margin, takeWhile_eq_take_append spaces, toList_dropFront, List.length_append,
    List.length_take_of_le enough, Nat.add_comm]

end Text

namespace Trim

variable {source kept : List String}

/-- Lines cut into blank ones, a slice with no blank line at either end, and blank ones. -/
@[ext]
structure Cut (source : List String) where
  before : List String
  kept : List String
  after : List String
  whole : source = before ++ kept ++ after
  blankBefore : ∀ line ∈ before, Text.isBlank line = true
  blankAfter : ∀ line ∈ after, Text.isBlank line = true
  nonempty : kept ≠ []
  endsFull : EndsFull kept

namespace Cut

theorem window_eq (cut : Cut source) : window source = cut.kept := by
  calc
    window source = window (cut.before ++ cut.kept ++ cut.after) := congrArg window cut.whole
    _ = window cut.kept := window_surrounded cut.kept cut.blankBefore cut.blankAfter
    _ = cut.kept := window_eq_self cut.endsFull

/-- The slice starts with a line that is not blank. -/
theorem exists_first (cut : Cut source) :
    ∃ first rest, cut.kept = first :: rest ∧ Text.isBlank first = false := by
  obtain ⟨first, rest, shape⟩ := List.exists_cons_of_ne_nil cut.nonempty
  exact ⟨first, rest, shape, cut.endsFull first (.inl (by rw [shape]; rfl))⟩

theorem takeWhile_eq (cut : Cut source) : source.takeWhile Text.isBlank = cut.before := by
  obtain ⟨first, rest, shape, notBlank⟩ := cut.exists_first
  calc
    source.takeWhile Text.isBlank
        = (cut.before ++ (cut.kept ++ cut.after)).takeWhile Text.isBlank := by
      rw [← List.append_assoc, ← cut.whole]
    _ = cut.before := by
      rw [List.takeWhile_append_of_pos cut.blankBefore, shape, List.cons_append,
        List.takeWhile_cons_of_neg (by simp [notBlank]), List.append_nil]

/-- There is only one way to cut lines. -/
theorem eq (first second : Cut source) : first = second := by
  have sameBefore : first.before = second.before :=
    first.takeWhile_eq.symm.trans second.takeWhile_eq
  have sameKept : first.kept = second.kept := first.window_eq.symm.trans second.window_eq
  have whole := first.whole.symm.trans second.whole
  rw [sameBefore, sameKept] at whole
  exact Cut.ext sameBefore sameKept (List.append_cancel_left whole)

end Cut

/-- Around the window of some lines all lines are blank. -/
theorem exists_window_append (source : List String) :
    ∃ before after,
      source = before ++ window source ++ after ∧
        (∀ line ∈ before, Text.isBlank line = true) ∧
        ∀ line ∈ after, Text.isBlank line = true := by
  let rest := source.dropWhile Text.isBlank
  refine ⟨source.takeWhile Text.isBlank, rest.rtakeWhile Text.isBlank, ?_,
    fun _ => List.mem_takeWhile_imp, fun _ => List.mem_rtakeWhile_imp⟩
  rw [window_eq_rdropWhile, List.append_assoc, List.rdropWhile_append_rtakeWhile,
    List.takeWhile_append_dropWhile]

/-- Lines that are not all blank can be cut. -/
theorem nonempty_cut
    {line : String}
    (member : line ∈ source)
    (notBlank : Text.isBlank line = false) :
    Nonempty (Cut source) := by
  obtain ⟨before, after, whole, blankBefore, blankAfter⟩ := exists_window_append source
  refine ⟨⟨before, window source, after, whole, blankBefore, blankAfter, ?_,
    endsFull_lines source false⟩⟩
  intro empty
  rw [whole, empty, List.append_nil] at member
  rcases List.mem_append.mp member with inFront | behind
  · simp [blankBefore line inFront] at notBlank
  · simp [blankAfter line behind] at notBlank

/-- Nothing is kept of blank lines. -/
theorem text_of_blank
    (blank : ∀ line ∈ source, Text.isBlank line = true)
    (undented : Bool) :
    text source undented = "" := by
  have empty : window source = [] := by
    rw [window, List.dropWhile_eq_nil_iff.mpr blank]
    rfl
  rw [text, lines_eq_map, empty]
  rfl

/-- The number of characters that undenting takes off the lines of a slice. -/
structure IsUndentOf (kept : List String) (count : Nat) : Prop where
  greatest :
    IsGreatest
      {count | ∀ line ∈ kept, Text.isBlank line = false → Text.StartsWithSpaces count line}
      count
  onlySpaces : ∀ line ∈ kept, ∀ c ∈ line.toList.take count, Text.isSpace c = true
  reachesEdge :
    ∃ line ∈ kept, Text.isBlank line = false ∧ Text.margin (Text.dropFront count line) = 0
  sameSteps :
    ∀ first ∈ kept, ∀ second ∈ kept,
      Text.isBlank first = false → Text.isBlank second = false →
        (Text.margin (Text.dropFront count first) : Int) -
            Text.margin (Text.dropFront count second) =
          Text.margin first - Text.margin second

/-- The common margin is what undenting takes off. -/
theorem isUndentOf_commonMargin
    {line : String}
    (member : line ∈ kept)
    (notBlank : Text.isBlank line = false) :
    IsUndentOf kept (commonMargin kept) where
  greatest := by
    refine ⟨fun line member notBlank => ?_, fun count starts => ?_⟩
    · exact Text.startsWithSpaces_iff.mpr (commonMargin_le member notBlank)
    · obtain ⟨least, inKept, leastNotBlank, sameMargin⟩ :=
        exists_margin_eq_commonMargin member notBlank
      rw [← sameMargin]
      exact Text.startsWithSpaces_iff.mp (starts least inKept leastNotBlank)
  onlySpaces := by
    intro line member c taken
    cases blank : Text.isBlank line with
    | true => exact List.all_eq_true.mp blank c (List.mem_of_mem_take taken)
    | false => exact Text.isSpace_of_mem_take (commonMargin_le member blank) taken
  reachesEdge := by
    obtain ⟨least, inKept, leastNotBlank, sameMargin⟩ :=
      exists_margin_eq_commonMargin member notBlank
    have left := Text.margin_dropFront sameMargin.ge
    exact ⟨least, inKept, leastNotBlank, by omega⟩
  sameSteps := by
    intro first inKept second secondInKept firstNotBlank secondNotBlank
    have firstLeft := Text.margin_dropFront (commonMargin_le inKept firstNotBlank)
    have secondLeft := Text.margin_dropFront (commonMargin_le secondInKept secondNotBlank)
    omega

/--
Blank lines are trimmed to nothing. Other lines have exactly one slice with no blank line at
either end and blank lines alone around it. They are trimmed to the lines of that slice, and
undented to the same lines without the greatest number of characters that all of them start with
as whitespace, but for the blank ones, which become empty when they are shorter.
-/
theorem text_eq_slice (source : List String) :
    ((∀ line ∈ source, Text.isBlank line = true) → ∀ undented, text source undented = "") ∧
      ((∃ line ∈ source, Text.isBlank line = false) →
        ∃ cut : Cut source,
          (∀ other : Cut source, other = cut) ∧
            text source false = Text.joinLines cut.kept ∧
            ∃ count,
              IsUndentOf cut.kept count ∧
                text source true =
                  Text.joinLines (cut.kept.map (Text.dropFront count))) := by
  refine ⟨text_of_blank, ?_⟩
  rintro ⟨line, member, notBlank⟩
  obtain ⟨cut⟩ := nonempty_cut member notBlank
  obtain ⟨first, rest, shape, firstNotBlank⟩ := cut.exists_first
  have inKept : first ∈ cut.kept := by simp [shape]
  refine ⟨cut, fun other => other.eq cut, ?_, commonMargin cut.kept,
    isUndentOf_commonMargin inKept firstNotBlank, ?_⟩
  · rw [text, ← cut.window_eq]
    rfl
  · rw [text, ← cut.window_eq]
    rfl

/-- Blank lines alone, and a slice with a blank line that is longer than what is taken off. -/
theorem text_eq_slice_blanks :
    let blank := ["", "\t", " "]
    let source := ["", "\t", "    a", "", "  \t   ", "\t     b", " "]
    (∀ line ∈ blank, Text.isBlank line = true) ∧
      text blank true = "" ∧
      (∃ line ∈ source, Text.isBlank line = false) ∧
      ∃ cut : Cut source,
        cut.kept = ["    a", "", "  \t   ", "\t     b"] ∧
          (∀ other : Cut source, other = cut) ∧
          text source false = Text.joinLines cut.kept ∧
          ∃ count,
            IsUndentOf cut.kept count ∧
              Text.joinLines (cut.kept.map (Text.dropFront count)) = "a\n\n  \n  b" := by
  intro blank source
  have allBlank : ∀ line ∈ blank, Text.isBlank line = true := by decide
  have notAllBlank : ∃ line ∈ source, Text.isBlank line = false :=
    ⟨"    a", by decide, by decide⟩
  obtain ⟨cut, only, plain, count, isUndent, undented⟩ := (text_eq_slice source).2 notAllBlank
  exact ⟨allBlank, (text_eq_slice blank).1 allBlank true, notAllBlank, cut,
    cut.window_eq.symm.trans (by decide), only, plain, count, isUndent,
    undented.symm.trans (by decide)⟩

end Trim

end CodeDeck
