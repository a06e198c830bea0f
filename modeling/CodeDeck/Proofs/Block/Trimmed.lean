import CodeDeck.Block.Trim
import CodeDeck.Proofs.Text.Lines
import Mathlib.Data.List.DropRight

namespace CodeDeck

open List

/-!
# Trimmed lines

The window of some lines is a part of them with no blank line at either end,
and what is left out of the lines is left out of the window. The common margin
is at most the margin of each line that is not blank, and one such line has no
more, so that taking it off never takes a character that is no whitespace.
-/

namespace Text

/-- Behind the margin of a line stands what is left when its leading whitespace is dropped. -/
theorem drop_margin (line : String) :
    line.toList.drop (margin line) = line.toList.dropWhile isSpace := by
  have whole := List.takeWhile_append_dropWhile (p := isSpace) (l := line.toList)
  calc
    line.toList.drop (margin line)
        = (line.toList.takeWhile isSpace ++ line.toList.dropWhile isSpace).drop (margin line) := by
      rw [whole]
    _ = line.toList.dropWhile isSpace := List.drop_left

theorem margin_le_length (line : String) : margin line ≤ line.toList.length :=
  (List.takeWhile_sublist isSpace).length_le

/-- Up to its margin a line holds nothing but whitespace. -/
theorem isSpace_of_mem_take
    {line : String}
    {count : Nat}
    {c : Char}
    (within : count ≤ margin line)
    (member : c ∈ line.toList.take count) :
    isSpace c = true := by
  have whole := List.takeWhile_append_dropWhile (p := isSpace) (l := line.toList)
  rw [← whole, List.take_append_of_le_length within] at member
  exact List.mem_takeWhile_imp (List.mem_of_mem_take member)

/-- A line that is not blank goes on behind its margin, and not with whitespace. -/
theorem exists_behind_margin
    {line : String}
    (notBlank : isBlank line = false) :
    ∃ c ∈ (line.toList.drop (margin line)).head?, isSpace c = false := by
  rw [drop_margin]
  cases shape : line.toList.dropWhile isSpace with
  | nil =>
      rw [List.dropWhile_eq_nil_iff] at shape
      rw [isBlank, List.all_eq_true.mpr shape] at notBlank
      contradiction
  | cons c rest =>
      have first := List.head?_dropWhile_not isSpace line.toList
      rw [shape] at first
      exact ⟨c, rfl, first⟩

/-- A line that is not blank keeps a character that is no whitespace behind part of its margin. -/
theorem isBlank_dropFront
    {line : String}
    {count : Nat}
    (within : count ≤ margin line)
    (notBlank : isBlank line = false) :
    isBlank (dropFront count line) = false := by
  obtain ⟨c, first, notSpace⟩ := exists_behind_margin notBlank
  have kept : c ∈ line.toList.drop count := by
    have behind : c ∈ line.toList.drop (margin line) := List.mem_of_mem_head? first
    rw [← Nat.add_sub_cancel' within, ← List.drop_drop] at behind
    exact List.mem_of_mem_drop behind
  rw [isBlank, toList_dropFront, List.all_eq_false]
  exact ⟨c, kept, by simp [notSpace]⟩

theorem isBlank_dropFront_of_isBlank
    {line : String}
    (count : Nat)
    (blank : isBlank line = true) :
    isBlank (dropFront count line) = true := by
  rw [isBlank, toList_dropFront, List.all_eq_true]
  exact fun c member => List.all_eq_true.mp blank c (List.mem_of_mem_drop member)

theorem margin_eq_zero
    {line : String}
    {c : Char}
    (first : c ∈ line.toList.head?)
    (notSpace : isSpace c = false) :
    margin line = 0 := by
  obtain ⟨rest, shape⟩ := List.head?_eq_some_iff.mp first
  rw [margin, shape, List.takeWhile_cons_of_neg (by simp [notSpace]), List.length_nil]

theorem ne_empty_of_isBlank
    {line : String}
    (notBlank : isBlank line = false) :
    line ≠ "" := by
  rintro rfl
  contradiction

theorem isLine_dropFront
    {line : String}
    (count : Nat)
    (noNewline : IsLine line) :
    IsLine (dropFront count line) := by
  rw [IsLine, toList_dropFront]
  exact fun member => noNewline (List.mem_of_mem_drop member)

/-- Every line of blank texts is blank. -/
theorem isBlank_of_mem_flatMap_splitLines
    {texts : List String}
    {line : String}
    (blank : ∀ text ∈ texts, isBlank text = true)
    (member : line ∈ texts.flatMap splitLines) :
    isBlank line = true := by
  obtain ⟨text, listed, inLines⟩ := List.mem_flatMap.mp member
  obtain ⟨chars, cut, rfl⟩ := List.mem_map.mp inLines
  rw [isBlank, String.toList_ofList, List.all_eq_true]
  intro c inLine
  have inText : c ∈ joined '\n' (separated '\n' text.toList) := mem_joined cut inLine
  rw [joined_separated] at inText
  exact List.all_eq_true.mp (blank text listed) c inText

@[simp] theorem dropFront_zero : dropFront 0 = id := by
  funext line
  simp [dropFront]

end Text

namespace Trim

/-- Leaving out lines leaves no other line in front. -/
theorem dropWhile_sublist_dropWhile
    {first second : List α}
    (test : α → Bool)
    (part : first <+ second) :
    first.dropWhile test <+ second.dropWhile test := by
  induction part with
  | slnil => exact .slnil
  | @cons smaller larger item part inductionHypothesis =>
      by_cases dropped : test item = true
      · rw [List.dropWhile_cons_of_pos dropped]
        exact inductionHypothesis
      · -- The larger list stops dropping here, so all that the smaller one keeps lies behind.
        rw [List.dropWhile_cons_of_neg dropped]
        exact ((List.dropWhile_sublist test).trans part).cons item
  | @cons_cons smaller larger item part inductionHypothesis =>
      by_cases dropped : test item = true
      · rw [List.dropWhile_cons_of_pos dropped, List.dropWhile_cons_of_pos dropped]
        exact inductionHypothesis
      · rw [List.dropWhile_cons_of_neg dropped, List.dropWhile_cons_of_neg dropped]
        exact part.cons_cons item

theorem window_eq_rdropWhile (lines : List String) :
    window lines = (lines.dropWhile Text.isBlank).rdropWhile Text.isBlank :=
  rfl

/-- What is left out of the lines is left out of the window, and nothing else. -/
theorem window_sublist_window
    {first second : List String}
    (part : first <+ second) :
    window first <+ window second := by
  have front := dropWhile_sublist_dropWhile Text.isBlank part
  exact (dropWhile_sublist_dropWhile Text.isBlank front.reverse).reverse

theorem window_sublist (lines : List String) : window lines <+ lines := by
  rw [window_eq_rdropWhile]
  exact (List.rdropWhile_prefix Text.isBlank _).sublist.trans (List.dropWhile_sublist Text.isBlank)

/-- Blank lines around others make no difference to the window. -/
theorem window_surrounded
    {before after : List String}
    (lines : List String)
    (blankBefore : ∀ line ∈ before, Text.isBlank line = true)
    (blankAfter : ∀ line ∈ after, Text.isBlank line = true) :
    window (before ++ lines ++ after) = window lines := by
  have blankReverse : ∀ line ∈ after.reverse, Text.isBlank line = true := by
    simpa using blankAfter
  rw [List.append_assoc, window, List.dropWhile_append_of_pos blankBefore, List.dropWhile_append]
  split
  · -- Nothing but blank lines is left in the middle, and those behind it are dropped with it.
    rename_i allBlank
    rw [window, List.isEmpty_iff.mp allBlank, List.dropWhile_eq_nil_iff.mpr blankAfter]
  · rw [List.reverse_append, List.dropWhile_append_of_pos blankReverse, window]

theorem isBlank_getLast?_window
    {lines : List String}
    {line : String}
    (last : line ∈ (window lines).getLast?) :
    Text.isBlank line = false := by
  obtain ⟨nonempty, rfl⟩ := List.mem_getLast?_eq_getLast last
  have notBlank : ¬ Text.isBlank ((window lines).getLast nonempty) = true :=
    List.rdropWhile_last_not Text.isBlank (lines.dropWhile Text.isBlank) nonempty
  simpa using notBlank

theorem isBlank_head?_window
    {lines : List String}
    {line : String}
    (first : line ∈ (window lines).head?) :
    Text.isBlank line = false := by
  obtain ⟨dropped, shape⟩ :=
    List.rdropWhile_prefix Text.isBlank (lines.dropWhile Text.isBlank)
  rw [← window_eq_rdropWhile] at shape
  have atFront : line ∈ (lines.dropWhile Text.isBlank).head? := by
    rw [← shape, List.head?_append]
    simp [Option.mem_def.mp first]
  have notBlank := List.head?_dropWhile_not Text.isBlank lines
  rw [Option.mem_def.mp atFront] at notBlank
  exact notBlank

theorem mem_margins
    {lines : List String}
    {margin : Nat} :
    margin ∈ margins lines ↔
      ∃ line ∈ lines, Text.isBlank line = false ∧ Text.margin line = margin := by
  simp [margins, and_assoc]

/-- The common margin is one of the margins that count, and the least of them. -/
theorem commonMargin_isLeast
    {lines : List String}
    {margin : Nat}
    (listed : margin ∈ margins lines) :
    commonMargin lines ∈ margins lines ∧ commonMargin lines ≤ margin := by
  obtain ⟨least, found⟩ := Option.isSome_iff_exists.mp (List.isSome_min?_of_mem listed)
  obtain ⟨member, smallest⟩ := List.min?_eq_some_iff.mp found
  rw [commonMargin, found, Option.getD_some]
  exact ⟨member, smallest margin listed⟩

/-- No line that is not blank has a smaller margin than the common one. -/
theorem commonMargin_le
    {lines : List String}
    {line : String}
    (member : line ∈ lines)
    (notBlank : Text.isBlank line = false) :
    commonMargin lines ≤ Text.margin line :=
  (commonMargin_isLeast (mem_margins.mpr ⟨line, member, notBlank, rfl⟩)).2

/-- Some line that is not blank has the common margin, if there is such a line. -/
theorem exists_margin_eq_commonMargin
    {lines : List String}
    {line : String}
    (member : line ∈ lines)
    (notBlank : Text.isBlank line = false) :
    ∃ least ∈ lines, Text.isBlank least = false ∧ Text.margin least = commonMargin lines :=
  mem_margins.mp (commonMargin_isLeast (mem_margins.mpr ⟨line, member, notBlank, rfl⟩)).1

/-- How many characters are taken off every line that is kept. -/
def removed (source : List String) (undented : Bool) : Nat :=
  if undented then commonMargin (window source) else 0

/-- The lines that are kept are the window without as many characters in front. -/
theorem lines_eq_map
    (source : List String)
    (undented : Bool) :
    lines source undented = (window source).map (Text.dropFront (removed source undented)) := by
  cases undented with
  | true => rfl
  | false => simp [lines, removed]

theorem removed_le
    {source : List String}
    {line : String}
    (undented : Bool)
    (member : line ∈ window source)
    (notBlank : Text.isBlank line = false) :
    removed source undented ≤ Text.margin line := by
  cases undented with
  | true => exact commonMargin_le member notBlank
  | false => exact Nat.zero_le _

/-- A line of the window that is not blank is not blank when it is kept. -/
theorem isBlank_kept
    {source : List String}
    {line : String}
    (undented : Bool)
    (member : line ∈ window source)
    (notBlank : Text.isBlank line = false) :
    Text.isBlank (Text.dropFront (removed source undented) line) = false :=
  Text.isBlank_dropFront (removed_le undented member notBlank) notBlank

theorem isBlank_head?_lines
    {source : List String}
    {undented : Bool}
    {line : String}
    (first : line ∈ (lines source undented).head?) :
    Text.isBlank line = false := by
  rw [lines_eq_map, List.head?_map] at first
  obtain ⟨original, atFront, rfl⟩ := Option.map_eq_some_iff.mp first
  exact isBlank_kept undented (List.mem_of_mem_head? atFront) (isBlank_head?_window atFront)

theorem isBlank_getLast?_lines
    {source : List String}
    {undented : Bool}
    {line : String}
    (last : line ∈ (lines source undented).getLast?) :
    Text.isBlank line = false := by
  rw [lines_eq_map, List.getLast?_map] at last
  obtain ⟨original, atEnd, rfl⟩ := Option.map_eq_some_iff.mp last
  exact isBlank_kept undented (List.mem_of_mem_getLast? atEnd) (isBlank_getLast?_window atEnd)

/-- Lines with the same window are trimmed to the same text. -/
theorem text_eq_of_window_eq
    {first second : List String}
    (undented : Bool)
    (sameWindow : window first = window second) :
    text first undented = text second undented := by
  rw [text, text, lines, lines, sameWindow]

theorem linesOf_text
    {source : List String}
    (areLines : ∀ line ∈ source, Text.IsLine line)
    (undented : Bool) :
    Text.linesOf (text source undented) = lines source undented := by
  apply Text.linesOf_joinLines
  · intro line member
    rw [lines_eq_map] at member
    obtain ⟨original, inWindow, rfl⟩ := List.mem_map.mp member
    exact Text.isLine_dropFront _ (areLines original ((window_sublist source).subset inWindow))
  · intro line first
    exact Text.ne_empty_of_isBlank (isBlank_head?_lines first)

/-- Undented lines are none, or one of them starts with a character that is no whitespace. -/
theorem exists_unindented
    {source : List String}
    (nonempty : lines source true ≠ []) :
    ∃ line ∈ lines source true, ∃ c ∈ line.toList.head?, Text.isSpace c = false := by
  have windowNonempty : window source ≠ [] := by
    intro empty
    rw [lines_eq_map, empty] at nonempty
    exact nonempty rfl
  obtain ⟨first, atFront⟩ := Option.isSome_iff_exists.mp (List.isSome_head?.mpr windowNonempty)
  obtain ⟨least, member, notBlank, sameMargin⟩ :=
    exists_margin_eq_commonMargin (List.mem_of_mem_head? atFront) (isBlank_head?_window atFront)
  obtain ⟨c, behind, notSpace⟩ := Text.exists_behind_margin notBlank
  refine ⟨Text.dropFront (Text.margin least) least, ?_, c, ?_, notSpace⟩
  · rw [lines_eq_map, sameMargin]
    exact List.mem_map_of_mem member
  · rw [Text.toList_dropFront]
    exact behind

/-- Lines that neither start nor end with a blank one are their own window. -/
theorem window_eq_self
    {lines : List String}
    (endsFull : ∀ line, line ∈ lines.head? ∨ line ∈ lines.getLast? → Text.isBlank line = false) :
    window lines = lines := by
  have keptFront : lines.dropWhile Text.isBlank = lines := by
    refine List.dropWhile_eq_self_iff.mpr fun nonempty => ?_
    have first := endsFull _ (.inl (List.head?_eq_getElem? ▸ List.getElem?_eq_getElem nonempty))
    simp [first]
  have keptEnd : lines.rdropWhile Text.isBlank = lines := by
    refine List.rdropWhile_eq_self_iff.mpr fun nonempty => ?_
    have last := endsFull _ (.inr (List.getLast?_eq_some_getLast nonempty))
    simp [last]
  rw [window_eq_rdropWhile, keptFront, keptEnd]

/-- Kept lines are their own window. -/
theorem window_lines
    (source : List String)
    (undented : Bool) :
    window (lines source undented) = lines source undented := by
  apply window_eq_self
  rintro line (first | last)
  · exact isBlank_head?_lines first
  · exact isBlank_getLast?_lines last

/-- Undented lines have no margin in common. -/
theorem commonMargin_lines (source : List String) : commonMargin (lines source true) = 0 := by
  by_cases empty : lines source true = []
  · rw [empty]
    rfl
  · obtain ⟨line, member, c, first, notSpace⟩ := exists_unindented empty
    have notBlank : Text.isBlank line = false := by
      rw [Text.isBlank, List.all_eq_false]
      exact ⟨c, List.mem_of_mem_head? first, by simp [notSpace]⟩
    have least := commonMargin_le member notBlank
    rw [Text.margin_eq_zero first notSpace] at least
    exact Nat.le_zero.mp least

/-- Trimmed lines have nothing left to trim, and can be undented once. -/
theorem lines_lines
    (source : List String)
    (undented again : Bool) :
    lines (lines source undented) again = lines source (undented || again) := by
  cases undented with
  | false =>
      have sameWindow : window (window source) = window source := window_lines source false
      rw [Bool.false_or, lines_eq_map, lines_eq_map source again]
      simp [removed, lines, sameWindow]
  | true =>
      rw [Bool.true_or, lines_eq_map, window_lines]
      cases again with
      | false => simp [removed]
      | true => simp [removed, window_lines, commonMargin_lines]

/-- The empty text has one line and no lines, but that line is blank. -/
theorem window_splitLines (text : String) :
    window (Text.splitLines text) = window (Text.linesOf text) := by
  by_cases empty : text = ""
  · rw [empty]
    rfl
  · rw [Text.linesOf, if_neg empty]

/-- The lines of a trimmed text are trimmed as the lines that it was made of. -/
theorem text_retrimmed
    {source : List String}
    (areLines : ∀ line ∈ source, Text.IsLine line)
    (undented again : Bool) :
    text (Text.splitLines (text source undented)) again = text source (undented || again) := by
  have sameWindow :
      window (Text.splitLines (text source undented)) = window (lines source undented) := by
    rw [window_splitLines, linesOf_text areLines]
  rw [text_eq_of_window_eq again sameWindow, text, lines_lines, text]

/-- The lines of a trimmed text are trimmed to themselves, and not undented any further. -/
theorem text_splitLines_text
    {source : List String}
    {undented again : Bool}
    (areLines : ∀ line ∈ source, Text.IsLine line)
    (noMore : again = true → undented = true) :
    text (Text.splitLines (text source undented)) again = text source undented := by
  rw [text_retrimmed areLines]
  cases again with
  | false => rw [Bool.or_false]
  | true => rw [noMore rfl, Bool.or_true]

end Trim

end CodeDeck
