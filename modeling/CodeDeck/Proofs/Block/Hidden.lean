import CodeDeck.Block.Parsed
import CodeDeck.Proofs.Block.Regions
import CodeDeck.Proofs.Text.Lines

namespace CodeDeck

/-!
# Hidden lines

What stands in a hidden part of a block has one way to the slide: it may open
or close a setup region, which the lines behind the hidden part are in. Two
hidden parts that leave the same behind in this respect show the same,
whatever they hold and however long they are, and one that is never closed
shows nothing of itself at all.
-/

/-- A place for hidden lines: the lines before it, its two markers, and the lines behind it. -/
structure HidingPlace where
  before : List String
  opening : String
  closing : String
  behind : List String
  opens : Marker.ofLine? opening = some .hide
  closes : Marker.ofLine? closing = some .unhide
  areLines : ∀ line ∈ before ++ opening :: closing :: behind, Text.IsLine line

namespace HidingPlace

/-- All lines with some of them hidden. -/
def filled (place : HidingPlace) (hidden : List String) : List String :=
  place.before ++ place.opening :: (hidden ++ place.closing :: place.behind)

/-- The lines up to the end of the hidden ones, which no marker closes. -/
def unclosed (place : HidingPlace) (hidden : List String) : List String :=
  place.before ++ place.opening :: hidden

/-- Whether a setup region is open at the end of hidden lines. -/
def setupBehind (place : HidingPlace) (hidden : List String) : Bool :=
  (Region.initial.after (place.unclosed hidden)).setup

end HidingPlace

/-- Lines that close a setup region for good: one of them ends it, and no later one starts one. -/
def ClosesSetup (lines : List String) : Prop :=
  ∃ (before after : List String) (line : String),
    lines = before ++ line :: after ∧
      line ≠ setupLine ∧ endsSetup line = true ∧ setupLine ∉ after

/-- Lines that show the same, whatever length is allowed, also as the text of any block. -/
def ShowSame (first second : List String) : Prop :=
  (∀ maxLength : Int,
    (Classified.ofLines maxLength first).display =
      (Classified.ofLines maxLength second).display) ∧
    ∀ (block : Block) (config : Config),
      (Block.parse { block with text := Text.joinLines first } config).displaySource =
        (Block.parse { block with text := Text.joinLines second } config).displaySource

/-- Lines that show the same by themselves show the same as a text, unless there are none. -/
theorem ShowSame.of_display
    {first second : List String}
    (firstAreLines : ∀ line ∈ first, Text.IsLine line)
    (secondAreLines : ∀ line ∈ second, Text.IsLine line)
    (firstNonempty : first ≠ [])
    (secondNonempty : second ≠ [])
    (same : ∀ maxLength : Int,
      (Classified.ofLines maxLength first).display =
        (Classified.ofLines maxLength second).display) :
    ShowSame first second := by
  refine ⟨same, fun block config => ?_⟩
  simp only [Block.parse, Block.classified, Block.lines,
    Text.splitLines_joinLines firstAreLines firstNonempty,
    Text.splitLines_joinLines secondAreLines secondNonempty, same]

/-- No setup region is open behind lines that close one for good. -/
theorem Region.setup_after_of_closesSetup
    {lines : List String}
    (region : Region)
    (unmarked : ∀ line ∈ lines, Marker.ofLine? line = none)
    (closes : ClosesSetup lines) :
    (region.after lines).setup = false := by
  obtain ⟨before, after, line, rfl, isOther, ends, startsNone⟩ := closes
  have noMarker : Marker.ofLine? line = none := unmarked line (by simp)
  rw [after_append, after_cons]
  refine setup_after_of_not_mem ?_ startsNone
  rw [step_of_none _ noMarker, enter, if_neg isOther, if_pos ends]

namespace HidingPlace

variable {hidden other : List String}

theorem isLine_of_mem_filled
    {line : String}
    (place : HidingPlace)
    (areLines : ∀ line ∈ hidden, Text.IsLine line)
    (member : line ∈ place.filled hidden) :
    Text.IsLine line := by
  simp only [filled, List.mem_append, List.mem_cons] at member
  rcases member with inBefore | rfl | inHidden | rfl | inBehind
  · exact place.areLines line (by simp [inBefore])
  · exact place.areLines place.opening (by simp)
  · exact areLines line inHidden
  · exact place.areLines place.closing (by simp)
  · exact place.areLines line (by simp [inBehind])

theorem filled_eq
    (place : HidingPlace)
    (hidden : List String) :
    place.filled hidden = place.unclosed hidden ++ place.closing :: place.behind := by
  simp [filled, unclosed]

theorem isLine_of_mem_unclosed
    {line : String}
    (place : HidingPlace)
    (areLines : ∀ line ∈ hidden, Text.IsLine line)
    (member : line ∈ place.unclosed hidden) :
    Text.IsLine line := by
  refine place.isLine_of_mem_filled areLines ?_
  rw [filled_eq]
  exact List.mem_append_left _ member

theorem setupBehind_eq
    (place : HidingPlace)
    (hidden : List String) :
    place.setupBehind hidden =
      (((Region.initial.after place.before).mark .hide).after hidden).setup := by
  rw [setupBehind, unclosed, Region.after_append, Region.after_cons,
    Region.step_of_marker _ place.opens]

/-- A hidden part that is never closed ends what is shown. -/
theorem display_unclosed
    (place : HidingPlace)
    (maxLength : Int)
    (unmarked : ∀ line ∈ hidden, Marker.ofLine? line = none) :
    (Classified.ofLines maxLength (place.unclosed hidden)).display =
      (Classified.ofLines maxLength place.before).display := by
  rw [Classified.ofLines, unclosed, Classified.ofLinesFrom_display_append,
    Classified.ofLinesFrom_display_marker _ _ _ place.opens,
    Classified.ofLinesFrom_display_of_hidden _ rfl unmarked, List.append_nil]
  rfl

/-- Of a hidden part the lines behind it see whether a setup region is open at its end. -/
theorem display_filled
    (place : HidingPlace)
    (maxLength : Int)
    (unmarked : ∀ line ∈ hidden, Marker.ofLine? line = none) :
    (Classified.ofLines maxLength (place.filled hidden)).display =
      (Classified.ofLines maxLength place.before).display ++
        (Classified.ofLinesFrom maxLength ⟨false, place.setupBehind hidden⟩
          place.behind).display := by
  rw [Classified.ofLines, filled_eq, Classified.ofLinesFrom_display_append,
    Classified.ofLinesFrom_display_marker _ _ _ place.closes]
  -- The closing marker ends what is hidden and leaves the setup region as the hidden lines left it.
  exact congrArg (· ++ _) (place.display_unclosed maxLength unmarked)

/--
Hidden lines without markers show on the slide in no other way than by whether a setup region
is open at their end: two hidden parts for which this is the same show the same, and both leave
none open when they close it for good. A hidden part that is never closed shows in no way.
-/
theorem showSame_of_hidden
    (place : HidingPlace)
    (unmarked : ∀ line ∈ hidden ++ other, Marker.ofLine? line = none)
    (areLines : ∀ line ∈ hidden ++ other, Text.IsLine line) :
    (place.setupBehind hidden = place.setupBehind other →
      ShowSame (place.filled hidden) (place.filled other)) ∧
      (ClosesSetup hidden → ClosesSetup other →
        place.setupBehind hidden = place.setupBehind other) ∧
      ShowSame (place.unclosed hidden) (place.unclosed other) := by
  obtain ⟨hiddenUnmarked, otherUnmarked⟩ := List.forall_mem_append.mp unmarked
  obtain ⟨hiddenAreLines, otherAreLines⟩ := List.forall_mem_append.mp areLines
  refine ⟨fun sameSetup => ?_, fun hiddenCloses otherCloses => ?_, ?_⟩
  · refine ShowSame.of_display
      (fun _ => place.isLine_of_mem_filled hiddenAreLines)
      (fun _ => place.isLine_of_mem_filled otherAreLines)
      (by simp [filled]) (by simp [filled]) fun maxLength => ?_
    rw [place.display_filled maxLength hiddenUnmarked, sameSetup,
      ← place.display_filled maxLength otherUnmarked]
  · rw [setupBehind_eq, setupBehind_eq,
      Region.setup_after_of_closesSetup _ hiddenUnmarked hiddenCloses,
      Region.setup_after_of_closesSetup _ otherUnmarked otherCloses]
  · refine ShowSame.of_display
      (fun _ => place.isLine_of_mem_unclosed hiddenAreLines)
      (fun _ => place.isLine_of_mem_unclosed otherAreLines)
      (by simp [unclosed]) (by simp [unclosed]) fun maxLength => ?_
    rw [place.display_unclosed maxLength hiddenUnmarked,
      place.display_unclosed maxLength otherUnmarked]

/-- A setup region that is opened and closed out of sight, against nothing hidden at all. -/
theorem showSame_of_hidden_setup :
    let place : HidingPlace := {
      before := ["int a;"]
      opening := "  /// hide"
      closing := "///unhide\t"
      behind := [" int b;", "// setup", " int c;"]
      opens := by decide
      closes := by decide
      areLines := by decide }
    let hidden := ["// setup", " int secret;", "int end;"]
    (∀ line ∈ hidden ++ [], Marker.ofLine? line = none) ∧
      (∀ line ∈ hidden ++ [], Text.IsLine line) ∧
      place.setupBehind hidden = place.setupBehind [] ∧
      ShowSame (place.filled hidden) (place.filled []) ∧
      ShowSame (place.unclosed hidden) (place.unclosed []) := by
  intro place hidden
  have unmarked : ∀ line ∈ hidden ++ [], Marker.ofLine? line = none := by decide
  have areLines : ∀ line ∈ hidden ++ [], Text.IsLine line := by decide
  have sameSetup : place.setupBehind hidden = place.setupBehind [] := by decide
  obtain ⟨filled, _, unclosed⟩ := place.showSame_of_hidden unmarked areLines
  exact ⟨unmarked, areLines, sameSetup, filled sameSetup, unclosed⟩

/-- A setup region that is still open behind hidden lines is seen by the lines behind them. -/
example :
    (Classified.ofLines 50 ["///hide", "// setup", "///unhide", " int b;"]).display = [] ∧
      (Classified.ofLines 50 ["///hide", "///unhide", " int b;"]).display = [" int b;"] := by
  decide

end HidingPlace

end CodeDeck
