import CodeDeck.Proofs.Block.Classified
import Mathlib.Data.List.TakeWhile

namespace CodeDeck

/-!
# Regions along the lines of a block

A walk over the lines of a block carries nothing on but the regions. So what
is shown of a text is what is shown of its first lines, and then what is shown
of the others from the regions behind the first ones. Between two markers the
hidden region stays as it is, and a blank line can do no more than close a
setup region.
-/

namespace Marker

/-- A blank line is no marker. -/
theorem ofLine?_of_isBlank
    {line : String}
    (blank : Text.isBlank line = true) :
    ofLine? line = none := by
  have allSpaces : line.toList.dropWhile Text.isSpace = [] :=
    List.dropWhile_eq_nil_iff.mpr (List.all_eq_true.mp blank)
  rw [ofLine?, Text.stripSpaces, allSpaces]
  rfl

end Marker

theorem ne_setupLine_of_isBlank
    {line : String}
    (blank : Text.isBlank line = true) :
    line ≠ setupLine := by
  rintro rfl
  contradiction

namespace Region

/-- The regions behind a line. -/
def step (region : Region) (line : String) : Region :=
  match Marker.ofLine? line with
  | some marker => region.mark marker
  | none => region.enter line

/-- The regions behind some lines. -/
def after (region : Region) (lines : List String) : Region :=
  lines.foldl step region

@[simp] theorem after_nil (region : Region) : region.after [] = region :=
  rfl

@[simp] theorem after_cons
    (region : Region)
    (line : String)
    (lines : List String) :
    region.after (line :: lines) = (region.step line).after lines :=
  rfl

@[simp] theorem after_append
    (region : Region)
    (first second : List String) :
    region.after (first ++ second) = (region.after first).after second :=
  List.foldl_append ..

theorem step_of_marker
    {line : String}
    {marker : Marker}
    (region : Region)
    (found : Marker.ofLine? line = some marker) :
    region.step line = region.mark marker := by
  rw [step, found]

theorem step_of_none
    {line : String}
    (region : Region)
    (none : Marker.ofLine? line = none) :
    region.step line = region.enter line := by
  rw [step, none]

/-- All regions occur behind some lines. -/
theorem exists_after_initial (region : Region) :
    ∃ lines : List String, initial.after lines = region := by
  obtain ⟨hidden, setup⟩ := region
  cases hidden <;> cases setup
  · exact ⟨[], rfl⟩
  · exact ⟨["// setup"], by decide⟩
  · exact ⟨["///hide"], by decide⟩
  · exact ⟨["// setup", "///hide"], by decide⟩

/-- Only a marker hides lines or ends that. -/
@[simp] theorem hidden_enter
    (region : Region)
    (line : String) :
    (region.enter line).hidden = region.hidden := by
  unfold enter
  split
  · rfl
  · split <;> rfl

/-- A marker neither opens nor closes a setup region. -/
@[simp] theorem setup_mark
    (region : Region)
    (marker : Marker) :
    (region.mark marker).setup = region.setup :=
  rfl

/-- Only the line that starts a setup region opens one. -/
theorem setup_after_of_not_mem
    {region : Region}
    {lines : List String}
    (closed : region.setup = false)
    (startsNone : setupLine ∉ lines) :
    (region.after lines).setup = false := by
  induction lines generalizing region with
  | nil => exact closed
  | cons line lines inductionHypothesis =>
      rw [List.mem_cons, not_or] at startsNone
      obtain ⟨isOther, others⟩ := startsNone
      refine inductionHypothesis ?_ others
      cases found : Marker.ofLine? line with
      | some marker => rw [step_of_marker region found, setup_mark, closed]
      | none =>
          rw [step_of_none region found, enter, if_neg (Ne.symm isOther)]
          split
          · rfl
          · exact closed

/-- A blank line closes a setup region or does nothing. -/
theorem step_of_isBlank
    {line : String}
    (region : Region)
    (blank : Text.isBlank line = true) :
    region.step line =
      if endsSetup line then { region with setup := false } else region := by
  rw [step_of_none region (Marker.ofLine?_of_isBlank blank), enter,
    if_neg (ne_setupLine_of_isBlank blank)]

/-- A line closes a setup region that is open. -/
def ClosedBy (region : Region) (line : String) : Prop :=
  region.setup = true ∧ endsSetup line = true

instance (region : Region) (line : String) : Decidable (region.ClosedBy line) :=
  inferInstanceAs (Decidable (region.setup = true ∧ endsSetup line = true))

/-- Blank lines that close no setup region leave the regions alone. -/
theorem step_eq_self
    {region : Region}
    {line : String}
    (blank : Text.isBlank line = true)
    (closesNothing : ¬ region.ClosedBy line) :
    region.step line = region := by
  rw [step_of_isBlank region blank]
  split
  · rename_i ends
    have noSetup : region.setup = false := by
      simpa [ClosedBy, ends] using closesNothing
    rw [← noSetup]
  · rfl

/-- Where no setup region is open, any blank lines leave the regions alone. -/
theorem after_eq_self
    {region : Region}
    {lines : List String}
    (noSetup : region.setup = false)
    (blank : ∀ line ∈ lines, Text.isBlank line = true) :
    region.after lines = region := by
  induction lines with
  | nil => rfl
  | cons line lines inductionHypothesis =>
      obtain ⟨lineBlank, others⟩ := List.forall_mem_cons.mp blank
      have stays : region.step line = region :=
        step_eq_self lineBlank fun closed => by simp [ClosedBy, noSetup] at closed
      rw [after_cons, stays, inductionHypothesis others]

end Region

namespace Classified

/-- What is shown of the first lines stands before what is shown behind them. -/
theorem ofLinesFrom_display_append
    (maxLength : Int)
    (region : Region)
    (first second : List String) :
    (ofLinesFrom maxLength region (first ++ second)).display =
      (ofLinesFrom maxLength region first).display ++
        (ofLinesFrom maxLength (region.after first) second).display := by
  induction first generalizing region with
  | nil => rfl
  | cons line first inductionHypothesis =>
      cases found : Marker.ofLine? line with
      | some marker =>
          simp only [List.cons_append, Region.after_cons,
            ofLinesFrom_cons_of_marker _ _ _ found, Region.step_of_marker _ found,
            inductionHypothesis]
      | none =>
          simp only [List.cons_append, Region.after_cons,
            ofLinesFrom_cons_of_none _ _ _ found, Region.step_of_none _ found,
            inductionHypothesis]
          split <;> rfl

theorem ofLinesFrom_display_cons
    (maxLength : Int)
    (region : Region)
    (line : String)
    (lines : List String) :
    (ofLinesFrom maxLength region (line :: lines)).display =
      (ofLinesFrom maxLength region [line]).display ++
        (ofLinesFrom maxLength (region.step line) lines).display :=
  ofLinesFrom_display_append maxLength region [line] lines

theorem mem_of_mem_display
    {maxLength : Int}
    {region : Region}
    {lines : List String}
    {line : String}
    (member : line ∈ (ofLinesFrom maxLength region lines).display) :
    line ∈ lines := by
  have inFull := (ofLinesFrom_display_sublist maxLength region lines).subset member
  rw [ofLinesFrom_full] at inFull
  exact (unmarked_sublist lines).subset inFull

/-- Behind a marker lines are shown from other regions on. -/
theorem ofLinesFrom_display_marker
    {line : String}
    {marker : Marker}
    (maxLength : Int)
    (region : Region)
    (lines : List String)
    (found : Marker.ofLine? line = some marker) :
    (ofLinesFrom maxLength region (line :: lines)).display =
      (ofLinesFrom maxLength (region.mark marker) lines).display := by
  rw [ofLinesFrom_cons_of_marker _ _ _ found]

/-- As long as no marker ends it, nothing in a hidden region is shown. -/
theorem ofLinesFrom_display_of_hidden
    {region : Region}
    {lines : List String}
    (maxLength : Int)
    (hidden : region.hidden = true)
    (unmarked : ∀ line ∈ lines, Marker.ofLine? line = none) :
    (ofLinesFrom maxLength region lines).display = [] := by
  induction lines generalizing region with
  | nil => rfl
  | cons line lines inductionHypothesis =>
      obtain ⟨noMarker, others⟩ := List.forall_mem_cons.mp unmarked
      have stillHidden : (region.enter line).hidden = true := by
        rw [Region.hidden_enter, hidden]
      rw [ofLinesFrom_cons_of_none _ _ _ noMarker]
      simp [Region.isShown, hidden, inductionHypothesis stillHidden others]

end Classified

end CodeDeck
