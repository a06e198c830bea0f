import CodeDeck.Proofs.Block.Regions
import Mathlib.Data.List.FinRange

namespace CodeDeck

/-!
# Which lines are shown, position by position

The walk over the lines of a block carries two regions along. What they are at
a line can be said without a walk, by the lines at the positions before it: the
last marker decides whether the line is hidden, and a line that starts a setup
region counts as long as no line behind it has ended the region. So the shown
source is the lines at the positions for which neither holds:
`ofLines_by_position`.
-/

/-- Something starts before a position and is kept up at all positions from there on. -/
def SinceBefore (starts keeps : Nat → Prop) (position : Nat) : Prop :=
  ∃ start < position, starts start ∧ ∀ later < position, start < later → keeps later

namespace SinceBefore

variable {starts keeps : Nat → Prop} {position : Nat}

@[simp] theorem not_zero : ¬ SinceBefore starts keeps 0 := by
  rintro ⟨start, before, -⟩
  exact Nat.not_lt_zero start before

/-- One position further something starts there, or has started before and is kept up there. -/
theorem succ_iff :
    SinceBefore starts keeps (position + 1) ↔
      starts position ∨ keeps position ∧ SinceBefore starts keeps position := by
  constructor
  · rintro ⟨start, before, started, kept⟩
    rcases Nat.lt_succ_iff_lt_or_eq.mp before with earlier | rfl
    · exact .inr ⟨kept position (Nat.lt_succ_self position) earlier, start, earlier, started,
        fun later within => kept later (Nat.lt_succ_of_lt within)⟩
    · exact .inl started
  · rintro (started | ⟨kept, start, before, started, others⟩)
    · exact ⟨position, Nat.lt_succ_self position, started,
        fun later within behind => absurd behind (Nat.not_lt.mpr (Nat.le_of_lt_succ within))⟩
    · refine ⟨start, Nat.lt_succ_of_lt before, started, fun later within behind => ?_⟩
      rcases Nat.lt_succ_iff_lt_or_eq.mp within with earlier | rfl
      · exact others later earlier behind
      · exact kept

end SinceBefore

/-- The marker at a position, if the line there is one. -/
def markerAt? (lines : List String) (position : Nat) : Option Marker :=
  lines[position]?.bind Marker.ofLine?

/-- The line at a position, if it is no marker. -/
def unmarkedAt? (lines : List String) (position : Nat) : Option String :=
  lines[position]?.filter fun line => (Marker.ofLine? line).isNone

/-- A marker is the last one before a position. -/
def IsLastMarker (lines : List String) (position : Nat) (marker : Marker) : Prop :=
  ∃ start < position, markerAt? lines start = some marker ∧
    ∀ later < position, start < later → markerAt? lines later = none

/-- A line leaves a setup region open: it is empty, is indented by a space or starts one itself. -/
def KeepsSetup (line : String) : Prop :=
  line = "" ∨ line.toList.head? = some ' ' ∨ line = setupLine

/-- A setup region has started at a position or before it, and no line since then has ended it. -/
def InSetup (lines : List String) (position : Nat) : Prop :=
  ∃ start ≤ position, unmarkedAt? lines start = some setupLine ∧
    ∀ later ≤ position, start < later → ∀ line ∈ unmarkedAt? lines later, KeepsSetup line

/-- A line is no marker, the last marker before it does not hide it, and no setup region is open. -/
structure ShownAt (lines : List String) (position : Nat) : Prop where
  unmarked : (unmarkedAt? lines position).isSome
  notHidden : ∀ marker, IsLastMarker lines position marker → marker = .unhide
  notSetup : ¬ InSetup lines position

instance (lines : List String) (position : Nat) (marker : Marker) :
    Decidable (IsLastMarker lines position marker) :=
  inferInstanceAs (Decidable (∃ start < position, _ ∧ _))

instance (line : String) : Decidable (KeepsSetup line) :=
  inferInstanceAs (Decidable (_ ∨ _ ∨ _))

instance (lines : List String) (position : Nat) : Decidable (InSetup lines position) :=
  inferInstanceAs (Decidable (∃ start ≤ position, _ ∧ _))

theorem shownAt_iff {lines : List String} {position : Nat} :
    ShownAt lines position ↔
      (unmarkedAt? lines position).isSome ∧
        ¬ IsLastMarker lines position .hide ∧
        ¬ InSetup lines position := by
  constructor
  · rintro ⟨unmarked, notHidden, notSetup⟩
    exact ⟨unmarked, fun hides => Marker.noConfusion (notHidden .hide hides), notSetup⟩
  · rintro ⟨unmarked, notHidden, notSetup⟩
    refine ⟨unmarked, fun marker last => ?_, notSetup⟩
    cases marker with
    | hide => exact absurd last notHidden
    | unhide => rfl

instance (lines : List String) (position : Nat) : Decidable (ShownAt lines position) :=
  decidable_of_iff' _ shownAt_iff

theorem ofLine?_setupLine : Marker.ofLine? setupLine = none := by
  decide

theorem keepsSetup_iff {line : String} :
    KeepsSetup line ↔ line = setupLine ∨ endsSetup line = false := by
  have ends : endsSetup line = false ↔ line = "" ∨ line.toList.head? = some ' ' := by
    rw [← String.toList_eq_nil_iff, endsSetup]
    cases line.toList with
    | nil => simp
    | cons c rest => simp
  rw [KeepsSetup, ends, ← or_assoc, or_comm]

namespace Region

/-- A line is hidden by a marker or stays so, unless it is a marker itself. -/
theorem hidden_step_iff (region : Region) (line : String) :
    (region.step line).hidden = true ↔
      Marker.ofLine? line = some .hide ∨
        Marker.ofLine? line = none ∧ region.hidden = true := by
  cases found : Marker.ofLine? line with
  | none => simp [step_of_none region found]
  | some marker => simp [step_of_marker region found, mark]

/-- A setup region is open behind a line that starts one, and stays so behind one that keeps it. -/
theorem setup_step_iff (region : Region) (line : String) :
    (region.step line).setup = true ↔
      line = setupLine ∨
        (Marker.ofLine? line = none → KeepsSetup line) ∧ region.setup = true := by
  cases found : Marker.ofLine? line with
  | some marker =>
      have isOther : line ≠ setupLine := by
        rintro rfl
        rw [ofLine?_setupLine] at found
        contradiction
      simp [step_of_marker region found, isOther]
  | none =>
      rw [step_of_none region found, enter, keepsSetup_iff]
      by_cases starts : line = setupLine
      · simp [starts]
      · cases endsSetup line with
        | true => simp [starts]
        | false => simp [starts]

variable {lines : List String}

/-- The hidden region is open behind some lines when the last marker among them hides. -/
theorem hidden_after_take_iff (position : Nat) :
    (initial.after (lines.take position)).hidden = true ↔ IsLastMarker lines position .hide := by
  change _ ↔ SinceBefore _ _ position
  induction position with
  | zero => simp [initial]
  | succ position inductionHypothesis =>
      rw [SinceBefore.succ_iff, ← inductionHypothesis, List.take_add_one, after_append, markerAt?]
      cases lines[position]? with
      | none => simp
      | some line => simp [hidden_step_iff]

/-- A setup region is open behind some lines when one has started among them and was kept up. -/
theorem setup_after_take_iff (position : Nat) :
    (initial.after (lines.take position)).setup = true ↔
      SinceBefore
        (fun start => unmarkedAt? lines start = some setupLine)
        (fun later => ∀ line ∈ unmarkedAt? lines later, KeepsSetup line)
        position := by
  induction position with
  | zero => simp [initial]
  | succ position inductionHypothesis =>
      rw [SinceBefore.succ_iff, ← inductionHypothesis, List.take_add_one, after_append, unmarkedAt?]
      cases lines[position]? with
      | none => simp
      | some line => simp [setup_step_iff, ofLine?_setupLine]

/-- A setup region reaches a position when it is open behind the line there. -/
theorem inSetup_iff (position : Nat) :
    InSetup lines position ↔ (initial.after (lines.take (position + 1))).setup = true := by
  rw [setup_after_take_iff]
  simp only [InSetup, SinceBefore, Nat.lt_succ_iff]

/-- A line is shown at its position when it is no marker and no open region reaches it. -/
theorem shownAt_iff_isShown
    {position : Nat}
    {line : String}
    (stands : lines[position]? = some line) :
    ShownAt lines position ↔
      Marker.ofLine? line = none ∧
        (initial.after (lines.take (position + 1))).isShown = true := by
  rw [shownAt_iff, inSetup_iff, ← hidden_after_take_iff, unmarkedAt?, stands]
  cases found : Marker.ofLine? line with
  | some marker => simp [found]
  | none =>
      -- The line is no marker, so it is hidden when the lines before it hide it.
      have sameHidden :
          (initial.after (lines.take (position + 1))).hidden =
            (initial.after (lines.take position)).hidden := by
        rw [List.take_add_one, stands, after_append]
        simp [step_of_none _ found]
      simp [found, isShown, sameHidden]

end Region

namespace Classified

/-- The shown lines are those that are no markers and in no open region. -/
theorem ofLinesFrom_display_by_position
    (maxLength : Int)
    (region : Region)
    (lines : List String) :
    (ofLinesFrom maxLength region lines).display =
      ((List.finRange lines.length).filter fun position : Fin lines.length =>
        (Marker.ofLine? (lines.get position)).isNone &&
          (region.after (lines.take (position + 1))).isShown).map lines.get := by
  induction lines generalizing region with
  | nil => rfl
  | cons line lines inductionHypothesis =>
      have positions : List.finRange (line :: lines).length =
          0 :: (List.finRange lines.length).map Fin.succ :=
        List.finRange_succ
      rw [positions, ofLinesFrom_display_cons, inductionHypothesis, List.filter_cons,
        List.filter_map, ofLinesFrom]
      cases found : Marker.ofLine? line with
      | some marker => simp [found, ofLinesFrom, empty, Function.comp_def]
      | none =>
          have behind := Region.step_of_none region found
          cases shown : (region.enter line).isShown with
          | true => simp [found, behind, shown, ofLinesFrom, empty, Function.comp_def]
          | false => simp [found, behind, shown, ofLinesFrom, empty, Function.comp_def]

/--
The lines of a block, said position by position and for any limit. The full source is the lines
that are no markers. The shown source is the lines at the positions that are shown: those that
are no markers, whose last marker before them does not hide them, and that no setup region
reaches. The reports are about the lines that are no markers and too long, wherever they stand.
-/
theorem ofLines_by_position
    (maxLength : Int)
    (lines : List String) :
    let classified := ofLines maxLength lines
    classified.full = unmarked lines ∧
      classified.display =
        ((List.finRange lines.length).filter fun position : Fin lines.length =>
          ShownAt lines position).map lines.get ∧
      classified.reports.map (fun report => (report.message, report.details)) =
        ((unmarked lines).filter fun line => maxLength < line.length).map fun line =>
          ("Line too long: \"" ++ line ++ "\"", []) := by
  intro classified
  refine ⟨ofLinesFrom_full _ _ _, ?_, ?_⟩
  · rw [show classified.display = _ from ofLinesFrom_display_by_position _ _ _]
    congr 1
    refine List.filter_congr fun position _ => ?_
    have stands : lines[(position : Nat)]? = some (lines.get position) := by simp
    rw [Bool.eq_iff_iff, decide_eq_true_iff, Region.shownAt_iff_isShown stands]
    simp
  · rw [show classified.reports = _ from ofLinesFrom_reports _ _ _, flatMap_reportLine,
      List.map_map]
    rfl

/-- A marker in a setup region, and a line that starts one while lines are hidden. -/
example :
    let lines := ["// setup", "///unhide", " a", "b", "///hide", "// setup", "///unhide", " c", "d"]
    (List.range lines.length).filter (ShownAt lines ·) = [3, 8] := by
  decide

end Classified

end CodeDeck
