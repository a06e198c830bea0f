import CodeDeck.Block.Parsed

namespace CodeDeck

open List

/-!
# What becomes of each line

The full source is all lines but the markers, and the reports are about these
lines one by one, whatever regions they lie in. The shown source leaves out
some of them, and which ones depends on the regions alone. So markers can be
put in and taken out without a trace in the full source and the reports.
-/

namespace Classified

/-- The lines that are no markers. -/
def unmarked (lines : List String) : List String :=
  lines.filter fun line => (Marker.ofLine? line).isNone

theorem unmarked_cons_of_marker
    {line : String}
    {marker : Marker}
    (lines : List String)
    (found : Marker.ofLine? line = some marker) :
    unmarked (line :: lines) = unmarked lines := by
  simp [unmarked, found]

theorem unmarked_cons_of_none
    {line : String}
    (lines : List String)
    (none : Marker.ofLine? line = none) :
    unmarked (line :: lines) = line :: unmarked lines := by
  simp [unmarked, none]

@[simp] theorem unmarked_append
    (first second : List String) :
    unmarked (first ++ second) = unmarked first ++ unmarked second :=
  List.filter_append ..

theorem unmarked_sublist (lines : List String) : unmarked lines <+ lines :=
  List.filter_sublist

/-- A marker changes the regions and leaves no other trace. -/
theorem ofLinesFrom_cons_of_marker
    {line : String}
    {marker : Marker}
    (maxLength : Int)
    (region : Region)
    (lines : List String)
    (found : Marker.ofLine? line = some marker) :
    ofLinesFrom maxLength region (line :: lines) =
      ofLinesFrom maxLength (region.mark marker) lines := by
  rw [ofLinesFrom, found]

/-- Any other line goes to the full source and to the reports, and is shown if its regions are. -/
theorem ofLinesFrom_cons_of_none
    {line : String}
    (maxLength : Int)
    (region : Region)
    (lines : List String)
    (none : Marker.ofLine? line = none) :
    ofLinesFrom maxLength region (line :: lines) =
      let rest := ofLinesFrom maxLength (region.enter line) lines
      { full := line :: rest.full
        display := if (region.enter line).isShown then line :: rest.display else rest.display
        reports := reportLine maxLength line ++ rest.reports } := by
  rw [ofLinesFrom, none]

/-- The full source is all lines but the markers, from whatever regions on. -/
theorem ofLinesFrom_full
    (maxLength : Int)
    (region : Region)
    (lines : List String) :
    (ofLinesFrom maxLength region lines).full = unmarked lines := by
  induction lines generalizing region with
  | nil => rfl
  | cons line lines inductionHypothesis =>
      cases found : Marker.ofLine? line with
      | none =>
          rw [ofLinesFrom_cons_of_none _ _ _ found, unmarked_cons_of_none _ found]
          simp [inductionHypothesis]
      | some marker =>
          rw [ofLinesFrom_cons_of_marker _ _ _ found, unmarked_cons_of_marker _ found]
          exact inductionHypothesis (region.mark marker)

/-- Each line that is no marker is reported on by itself, from whatever regions on. -/
theorem ofLinesFrom_reports
    (maxLength : Int)
    (region : Region)
    (lines : List String) :
    (ofLinesFrom maxLength region lines).reports =
      (unmarked lines).flatMap (reportLine maxLength) := by
  induction lines generalizing region with
  | nil => rfl
  | cons line lines inductionHypothesis =>
      cases found : Marker.ofLine? line with
      | none =>
          rw [ofLinesFrom_cons_of_none _ _ _ found, unmarked_cons_of_none _ found]
          simp [inductionHypothesis]
      | some marker =>
          rw [ofLinesFrom_cons_of_marker _ _ _ found, unmarked_cons_of_marker _ found]
          exact inductionHypothesis (region.mark marker)

/-- Which lines are shown does not depend on how long a line may be. -/
theorem ofLinesFrom_display_eq
    (first second : Int)
    (region : Region)
    (lines : List String) :
    (ofLinesFrom first region lines).display = (ofLinesFrom second region lines).display := by
  induction lines generalizing region with
  | nil => rfl
  | cons line lines inductionHypothesis =>
      cases found : Marker.ofLine? line with
      | none =>
          simp only [ofLinesFrom_cons_of_none _ _ _ found,
            inductionHypothesis (region.enter line)]
      | some marker =>
          simp only [ofLinesFrom_cons_of_marker _ _ _ found]
          exact inductionHypothesis (region.mark marker)

/-- The shown lines are lines of the full source, in their order. -/
theorem ofLinesFrom_display_sublist
    (maxLength : Int)
    (region : Region)
    (lines : List String) :
    (ofLinesFrom maxLength region lines).display <+ (ofLinesFrom maxLength region lines).full := by
  induction lines generalizing region with
  | nil => exact .slnil
  | cons line lines inductionHypothesis =>
      cases found : Marker.ofLine? line with
      | some marker =>
          rw [ofLinesFrom_cons_of_marker _ _ _ found]
          exact inductionHypothesis (region.mark marker)
      | none =>
          rw [ofLinesFrom_cons_of_none _ _ _ found]
          simp only
          split
          · exact (inductionHypothesis (region.enter line)).cons_cons line
          · exact (inductionHypothesis (region.enter line)).cons line

/-- The reports about lines are those about the lines that are too long. -/
theorem flatMap_reportLine
    (maxLength : Int)
    (lines : List String) :
    lines.flatMap (reportLine maxLength) =
      (lines.filter fun line => maxLength < line.length).map Report.longLine := by
  induction lines with
  | nil => rfl
  | cons line lines inductionHypothesis =>
      by_cases long : maxLength < line.length
      · simp [reportLine, long, inductionHypothesis]
      · simp [reportLine, long, inductionHypothesis]

end Classified

namespace Block

/-- A block is reported on line by line, wherever its markers stand. -/
theorem reports_eq
    (block : Block)
    (config : Config) :
    block.reports config =
      ((Classified.unmarked block.lines).filter fun line =>
        config.maxLineLength < line.length).map Report.longLine := by
  rw [reports, classified, Classified.ofLines, Classified.ofLinesFrom_reports,
    Classified.flatMap_reportLine]

end Block

end CodeDeck
