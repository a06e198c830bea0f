import CodeDeck.Proofs.Block.Excerpt
import CodeDeck.Proofs.Block.Independence
import CodeDeck.Proofs.Block.Regions
import CodeDeck.Proofs.Text.Stripped

namespace CodeDeck

/-!
# Parsing what has been parsed

The sources of a block hold no markers: none is left in them, and none comes
about when lines are undented, since a marker may be indented anyway. So a
full source is parsed to itself. A shown source is parsed to itself as well,
unless undenting has moved a line to the left that then starts a setup region.
-/

namespace Marker

/-- A line with less whitespace in front is the same marker, or none as before. -/
theorem ofLine?_dropFront
    {line : String}
    {count : Nat}
    (within : count ≤ Text.margin line) :
    ofLine? (Text.dropFront count line) = ofLine? line := by
  have sameChars :
      Text.stripSpaces (line.toList.drop count) = Text.stripSpaces line.toList := by
    conv_rhs => rw [← List.take_append_drop count line.toList]
    exact (Text.stripSpaces_append _ fun _ => Text.isSpace_of_mem_take within).symm
  rw [ofLine?, ofLine?, Text.toList_dropFront, sameChars]

end Marker

namespace Trim

/-- A kept line is the marker that it was before it was undented, or none as before. -/
theorem ofLine?_kept
    {source : List String}
    {line : String}
    (undented : Bool)
    (inWindow : line ∈ window source) :
    Marker.ofLine? (Text.dropFront (removed source undented) line) = Marker.ofLine? line := by
  cases blank : Text.isBlank line with
  | true =>
      rw [Marker.ofLine?_of_isBlank (Text.isBlank_dropFront_of_isBlank _ blank),
        Marker.ofLine?_of_isBlank blank]
  | false => exact Marker.ofLine?_dropFront (removed_le undented inWindow blank)

/-- Neither trimming nor undenting makes a marker of a line. -/
theorem ofLine?_of_mem_lines
    {source : List String}
    {undented : Bool}
    {line : String}
    (unmarked : ∀ line ∈ source, Marker.ofLine? line = none)
    (member : line ∈ lines source undented) :
    Marker.ofLine? line = none := by
  rw [lines_eq_map] at member
  obtain ⟨original, inWindow, rfl⟩ := List.mem_map.mp member
  rw [ofLine?_kept undented inWindow]
  exact unmarked original ((window_sublist source).subset inWindow)

/-- The lines of a trimmed text are the trimmed lines, or one that is empty. -/
theorem mem_lines_of_mem_splitLines
    {source : List String}
    {undented : Bool}
    {line : String}
    (areLines : ∀ line ∈ source, Text.IsLine line)
    (member : line ∈ Text.splitLines (text source undented)) :
    line = "" ∨ line ∈ lines source undented := by
  by_cases empty : text source undented = ""
  · rw [empty] at member
    exact .inl (List.mem_singleton.mp member)
  · rw [← linesOf_text areLines, Text.linesOf, if_neg empty]
    exact .inr member

/-- No line of a trimmed text is a marker if none was before. -/
theorem ofLine?_of_mem_splitLines
    {source : List String}
    {undented : Bool}
    {line : String}
    (areLines : ∀ line ∈ source, Text.IsLine line)
    (unmarked : ∀ line ∈ source, Marker.ofLine? line = none)
    (member : line ∈ Text.splitLines (text source undented)) :
    Marker.ofLine? line = none := by
  rcases mem_lines_of_mem_splitLines areLines member with rfl | trimmed
  · rfl
  · exact ofLine?_of_mem_lines unmarked trimmed

end Trim

namespace Classified

theorem unmarked_eq_self
    {lines : List String}
    (noMarkers : ∀ line ∈ lines, Marker.ofLine? line = none) :
    unmarked lines = lines := by
  refine List.filter_eq_self.mpr fun line member => ?_
  simp [noMarkers line member]

theorem ofLine?_of_mem_unmarked
    {lines : List String}
    {line : String}
    (member : line ∈ unmarked lines) :
    Marker.ofLine? line = none := by
  simpa using (List.mem_filter.mp member).2

/-- A line that starts a setup region is never shown. -/
theorem setupLine_not_mem_display
    (maxLength : Int)
    (region : Region)
    (lines : List String) :
    setupLine ∉ (ofLinesFrom maxLength region lines).display := by
  induction lines generalizing region with
  | nil => exact List.not_mem_nil
  | cons line lines inductionHypothesis =>
      cases found : Marker.ofLine? line with
      | some marker =>
          rw [ofLinesFrom_cons_of_marker _ _ _ found]
          exact inductionHypothesis (region.mark marker)
      | none =>
          rw [ofLinesFrom_cons_of_none _ _ _ found]
          simp only
          split
          · rename_i shown
            -- The line itself would have opened the region that it is shown in.
            have isOther : setupLine ≠ line := by
              rintro rfl
              simp [Region.enter, Region.isShown] at shown
            exact List.not_mem_cons_of_ne_of_not_mem isOther
              (inductionHypothesis (region.enter line))
          · exact inductionHypothesis (region.enter line)

/-- Without markers and setup regions all lines are shown. -/
theorem display_eq_self
    {lines : List String}
    (maxLength : Int)
    (noMarkers : ∀ line ∈ lines, Marker.ofLine? line = none)
    (startsNone : setupLine ∉ lines) :
    (ofLines maxLength lines).display = lines := by
  rw [ofLines]
  induction lines with
  | nil => rfl
  | cons line lines inductionHypothesis =>
      obtain ⟨noMarker, others⟩ := List.forall_mem_cons.mp noMarkers
      rw [List.mem_cons, not_or] at startsNone
      have stays : Region.initial.enter line = Region.initial := by
        rw [Region.enter, if_neg (Ne.symm startsNone.1)]
        split <;> rfl
      rw [ofLinesFrom_cons_of_none _ _ _ noMarker, stays]
      exact congrArg (line :: ·) (inductionHypothesis others startsNone.2)

end Classified

namespace Block

variable {text : String}

/-- A text without markers is its own full source, but for blank lines at its ends. -/
theorem parse_source_of_unmarked
    (block : Block)
    (config : Config)
    (noMarkers : ∀ line ∈ Text.splitLines text, Marker.ofLine? line = none) :
    (parse { block with text } config).source = Trim.text (Text.splitLines text) false := by
  rw [parse_source, lines, Classified.unmarked_eq_self noMarkers]

/-- A text without markers and setup regions is shown whole. -/
theorem parse_displaySource_of_unmarked
    (block : Block)
    (config : Config)
    (noMarkers : ∀ line ∈ Text.splitLines text, Marker.ofLine? line = none)
    (startsNone : setupLine ∉ Text.splitLines text) :
    (parse { block with text } config).displaySource =
      Trim.text (Text.splitLines text) config.undent := by
  simp only [parse, classified, lines]
  rw [Classified.display_eq_self _ noMarkers startsNone]

variable {block : Block} {config : Config} {line : String}

theorem ofLine?_of_mem_full
    (member : line ∈ (block.classified config).full) :
    Marker.ofLine? line = none := by
  rw [classified, Classified.ofLines, Classified.ofLinesFrom_full] at member
  exact Classified.ofLine?_of_mem_unmarked member

/-- The full source holds no marker. -/
theorem ofLine?_of_mem_source
    (member : line ∈ Text.splitLines (block.parse config).source) :
    Marker.ofLine? line = none :=
  Trim.ofLine?_of_mem_splitLines (fun _ => isLine_of_mem_full) (fun _ => ofLine?_of_mem_full) member

/-- The shown source holds no marker, even if it is undented. -/
theorem ofLine?_of_mem_displaySource
    (member : line ∈ Text.splitLines (block.parse config).displaySource) :
    Marker.ofLine? line = none :=
  Trim.ofLine?_of_mem_splitLines
    (fun _ => isLine_of_mem_display)
    (fun _ shown => ofLine?_of_mem_full ((display_sublist block config).subset shown))
    member

/-- Nothing that is shown as it stands starts a setup region. -/
theorem setupLine_not_mem_displaySource
    (block : Block)
    (notUndented : config.undent = false) :
    setupLine ∉ Text.splitLines (block.parse config).displaySource := by
  intro member
  rcases Trim.mem_lines_of_mem_splitLines (fun _ => isLine_of_mem_display) member with
    empty | shown
  · contradiction
  · rw [notUndented] at shown
    exact Classified.setupLine_not_mem_display _ _ _ ((Trim.window_sublist _).subset shown)

/--
What a block is parsed to is parsed to itself: its full source always, and its shown source, as
the full and the shown one, unless lines are undented and one of them then starts a setup region,
which can happen. No line of a shown source is a marker.
-/
theorem parse_parsed :
    (∀ (block other : Block) (config : Config),
      let source := (block.parse config).source
      let shown := (block.parse config).displaySource
      (parse { other with text := source } config).source = source ∧
        ((config.undent = true → setupLine ∉ Text.splitLines shown) →
          (parse { other with text := shown } config).source = shown ∧
            (parse { other with text := shown } config).displaySource = shown) ∧
        ∀ line ∈ Text.splitLines shown, Marker.ofLine? line = none) ∧
      ∃ (block : Block) (config : Config),
        config.undent = true ∧
          setupLine ∈ Text.splitLines (block.parse config).displaySource := by
  refine ⟨fun block other config => ⟨?_, fun startsNone => ?_, ?_⟩, ?_⟩
  · rw [parse_source_of_unmarked other config fun _ => ofLine?_of_mem_source]
    exact Trim.text_splitLines_text (fun _ => isLine_of_mem_full) (by simp)
  · have noMarkers : ∀ line ∈ Text.splitLines (block.parse config).displaySource,
        Marker.ofLine? line = none := fun _ => ofLine?_of_mem_displaySource
    have startsNoRegion : setupLine ∉ Text.splitLines (block.parse config).displaySource := by
      cases undented : config.undent with
      | false => exact setupLine_not_mem_displaySource block undented
      | true => exact startsNone undented
    have areLines : ∀ line ∈ (block.classified config).display, Text.IsLine line :=
      fun _ => isLine_of_mem_display
    rw [parse_source_of_unmarked other config noMarkers,
      parse_displaySource_of_unmarked other config noMarkers startsNoRegion]
    exact ⟨Trim.text_splitLines_text areLines (by simp), Trim.text_splitLines_text areLines id⟩
  · exact fun _ => ofLine?_of_mem_displaySource
  · refine ⟨{
      text := "  // setup\n  int a;"
      language := none
      compiler := none
      options := none
      removePattern := none }, .default, rfl, ?_⟩
    decide

/-- An undented block with blank lines, a line of tabs and a marker further in. -/
theorem parse_parsed_undented :
    let block : Block := {
      text := "///unhide\n\n    int a;\n \t\n\t    // setup\n  \t///hide\n    int b;\n"
      language := none
      compiler := none
      options := none
      removePattern := none }
    let shown := (block.parse .default).displaySource
    (Config.default.undent = true → setupLine ∉ Text.splitLines shown) ∧
      shown = "int a;\n\n // setup" ∧
      (parse { block with text := shown } .default).displaySource = shown := by
  intro block shown
  have startsNone : Config.default.undent = true → setupLine ∉ Text.splitLines shown := by
    decide
  obtain ⟨_, again, _⟩ := parse_parsed.1 block block .default
  exact ⟨startsNone, by decide, (again startsNone).2⟩

end Block

end CodeDeck
