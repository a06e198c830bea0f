import CodeDeck.Block.Processed
import CodeDeck.Proofs.Block.Regions
import CodeDeck.Proofs.Block.Trimmed

namespace CodeDeck

/-!
# Blank lines

A blank line is never a marker and never starts a setup region, but it ends one
that is open when its first character is whitespace other than a space. Blank
lines that do not can be put in anywhere without another line appearing or
disappearing on the slide. In front of a block and behind it no setup region
is lost, and what is blank there is trimmed: the block stays the same.
-/

/--
Lines put in between others at any positions, as far as they are allowed in the regions there.
The regions are those of the lines without any that are put in.
-/
inductive PutIn (allowed : Region → String → Prop) :
    Region → List String → List String → Prop where
  | nil (region : Region) : PutIn allowed region [] []
  | keep
      {region : Region}
      {line : String}
      {lines extended : List String} :
      PutIn allowed (region.step line) lines extended →
      PutIn allowed region (line :: lines) (line :: extended)
  | insert
      {region : Region}
      {added : String}
      {lines extended : List String} :
      allowed region added →
      PutIn allowed region lines extended →
      PutIn allowed region lines (added :: extended)

namespace PutIn

variable {allowed : Region → String → Prop} {region : Region} {lines extended : List String}

/-- Nothing has to be put in. -/
theorem refl
    (allowed : Region → String → Prop)
    (region : Region)
    (lines : List String) :
    PutIn allowed region lines lines := by
  induction lines generalizing region with
  | nil => exact .nil region
  | cons line lines inductionHypothesis => exact .keep (inductionHypothesis (region.step line))

/-- Lines can be put in behind others. -/
theorem behind
    (front : List String)
    (putIn : PutIn allowed (region.after front) lines extended) :
    PutIn allowed region (front ++ lines) (front ++ extended) := by
  induction front generalizing region with
  | nil => exact putIn
  | cons line front inductionHypothesis => exact .keep (inductionHypothesis putIn)

end PutIn

/-- The lines that are not blank. -/
def Text.nonBlank (lines : List String) : List String :=
  lines.filter fun line => !Text.isBlank line

namespace Text

@[simp] theorem nonBlank_append
    (first second : List String) :
    nonBlank (first ++ second) = nonBlank first ++ nonBlank second :=
  List.filter_append ..

theorem nonBlank_eq_nil
    {lines : List String}
    (blank : ∀ line ∈ lines, isBlank line = true) :
    nonBlank lines = [] := by
  simpa [nonBlank] using blank

end Text

namespace Classified

/-- What a blank line does to the others it does by the regions behind it. -/
theorem nonBlank_display_cons_of_isBlank
    {line : String}
    (maxLength : Int)
    (region : Region)
    (lines : List String)
    (blank : Text.isBlank line = true) :
    Text.nonBlank (ofLinesFrom maxLength region (line :: lines)).display =
      Text.nonBlank (ofLinesFrom maxLength (region.step line) lines).display := by
  have shownBlank :
      Text.nonBlank (ofLinesFrom maxLength region [line]).display = [] := by
    refine Text.nonBlank_eq_nil fun shown member => ?_
    rw [List.mem_singleton.mp (mem_of_mem_display member)]
    exact blank
  rw [ofLinesFrom_display_cons, Text.nonBlank_append, shownBlank, List.nil_append]

/-- Blank lines that close no setup region make no difference to the other lines. -/
theorem nonBlank_display_of_putIn
    {allowed : Region → String → Prop}
    {region : Region}
    {lines extended : List String}
    (maxLength : Int)
    (onlyBlank : ∀ region line, allowed region line → Text.isBlank line = true)
    (closesNothing : ∀ region line, allowed region line → ¬ region.ClosedBy line)
    (putIn : PutIn allowed region lines extended) :
    Text.nonBlank (ofLinesFrom maxLength region extended).display =
      Text.nonBlank (ofLinesFrom maxLength region lines).display := by
  -- Both walks are in the same regions at each line that is kept, since what is put in keeps them.
  induction putIn with
  | nil region => rfl
  | @keep region line lines extended putIn inductionHypothesis =>
      rw [ofLinesFrom_display_cons _ _ line extended, ofLinesFrom_display_cons _ _ line lines,
        Text.nonBlank_append, Text.nonBlank_append, inductionHypothesis]
  | @insert region added lines extended isAllowed putIn inductionHypothesis =>
      have blank := onlyBlank region added isAllowed
      rw [nonBlank_display_cons_of_isBlank maxLength region extended blank,
        Region.step_eq_self blank (closesNothing region added isAllowed), inductionHypothesis]

/-- There are lines that are shown when a setup region is closed before them, and only then. -/
theorem exists_shown_when_closed (hidden : Bool) :
    ∃ lines : List String,
      (ofLinesFrom 0 ⟨hidden, true⟩ lines).display = [] ∧
        (ofLinesFrom 0 ⟨hidden, false⟩ lines).display = [" x"] := by
  -- Behind the marker nothing but the setup region decides, and an indented line leaves it open.
  refine ⟨["///unhide", " x"], ?_⟩
  cases hidden <;> decide

/-- A blank line that closes a setup region shows in what is behind it. -/
theorem exists_difference_of_closedBy
    {region : Region}
    {line : String}
    (blank : Text.isBlank line = true)
    (closed : region.ClosedBy line) :
    ∃ lines : List String,
      Text.nonBlank (ofLinesFrom 0 region (line :: lines)).display ≠
        Text.nonBlank (ofLinesFrom 0 region lines).display := by
  obtain ⟨hidden, setup⟩ := region
  obtain ⟨isOpen, ends⟩ := closed
  obtain rfl : setup = true := isOpen
  obtain ⟨lines, unseen, seen⟩ := exists_shown_when_closed hidden
  refine ⟨lines, ?_⟩
  rw [nonBlank_display_cons_of_isBlank _ _ _ blank, Region.step_of_isBlank _ blank, if_pos ends,
    unseen, seen]
  decide

/--
Blank lines that are put in at any positions by some rule never make another line appear or
disappear exactly if the rule allows none in an open setup region that ends it. The blank lines
that end one are those that start with whitespace other than a space.
-/
theorem nonBlank_display_iff_closes_nothing
    {allowed : Region → String → Prop}
    (onlyBlank : ∀ region line, allowed region line → Text.isBlank line = true) :
    (∀ (maxLength : Int) (lines extended : List String),
      PutIn allowed Region.initial lines extended →
        Text.nonBlank (ofLines maxLength extended).display =
          Text.nonBlank (ofLines maxLength lines).display) ↔
      ∀ region line, allowed region line → ¬ region.ClosedBy line := by
  constructor
  · intro unchanged region line isAllowed closed
    obtain ⟨front, reached⟩ := Region.exists_after_initial region
    obtain ⟨rest, different⟩ := exists_difference_of_closedBy (onlyBlank _ _ isAllowed) closed
    have putIn : PutIn allowed Region.initial (front ++ rest) (front ++ line :: rest) := by
      refine PutIn.behind front ?_
      rw [reached]
      exact .insert isAllowed (.refl allowed region rest)
    have same := unchanged 0 _ _ putIn
    simp only [ofLines, ofLinesFrom_display_append, Text.nonBlank_append, reached,
      List.append_cancel_left_eq] at same
    exact different same
  · intro closesNothing maxLength lines extended putIn
    exact nonBlank_display_of_putIn maxLength onlyBlank closesNothing putIn

/-- Blank lines of all kinds around a setup region, and in it only some. -/
theorem nonBlank_display_iff_closes_nothing_around :
    let allowed (region : Region) (line : String) : Prop :=
      Text.isBlank line = true ∧ ¬ region.ClosedBy line
    let lines := ["// setup", " int a;", "int b;", "  int c;"]
    let extended := ["\t", "// setup", "", "  ", " int a;", "int b;", "\t \t", "  int c;", ""]
    (∀ region line, allowed region line → Text.isBlank line = true) ∧
      PutIn allowed Region.initial lines extended ∧
      Text.nonBlank (ofLines 50 extended).display = Text.nonBlank (ofLines 50 lines).display := by
  intro allowed lines extended
  have onlyBlank : ∀ region line, allowed region line → Text.isBlank line = true :=
    fun _ _ isAllowed => isAllowed.1
  have putIn : PutIn allowed Region.initial lines extended :=
    .insert (by decide) <| .keep <| .insert (by decide) <| .insert (by decide) <|
      .keep <| .keep <| .insert (by decide) <| .keep <| .insert (by decide) (.nil _)
  have unchanged := (nonBlank_display_iff_closes_nothing onlyBlank).mpr fun _ _ isAllowed =>
    isAllowed.2
  exact ⟨onlyBlank, putIn, unchanged 50 lines extended putIn⟩

/-- A blank line that starts with a tab ends a setup region, and what is indented is shown. -/
theorem nonBlank_display_changed_by_tab :
    ¬ ∀ (maxLength : Int) (lines extended : List String),
      PutIn (fun _ line => Text.isBlank line = true) Region.initial lines extended →
        Text.nonBlank (ofLines maxLength extended).display =
          Text.nonBlank (ofLines maxLength lines).display := by
  intro unchanged
  have tabPutIn :
      PutIn (fun _ line => Text.isBlank line = true) Region.initial
        ["// setup", " int a;"] ["// setup", "\t", " int a;"] :=
    .keep (.insert (by decide) (.keep (.nil _)))
  have same := unchanged 50 _ _ tabPutIn
  revert same
  decide

end Classified

namespace Block

/-- A block is parsed to what its sources are, and to settings that do not depend on its text. -/
theorem parse_eq_of_sources
    {block : Block}
    {text : String}
    {config : Config}
    (sameSource : (parse { block with text } config).source = (block.parse config).source)
    (sameShown :
      (parse { block with text } config).displaySource = (block.parse config).displaySource) :
    parse { block with text } config = block.parse config := by
  calc
    parse { block with text } config
        = { block.parse config with
            source := (parse { block with text } config).source
            displaySource := (parse { block with text } config).displaySource } := rfl
    _ = block.parse config := by rw [sameSource, sameShown]

/-- Blank texts before and behind the text of a block are blank lines around its lines. -/
theorem exists_blank_lines_around
    {before after : List String}
    (text : String)
    (blank : ∀ line ∈ before ++ after, Text.isBlank line = true) :
    ∃ front back : List String,
      Text.splitLines (Text.joinLines (before ++ text :: after)) =
          front ++ Text.splitLines text ++ back ∧
        (∀ line ∈ front, Text.isBlank line = true) ∧
        ∀ line ∈ back, Text.isBlank line = true := by
  obtain ⟨blankBefore, blankAfter⟩ := List.forall_mem_append.mp blank
  refine ⟨before.flatMap Text.splitLines, after.flatMap Text.splitLines, ?_, ?_, ?_⟩
  · rw [Text.splitLines_joinLines_eq_flatMap (by simp)]
    simp
  · exact fun _ => Text.isBlank_of_mem_flatMap_splitLines blankBefore
  · exact fun _ => Text.isBlank_of_mem_flatMap_splitLines blankAfter

/-- Blank lines around others make no difference to the window of what is shown. -/
theorem window_display_surrounded
    {front back : List String}
    (maxLength : Int)
    (lines : List String)
    (blankFront : ∀ line ∈ front, Text.isBlank line = true)
    (blankBack : ∀ line ∈ back, Text.isBlank line = true) :
    Trim.window (Classified.ofLines maxLength (front ++ lines ++ back)).display =
      Trim.window (Classified.ofLines maxLength lines).display := by
  -- The blank lines in front leave the regions alone, and what those behind do is seen by none.
  rw [Classified.ofLines, List.append_assoc, Classified.ofLinesFrom_display_append,
    Region.after_eq_self rfl blankFront, Classified.ofLinesFrom_display_append,
    ← List.append_assoc]
  exact Trim.window_surrounded _
    (fun _ member => blankFront _ (Classified.mem_of_mem_display member))
    (fun _ member => blankBack _ (Classified.mem_of_mem_display member))

theorem window_full_surrounded
    {front back : List String}
    (maxLength : Int)
    (lines : List String)
    (blankFront : ∀ line ∈ front, Text.isBlank line = true)
    (blankBack : ∀ line ∈ back, Text.isBlank line = true) :
    Trim.window (Classified.ofLines maxLength (front ++ lines ++ back)).full =
      Trim.window (Classified.ofLines maxLength lines).full := by
  simp only [Classified.ofLines, Classified.ofLinesFrom_full, Classified.unmarked_append]
  exact Trim.window_surrounded _
    (fun _ member => blankFront _ ((Classified.unmarked_sublist front).subset member))
    (fun _ member => blankBack _ ((Classified.unmarked_sublist back).subset member))

/--
Blank lines before and behind the text of a block make no difference to the block: its sources,
its settings, its fragment and its address are the same, or it fails in the same way.
-/
theorem process_result_surrounded
    (block : Block)
    (config : Config)
    {before after : List String}
    (blank : ∀ line ∈ before ++ after, Text.isBlank line = true) :
    (process { block with text := Text.joinLines (before ++ block.text :: after) }
        config).result =
      (block.process config).result := by
  obtain ⟨front, back, shape, blankFront, blankBack⟩ := exists_blank_lines_around block.text blank
  have sameParsed :
      parse { block with text := Text.joinLines (before ++ block.text :: after) } config =
        block.parse config := by
    apply parse_eq_of_sources
    · simp only [parse, classified, lines, shape]
      exact Trim.text_eq_of_window_eq false (window_full_surrounded _ _ blankFront blankBack)
    · simp only [parse, classified, lines, shape]
      exact Trim.text_eq_of_window_eq config.undent
        (window_display_surrounded _ _ blankFront blankBack)
  simp only [process, sameParsed]

/-- A block with a broken pattern, and a setup region at its end that the lines behind it close. -/
theorem process_result_surrounded_setup :
    let block : Block := {
      text := "///hide\nint x;\n///unhide\n  int a;\n\n    int b;\n// setup\n int c;"
      language := some "c"
      compiler := none
      options := none
      removePattern := some "[a" }
    let before := ["\t", ""]
    let after := ["\t  \t", "    "]
    (∀ line ∈ before ++ after, Text.isBlank line = true) ∧
      (block.parse .default).displaySource = "int a;\n\n  int b;" ∧
      (process { block with text := Text.joinLines (before ++ block.text :: after) }
          .default).result =
        (block.process .default).result := by
  intro block before after
  have blank : ∀ line ∈ before ++ after, Text.isBlank line = true := by decide
  exact ⟨blank, by decide, process_result_surrounded block .default blank⟩

end Block

end CodeDeck
