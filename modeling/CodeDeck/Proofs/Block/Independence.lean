import CodeDeck.Block.Processed
import CodeDeck.Proofs.Block.Classified
import Mathlib.Logic.Relation

namespace CodeDeck

/-!
# What is compiled and what is shown are independent

Marker lines decide what a slide shows and nothing else: blocks that differ
only in them have the same full source, the same link and the same reports.
The other way round, what is shown of a text depends on whether it is undented
and on no other setting.
-/

/-- One edit of the markers of some lines: a marker put in, taken out or replaced by another. -/
inductive MarkerEdit : List String → List String → Prop where
  | insert
      {line : String}
      (before after : List String) :
      (Marker.ofLine? line).isSome = true →
      MarkerEdit (before ++ after) (before ++ line :: after)
  | delete
      {line : String}
      (before after : List String) :
      (Marker.ofLine? line).isSome = true →
      MarkerEdit (before ++ line :: after) (before ++ after)
  | flip
      {line other : String}
      (before after : List String) :
      (Marker.ofLine? line).isSome = true →
      (Marker.ofLine? other).isSome = true →
      MarkerEdit (before ++ line :: after) (before ++ other :: after)

namespace MarkerEdit

/-- An edit leaves the lines that are no markers as they are. -/
theorem unmarked_eq
    {first second : List String}
    (edit : MarkerEdit first second) :
    Classified.unmarked first = Classified.unmarked second := by
  cases edit with
  | insert before after isMarker =>
      obtain ⟨marker, found⟩ := Option.isSome_iff_exists.mp isMarker
      simp [Classified.unmarked_cons_of_marker after found]
  | delete before after isMarker =>
      obtain ⟨marker, found⟩ := Option.isSome_iff_exists.mp isMarker
      simp [Classified.unmarked_cons_of_marker after found]
  | flip before after isMarker otherIsMarker =>
      obtain ⟨marker, found⟩ := Option.isSome_iff_exists.mp isMarker
      obtain ⟨otherMarker, otherFound⟩ := Option.isSome_iff_exists.mp otherIsMarker
      simp [Classified.unmarked_cons_of_marker after found,
        Classified.unmarked_cons_of_marker after otherFound]

theorem symm
    {first second : List String}
    (edit : MarkerEdit first second) :
    MarkerEdit second first := by
  cases edit with
  | insert before after isMarker => exact .delete before after isMarker
  | delete before after isMarker => exact .insert before after isMarker
  | flip before after isMarker otherIsMarker => exact .flip before after otherIsMarker isMarker

theorem cons
    {first second : List String}
    (line : String)
    (edit : MarkerEdit first second) :
    MarkerEdit (line :: first) (line :: second) := by
  cases edit with
  | insert before after isMarker => exact .insert (line :: before) after isMarker
  | delete before after isMarker => exact .delete (line :: before) after isMarker
  | flip before after isMarker otherIsMarker =>
      exact .flip (line :: before) after isMarker otherIsMarker

end MarkerEdit

/-- Any number of edits of markers. -/
def MarkerEdits : List String → List String → Prop :=
  Relation.ReflTransGen MarkerEdit

namespace MarkerEdits

theorem symm
    {first second : List String}
    (edits : MarkerEdits first second) :
    MarkerEdits second first := by
  induction edits with
  | refl => exact .refl
  | tail _ edit inductionHypothesis => exact .head edit.symm inductionHypothesis

theorem cons
    {first second : List String}
    (line : String)
    (edits : MarkerEdits first second) :
    MarkerEdits (line :: first) (line :: second) := by
  induction edits with
  | refl => exact .refl
  | tail _ edit inductionHypothesis => exact .tail inductionHypothesis (edit.cons line)

/-- All markers can be taken out. -/
theorem to_unmarked (lines : List String) : MarkerEdits lines (Classified.unmarked lines) := by
  induction lines with
  | nil => exact .refl
  | cons line lines inductionHypothesis =>
      cases found : Marker.ofLine? line with
      | none =>
          rw [Classified.unmarked_cons_of_none lines found]
          exact inductionHypothesis.cons line
      | some marker =>
          rw [Classified.unmarked_cons_of_marker lines found]
          exact .head (.delete [] lines (by simp [found])) inductionHypothesis

/-- Lines that agree but for their markers are those that edits of markers lead to. -/
theorem iff_unmarked_eq
    {first second : List String} :
    MarkerEdits first second ↔ Classified.unmarked first = Classified.unmarked second := by
  constructor
  · intro edits
    induction edits with
    | refl => rfl
    | tail _ edit inductionHypothesis => exact inductionHypothesis.trans edit.unmarked_eq
  · intro same
    have toSecond := (to_unmarked second).symm
    rw [← same] at toSecond
    exact (to_unmarked first).trans toSecond

end MarkerEdits

/-- A processed block but for what is shown of it. -/
def ProcessedBlock.withoutDisplay (processed : ProcessedBlock) : ProcessedBlock :=
  { processed with parsed := { processed.parsed with displaySource := "" } }

namespace Block

/-- The full source is made of the lines that are no markers. -/
theorem parse_source
    (block : Block)
    (config : Config) :
    (block.parse config).source = Trim.text (Classified.unmarked block.lines) false := by
  rw [parse, classified, Classified.ofLines, Classified.ofLinesFrom_full]

/-- The full source depends on no setting, and on no marker. -/
theorem source_eq
    {first second : Block}
    (firstConfig secondConfig : Config)
    (sameLines : Classified.unmarked first.lines = Classified.unmarked second.lines) :
    (first.parse firstConfig).source = (second.parse secondConfig).source := by
  rw [parse_source, parse_source, sameLines]

/-- A block with another text of the same lines but for the markers has the same request. -/
theorem request_eq
    {text : String}
    {block : Block}
    (config : Config)
    (undent : Bool)
    (maxLineLength : Int)
    (baseUrl : String)
    (sameLines :
      Classified.unmarked (Text.splitLines text) = Classified.unmarked block.lines) :
    (parse { block with text } { config with undent, maxLineLength, baseUrl }).request =
      (block.parse config).request := by
  have sameSource :
      (parse { block with text } { config with undent, maxLineLength, baseUrl }).source =
        (block.parse config).source :=
    source_eq _ _ sameLines
  rw [ParsedBlock.request, sameSource]
  rfl

/-- Whatever is read off a processed block is read off its parsed form and its fragment. -/
theorem map_result_process
    {α : Type}
    (block : Block)
    (config : Config)
    (view : ProcessedBlock → α) :
    (block.process config).result.map view =
      (Link.fragment config (block.parse config).request).result.map fun fragment =>
        view {
          parsed := block.parse config
          fragment
          url := Link.address config fragment } := by
  simp only [process, ParsedBlock.link]
  cases (Link.fragment config (block.parse config).request).result with
  | error failure => rfl
  | ok fragment => rfl

/-- What is shown of a block depends on its text and on whether it is undented. -/
theorem displaySource_eq
    {first second : Block}
    {firstConfig secondConfig : Config}
    (sameText : first.text = second.text)
    (sameUndent : firstConfig.undent = secondConfig.undent) :
    (first.parse firstConfig).displaySource = (second.parse secondConfig).displaySource := by
  simp only [parse, classified, lines, Classified.ofLines, sameText, sameUndent]
  rw [Classified.ofLinesFrom_display_eq firstConfig.maxLineLength secondConfig.maxLineLength]

/--
Nothing that is compiled depends on what is hidden: a text with the same lines but for the
markers, which is one that edits of markers lead to, gives the same reports and the same
processed block but for what is shown of it, or the same failure; and its fragment does not
depend on whether lines are undented, on their greatest length and on the base of addresses
either. And nothing that is shown depends on how it is compiled: blocks with the same text,
both undented or both not, show the same.
-/
theorem compiled_independent_of_hidden :
    (∀ (block : Block) (text : String) (config : Config),
      Classified.unmarked (Text.splitLines text) = Classified.unmarked block.lines →
        (process { block with text } config).reports = (block.process config).reports ∧
          (process { block with text } config).result.map ProcessedBlock.withoutDisplay =
            (block.process config).result.map ProcessedBlock.withoutDisplay ∧
          ∀ (undent : Bool) (maxLineLength : Int) (baseUrl : String),
            (process { block with text }
                { config with undent, maxLineLength, baseUrl }).result.map
                ProcessedBlock.fragment =
              (block.process config).result.map ProcessedBlock.fragment) ∧
      (∀ first second : List String,
        MarkerEdits first second ↔
          Classified.unmarked first = Classified.unmarked second) ∧
      (∀ (first second : Block) (firstConfig secondConfig : Config),
        first.text = second.text →
          firstConfig.undent = secondConfig.undent →
            (first.parse firstConfig).displaySource =
              (second.parse secondConfig).displaySource) := by
  refine ⟨?_, fun _ _ => MarkerEdits.iff_unmarked_eq,
    fun _ _ _ _ sameText sameUndent => displaySource_eq sameText sameUndent⟩
  intro block text config sameLines
  have sameRequest : (parse { block with text } config).request = (block.parse config).request :=
    request_eq config config.undent config.maxLineLength config.baseUrl sameLines
  refine ⟨?_, ?_, ?_⟩
  · simp only [process, ParsedBlock.link, sameRequest, reports_eq]
    rw [← sameLines]
    rfl
  · have sameSource : (parse { block with text } config).source = (block.parse config).source :=
      source_eq config config sameLines
    have sameParsed :
        { parse { block with text } config with displaySource := "" } =
          { block.parse config with displaySource := "" } :=
      congrArg
        (fun source => { block.parse config with displaySource := "", source := source })
        sameSource
    rw [map_result_process, map_result_process, sameRequest]
    simp only [ProcessedBlock.withoutDisplay, sameParsed]
  · intro undent maxLineLength baseUrl
    rw [map_result_process, map_result_process,
      request_eq config undent maxLineLength baseUrl sameLines]
    rfl

/-- A marker moved to the front and the other one taken out, which shows more of the block. -/
theorem compiled_independent_of_hidden_moved :
    let block : Block := {
      text := "int a;\n  ///hide\nint b;\n///unhide"
      language := some "c"
      compiler := none
      options := none
      removePattern := none }
    let text := "/// unhide\nint a;\nint b;"
    Classified.unmarked (Text.splitLines text) = Classified.unmarked block.lines ∧
      (block.parse .default).displaySource ≠ (parse { block with text } .default).displaySource ∧
      (process { block with text } .default).reports = (block.process .default).reports ∧
      (process { block with text } .default).result.map ProcessedBlock.withoutDisplay =
        (block.process .default).result.map ProcessedBlock.withoutDisplay := by
  intro block text
  have sameLines : Classified.unmarked (Text.splitLines text) = Classified.unmarked block.lines := by
    decide
  obtain ⟨sameReports, sameCompiled, _⟩ :=
    compiled_independent_of_hidden.1 block text .default sameLines
  exact ⟨sameLines, by decide, sameReports, sameCompiled⟩

end Block

end CodeDeck
