import CodeDeck.Block.Processed
import CodeDeck.Proofs.Block.ParsedTexts
import CodeDeck.Proofs.Block.Classified
import CodeDeck.Proofs.Link.Fragment
import CodeDeck.Proofs.Number.Value

namespace CodeDeck

/-!
# What a link means

A link is read as the service reads it: the layout of version 4 with one row of
an editor and a compiler that is wired to it, and what each of the two holds.
Read that way, a link says what its block says: the redacted full source, the
block's language, compiler and options, and the configured flags and scales.
-/

namespace Json

/-- The value under a key of an object. -/
def field? (value : Json) (key : String) : Option Json :=
  match value with
  | .object entries => Entries.get? entries key
  | _ => none

end Json

namespace Link

/-- What the two panes of a layout hold. -/
structure Contents where
  source : String
  language : String
  compiler : String
  options : String
  intel : Bool
  trim : Bool
  editorScale : Int
  compilerScale : Int
  deriving Repr, DecidableEq

namespace Contents

/-- The two panes of a layout of version 4 with one row. -/
def panes? (payload : Json) : Option (Json × Json) :=
  match payload.field? "version", payload.field? "content" with
  | some (.int 4), some (.array [row]) =>
      match row.field? "type", row.field? "content" with
      | some (.string "row"), some (.array [editor, compiler]) => some (editor, compiler)
      | _, _ => none
  | _, _ => none

/-- The state of a pane that is a component of some name. -/
def state? (name : String) (pane : Json) : Option Json :=
  match pane.field? "type", pane.field? "componentName" with
  | some (.string "component"), some (.string given) =>
      if given = name then pane.field? "componentState" else none
  | _, _ => none

/-- A text under a key. -/
def text? (state : Json) (key : String) : Option String :=
  match state.field? key with
  | some (.string text) => some text
  | _ => none

/-- A whole number under a key. -/
def whole? (state : Json) (key : String) : Option Int :=
  match state.field? key with
  | some (.int value) => some value
  | _ => none

/-- A truth value under a key. -/
def flag? (state : Json) (key : String) : Option Bool :=
  match state.field? key with
  | some (.bool value) => some value
  | _ => none

/-- What the panes of a layout hold, if it is one and its compiler reads from its editor. -/
def ofPayload? (payload : Json) : Option Contents := do
  let (editorPane, compilerPane) ← panes? payload
  let editor ← state? "codeEditor" editorPane
  let compiler ← state? "compiler" compilerPane
  let filters ← compiler.field? "filters"
  if whole? compiler "source" = whole? editor "id" then
    return {
      source := ← text? editor "source"
      language := ← text? editor "lang"
      compiler := ← text? compiler "compiler"
      options := ← text? compiler "options"
      intel := ← flag? filters "intel"
      trim := ← flag? filters "trim"
      editorScale := ← whole? editor "fontScale"
      compilerScale := ← whole? compiler "fontScale" }
  else
    none

end Contents

/-- The service reads out of a layout what its panes were made of. -/
theorem ofPayload?_layout
    {config : Config}
    {editorScale compilerScale : Int}
    (source language compiler options : String)
    (editorWritten : config.editorFontScale.toLink = .int editorScale)
    (compilerWritten : config.compilerFontScale.toLink = .int compilerScale) :
    Contents.ofPayload?
        (layout (editorPane config source (.string language))
          (compilerPane config options (.string compiler))) =
      some {
        source, language, compiler, options, editorScale, compilerScale
        intel := config.intelSyntax
        trim := config.trimAssembly } := by
  rw [editorPane, compilerPane, editorWritten, compilerWritten]
  rfl

/-- A layout reads back when its scales are short whole numbers. -/
theorem isPlain_layout
    {config : Config}
    {editorScale compilerScale : Int}
    (source language compiler options : String)
    (editorWritten : config.editorFontScale.toLink = .int editorScale)
    (compilerWritten : config.compilerFontScale.toLink = .int compilerScale)
    (editorShort : Decimal.digitCount editorScale ≤ Numeral.maxDigits)
    (compilerShort : Decimal.digitCount compilerScale ≤ Numeral.maxDigits) :
    (layout (editorPane config source (.string language))
      (compilerPane config options (.string compiler))).isPlain = true := by
  have one : Decimal.digitCount 1 ≤ Numeral.maxDigits := by decide
  have four : Decimal.digitCount 4 ≤ Numeral.maxDigits := by decide
  simp [layout, editorPane, compilerPane, editorWritten, compilerWritten, Json.isPlain,
    Json.arePlain, Json.areEntriesPlain, one, four, editorShort, compilerShort]

/-- Options that are texts are joined with single spaces, empty ones left out. -/
theorem joinOptions_texts (texts : List String) :
    joinOptions (texts.map Json.string) =
      String.intercalate " " (texts.filter fun text => text ≠ "") := by
  have given : (texts.map Json.string).filter Json.isGiven =
      (texts.filter fun text => text ≠ "").map Json.string := by
    rw [List.filter_map]
    congr 1
    apply List.filter_congr
    intro text _
    by_cases empty : text = ""
    · simp [Json.isGiven, empty]
    · simp [Json.isGiven, empty]
  rw [joinOptions, given, List.map_map]
  congr 1
  exact List.map_id _

/-- A payload is the layout of the redacted source and the joined options. -/
theorem payload_eq_ok
    {config : Config}
    {request : Request}
    {made : Json}
    (returned : (payload config request).result = .ok made) :
    ∃ source options,
      (Redaction.redact request.source request.removePattern).result = .ok source ∧
        optionsFor config request.options request.language = .ok options ∧
        made = layout (editorPane config source request.language)
          (compilerPane config options request.compiler) := by
  simp only [payload] at returned
  cases redacted : (Redaction.redact request.source request.removePattern).result with
  | error cause =>
      rw [redacted] at returned
      contradiction
  | ok source =>
      cases joined : optionsFor config request.options request.language with
      | error cause =>
          rw [redacted, joined] at returned
          contradiction
      | ok options =>
          rw [redacted, joined] at returned
          cases returned
          exact ⟨source, options, rfl, rfl, rfl⟩

end Link

namespace Scale

/-- The rational number that a scale is. -/
def value? : Scale → Option ℚ
  | .whole value => some value
  | .real number => number.value?

/-- Whether a scale is an integer short enough for a numeral, or integral in the 64-bit format. -/
def IsWhole : Scale → Prop
  | .whole value => Decimal.digitCount value ≤ Numeral.maxDigits
  | .real number => number.fits = true ∧ ∃ integer : Int, number.value? = some (integer : ℚ)

/-- An integral scale is written as the integer that it is. -/
theorem IsWhole.exists_toLink
    {scale : Scale}
    (whole : scale.IsWhole) :
    ∃ integer : Int,
      scale.toLink = .int integer ∧
        scale.value? = some (integer : ℚ) ∧
        Decimal.digitCount integer ≤ Numeral.maxDigits := by
  cases scale with
  | whole value => exact ⟨value, rfl, rfl, whole⟩
  | real number =>
      obtain ⟨held, integer, same⟩ := whole
      have written := Binary64.toInt?_eq_some_iff.mpr same
      refine ⟨integer, ?_, same, Binary64.digitCount_of_fits held same⟩
      rw [toLink, written]

end Scale

namespace Redaction

/-- What is reported about a removal pattern: that it is refused, if it is. -/
def patternReports : Json → List Report
  | .string pattern =>
      if pattern = "" then
        []
      else
        match Pattern.Program.compile pattern.toList with
        | .error (.refused refusal) => [.badPattern pattern refusal]
        | _ => []
  | _ => []

/-- A redaction reports on its pattern, whatever the source is. -/
theorem redact_reports
    (source : String)
    (pattern : Json) :
    (redact source pattern).reports = patternReports pattern := by
  cases pattern with
  | string pattern =>
      by_cases empty : pattern = ""
      · simp [redact, patternReports, Json.isGiven, empty]
      · simp only [redact, patternReports, Json.isGiven, bne_iff_ne, ne_eq, empty,
          not_false_eq_true, if_true, if_false, withPattern]
        cases Pattern.Program.compile pattern.toList with
        | ok program => rfl
        | error failure =>
            cases failure
            all_goals rfl
  | _ =>
      simp only [redact, patternReports]
      split
      · rfl
      · rfl

end Redaction

namespace Block

/-- A block that is processed is its parsed form with a fragment and the address with it. -/
theorem process_eq_ok
    {block : Block}
    {config : Config}
    {processed : ProcessedBlock}
    (returned : (block.process config).result = .ok processed) :
    ∃ payload,
      (Link.payload config (block.parse config).request).result = .ok payload ∧
        processed = {
          parsed := block.parse config
          fragment := Link.encode payload
          url := Link.address config (Link.encode payload) } := by
  simp only [process, ParsedBlock.link, Link.fragment] at returned
  cases made : (Link.payload config (block.parse config).request).result with
  | error failure =>
      rw [made] at returned
      contradiction
  | ok payload =>
      rw [made] at returned
      cases returned
      exact ⟨payload, rfl, rfl⟩

theorem process_parsed
    {block : Block}
    {config : Config}
    {processed : ProcessedBlock}
    (returned : (block.process config).result = .ok processed) :
    processed.parsed = block.parse config := by
  obtain ⟨payload, -, rfl⟩ := process_eq_ok returned
  rfl

theorem optionsFor_texts
    {parsed : ParsedBlock}
    {config : Config}
    {own additional : String}
    (ownText : parsed.options = .string own)
    (additionalText :
      Setting.resolve config.additionalOptions parsed.language (.string "") =
        .string additional) :
    Link.optionsFor config parsed.request.options parsed.request.language =
      .ok (String.intercalate " " ([own, additional].filter fun text => text ≠ "")) := by
  rw [← Link.joinOptions_texts]
  simp only [ParsedBlock.request, ownText, Setting.ofJson?, Link.optionsFor,
    Setting.resolveFor_string, Setting.resolve_shared_string, additionalText]
  rfl

/-- The reports of a processed block: its lines that are too long, and then its pattern. -/
theorem process_reports
    (block : Block)
    (config : Config) :
    (block.process config).reports =
      ((Classified.unmarked block.lines).filter fun line =>
          config.maxLineLength < line.length).map Report.longLine ++
        Redaction.patternReports (block.parse config).removePattern := by
  rw [← reports_eq, ← Redaction.redact_reports (block.parse config).source]
  rfl

/--
A link says what its block says. With settings that are texts by language and integral
scales, the service reads out of the fragment of a processed block a layout whose editor has
the redacted full source in the block's language, and whose compiler is the block's, with the
block's options and the additional ones that are not empty, the configured flags, and the
configured scales as integers. The address is the base with that fragment, and the reports
are about the lines that are too long, in their order, and then about the pattern.
-/
theorem process_meaning
    (entries : Json.Entries)
    (block : Block)
    (processed : ProcessedBlock)
    (textEntries : (Config.ofEntries entries).1.hasTextEntries = true)
    (editorWhole : (Config.ofEntries entries).1.editorFontScale.IsWhole)
    (compilerWhole : (Config.ofEntries entries).1.compilerFontScale.IsWhole)
    (returned : (block.process (Config.ofEntries entries).1).result = .ok processed) :
    let config := (Config.ofEntries entries).1
    let parsed := block.parse config
    processed.parsed = parsed ∧
      (∃ (contents : Link.Contents) (own additional : String),
        (Link.decode processed.fragment).bind Link.Contents.ofPayload? = some contents ∧
          (Redaction.redact parsed.source parsed.removePattern).result = .ok contents.source ∧
          contents.language = parsed.language ∧
          parsed.compiler = .string contents.compiler ∧
          parsed.options = .string own ∧
          Setting.resolve config.additionalOptions parsed.language (.string "") =
            .string additional ∧
          contents.options =
            String.intercalate " " ([own, additional].filter fun text => text ≠ "") ∧
          contents.intel = config.intelSyntax ∧
          contents.trim = config.trimAssembly ∧
          config.editorFontScale.value? = some (contents.editorScale : ℚ) ∧
          config.compilerFontScale.value? = some (contents.compilerScale : ℚ)) ∧
      processed.url = config.baseUrl ++ "#" ++ processed.fragment ∧
      (block.process config).reports =
        ((Classified.unmarked block.lines).filter fun line =>
            config.maxLineLength < line.length).map Report.longLine ++
          Redaction.patternReports parsed.removePattern := by
  intro config parsed
  have sharesTexts : config.sharesTexts = true := Config.sharesTexts_ofEntries entries
  obtain ⟨compiler, compilerText⟩ :=
    Json.isText_iff.mp (isText_compiler block sharesTexts textEntries)
  obtain ⟨own, ownText⟩ := Json.isText_iff.mp (isText_options block sharesTexts textEntries)
  obtain ⟨additional, additionalText⟩ :=
    Json.isText_iff.mp (isText_additionalOptions parsed.language sharesTexts textEntries)
  obtain ⟨editorScale, editorWritten, editorValue, editorShort⟩ := editorWhole.exists_toLink
  obtain ⟨compilerScale, compilerWritten, compilerValue, compilerShort⟩ :=
    compilerWhole.exists_toLink
  obtain ⟨payload, made, rfl⟩ := process_eq_ok returned
  obtain ⟨source, options, redacted, joined, rfl⟩ := Link.payload_eq_ok made
  -- The options are resolved twice; they are a text by then, which is left as it is.
  rw [optionsFor_texts ownText additionalText] at joined
  cases joined
  let options := String.intercalate " " ([own, additional].filter fun text => text ≠ "")
  let contents : Link.Contents := {
    source, compiler, options, editorScale, compilerScale
    language := parsed.language
    intel := config.intelSyntax
    trim := config.trimAssembly }
  have compilerRequested : (block.parse config).request.compiler = .string compiler :=
    compilerText
  have plain := Link.isPlain_layout source parsed.language compiler options
    editorWritten compilerWritten editorShort compilerShort
  have read := Link.ofPayload?_layout source parsed.language compiler options
    editorWritten compilerWritten
  have carried : (Link.decode (Link.encode
      (Link.layout (Link.editorPane config source (.string parsed.language))
        (Link.compilerPane config options (block.parse config).request.compiler)))).bind
          Link.Contents.ofPayload? = some contents := by
    rw [compilerRequested, Link.decode_encode plain, Option.bind_some, read]
  exact ⟨rfl, ⟨contents, own, additional, carried, redacted, rfl, compilerText, ownText,
    additionalText, rfl, rfl, rfl, editorValue, compilerValue⟩, rfl,
    process_reports block config⟩

/-- A hidden line and a removal pattern, with a compiler by language and scales of both kinds. -/
theorem process_meaning_redacted :
    let entries : Json.Entries := [
      ("editorFontScale", .int 2),
      ("compilerFontScale", .float (.finite false (3 * 2 ^ 51) (-51))),
      ("defaultCompiler", .object [("c++", .string "clang1700")])]
    let config := (Config.ofEntries entries).1
    let block : Block := {
      text := "int key = 1;\n///hide\nint b;"
      language := none
      compiler := none
      options := some "-O2"
      removePattern := some "k.y" }
    config.hasTextEntries = true ∧
      config.editorFontScale.IsWhole ∧
      config.compilerFontScale.IsWhole ∧
      ∃ processed contents,
        (block.process config).result = .ok processed ∧
          (Link.decode processed.fragment).bind Link.Contents.ofPayload? = some contents ∧
          contents.source = "int  = 1;\nint b;" ∧
          contents.options = "-O2 -Wall -Wextra" ∧
          contents.compilerScale = 3 ∧
          processed.url = "https://slides.compiler-explorer.com#" ++ processed.fragment := by
  intro entries config block
  have textEntries : config.hasTextEntries = true := by decide
  have editorWhole : config.editorFontScale.IsWhole := by
    show Decimal.digitCount 2 ≤ Numeral.maxDigits
    decide
  have three : (Binary64.finite false (3 * 2 ^ 51) (-51)).value? = some ((3 : Int) : ℚ) :=
    Binary64.toInt?_eq_some_iff.mp (by decide)
  have compilerWhole : config.compilerFontScale.IsWhole := ⟨by decide, 3, three⟩
  have redacts : (Redaction.redact (block.parse config).source
      (block.parse config).removePattern).result = .ok "int  = 1;\nint b;" := by
    decide +kernel
  obtain ⟨processed, returned⟩ : ∃ processed, (block.process config).result = .ok processed := by
    have returns : (block.process config).result.toOption.isSome = true := by decide +kernel
    cases result : (block.process config).result with
    | error failure =>
        rw [result] at returns
        contradiction
    | ok processed => exact ⟨processed, rfl⟩
  obtain ⟨_, ⟨contents, own, additional, read, redacted, _, _, ownText, additionalText, options,
    _, _, _, compilerScale⟩, url, _⟩ :=
    process_meaning entries block processed textEntries editorWhole compilerWhole returned
  have sameSource : contents.source = "int  = 1;\nint b;" :=
    Except.ok.inj (redacted.symm.trans redacts)
  have sameOwn : own = "-O2" := Json.string.inj (ownText.symm.trans rfl)
  have sameAdditional : additional = "-Wall -Wextra" :=
    Json.string.inj (additionalText.symm.trans rfl)
  have sameOptions : contents.options = "-O2 -Wall -Wextra" := by
    rw [options, sameOwn, sameAdditional]
    decide
  have sameScale : contents.compilerScale = 3 := by
    have same := Option.some.inj (compilerScale.symm.trans three)
    exact_mod_cast same
  exact ⟨textEntries, editorWhole, compilerWhole, processed, contents, returned, read, sameSource,
    sameOptions, sameScale, url⟩

end Block

end CodeDeck
