import CodeDeck.Proofs.Block.Passes
import CodeDeck.Proofs.Block.Patterns

namespace CodeDeck

/-!
# What ends a pass on a machine with limits

A machine has room for so many nested calls, and it writes whole numbers of so
many digits. On such a machine a pass ends early for three reasons: a removal
pattern that asks for too much, a removal pattern for which the stack is too
small, and a font scale that is too long to be written in a link. With settings
that are texts there is no fourth: `processAll_returns_iff`.
-/

/-- Whether a font scale is short enough to be written in a link. -/
def Scale.isShort (scale : Scale) : Bool :=
  scale.toLink.hasShortNumerals

theorem Scale.isShort_whole_iff
    {value : Int} :
    (Scale.whole value).isShort = true ↔ value.natAbs < 10 ^ Numeral.maxDigits := by
  rw [← Decimal.size_le_iff (by decide)]
  exact decide_eq_true_iff

/-- Whether both font scales are. -/
def Config.hasShortScales (config : Config) : Bool :=
  config.editorFontScale.isShort && config.compilerFontScale.isShort

namespace Redaction

/-- A pattern for which the stack is large enough does what it does without limits. -/
theorem redactWithin_of_fits
    {stack : Stack '('}
    {pattern : String}
    (source : String)
    (fits : stack.overflows pattern.toList = false) :
    redactWithin stack source (.string pattern) =
      ⟨(redact source (.string pattern)).reports,
        (redact source (.string pattern)).result.mapError .failed⟩ := by
  simp [redactWithin, overflows, fits]

/-- A text as pattern is used, refused and reported, or unusable, or the stack is too small. -/
theorem redactWithin_cases
    (stack : Stack '(')
    (source pattern : String) :
    (∃ program text,
      Pattern.Program.compile pattern.toList = .ok program ∧
        redactWithin stack source (.string pattern) = ⟨[], .ok text⟩) ∨
      (∃ refusal,
        Pattern.Program.compile pattern.toList = .error (.refused refusal) ∧
          redactWithin stack source (.string pattern) =
            ⟨[.badPattern pattern refusal], .ok source⟩) ∨
      (∃ cause,
        Unusable pattern cause ∧
          Pattern.Excess pattern.toList cause ∧
          redactWithin stack source (.string pattern) =
            ⟨[], .error (.failed (.unusable pattern cause))⟩) ∨
      (stack.overflows pattern.toList = true ∧
        stack.room < pattern.toList.countP opensLevel ∧
        redactWithin stack source (.string pattern) = ⟨[], .error .stackOverflow⟩) := by
  cases fits : stack.overflows pattern.toList with
  | true =>
      refine .inr (.inr (.inr ⟨rfl, stack.room_lt_of_overflows fits, ?_⟩))
      simp [redactWithin, overflows, fits]
  | false =>
      rw [redactWithin_of_fits source fits]
      rcases redact_cases source pattern with
        ⟨program, text, compiled, redacted⟩ | ⟨refusal, compiled, redacted⟩ |
          ⟨cause, unusable, redacted⟩
      · exact .inl ⟨program, text, compiled, by rw [redacted]; rfl⟩
      · exact .inr (.inl ⟨refusal, compiled, by rw [redacted]; rfl⟩)
      · exact .inr (.inr (.inl ⟨cause, unusable, unusable.excess, by rw [redacted]; rfl⟩))

end Redaction

namespace Link

/-- The whole numbers of a layout are short when the font scales and the compiler are. -/
theorem hasShortNumerals_layout
    {config : Config}
    {language compiler : Json}
    (source options : String)
    (languageShort : language.hasShortNumerals = true)
    (compilerShort : compiler.hasShortNumerals = true) :
    (layout (editorPane config source language)
      (compilerPane config options compiler)).hasShortNumerals = config.hasShortScales := by
  have one : Decimal.size (1 : Int).natAbs ≤ Numeral.maxDigits := by decide
  have four : Decimal.size (4 : Int).natAbs ≤ Numeral.maxDigits := by decide
  simp only [layout, editorPane, compilerPane, Json.hasShortNumerals, Json.haveShortNumerals,
    Json.entriesHaveShortNumerals, one, four, languageShort, compilerShort, decide_true,
    Bool.and_true, Bool.true_and, Config.hasShortScales, Scale.isShort]

/-- On a machine a link is made of what it is made of without limits, if it can be written. -/
theorem fragmentWithin_eq_ok_iff
    {stack : Stack '('}
    {config : Config}
    {request : Request}
    {fragment : String} :
    (fragmentWithin stack config request).result = .ok fragment ↔
      Redaction.overflows stack request.removePattern = false ∧
        ∃ made, (payload config request).result = .ok made ∧
          made.hasShortNumerals = true ∧ encode made = fragment := by
  simp only [fragmentWithin]
  cases Redaction.overflows stack request.removePattern with
  | true => simp
  | false =>
      cases (payload config request).result with
      | error cause => exact iff_of_false (fun made => by cases made) (by simp)
      | ok value =>
          show (if value.hasShortNumerals then .ok (encode value)
            else .error .longNumeral : Except (Halt Failure) String) = .ok fragment ↔ _
          cases short : value.hasShortNumerals with
          | true => simp [short]
          | false => simp [short]

end Link

namespace Block

variable {config : Config} {stack : Stack '('} {processed : ProcessedBlock}

/-- The whole numbers of the layout of a block are short when the font scales are. -/
theorem hasShortNumerals_payload
    {block : Block}
    {payload : Json}
    (sharesTexts : config.sharesTexts = true)
    (textEntries : config.hasTextEntries = true)
    (made : (Link.payload config (block.parse config).request).result = .ok payload) :
    payload.hasShortNumerals = config.hasShortScales := by
  obtain ⟨source, options, -, -, rfl⟩ := Link.payload_eq_ok made
  obtain ⟨compiler, isText⟩ := Json.isText_iff.mp (isText_compiler block sharesTexts textEntries)
  refine Link.hasShortNumerals_layout source options rfl ?_
  rw [show (block.parse config).request.compiler = .string compiler from isText]
  rfl

/--
With settings that are texts, a machine processes a block as it is processed without limits, when
its stack is large enough for the pattern and the font scales are short.
-/
theorem processWithin_eq_ok_iff
    {block : Block}
    (sharesTexts : config.sharesTexts = true)
    (textEntries : config.hasTextEntries = true) :
    (block.processWithin stack config).result = .ok processed ↔
      Redaction.overflows stack (block.parse config).removePattern = false ∧
        config.hasShortScales = true ∧ (block.process config).result = .ok processed := by
  have limited : (block.processWithin stack config).result = .ok processed ↔
      ∃ fragment,
        (Link.fragmentWithin stack config (block.parse config).request).result = .ok fragment ∧
          (block.parse config).withFragment config fragment = processed := by
    simp only [processWithin, ParsedBlock.linkWithin]
    cases (Link.fragmentWithin stack config (block.parse config).request).result with
    | error cause => simp [Except.map]
    | ok fragment => simp [Except.map]
  have unlimited : (block.process config).result = .ok processed ↔
      ∃ made, (Link.payload config (block.parse config).request).result = .ok made ∧
        (block.parse config).withFragment config (Link.encode made) = processed := by
    simp only [process, ParsedBlock.link, Link.fragment]
    cases (Link.payload config (block.parse config).request).result with
    | error cause => simp [Except.map]
    | ok made => simp [Except.map]
  simp only [limited, unlimited, Link.fragmentWithin_eq_ok_iff]
  constructor
  · rintro ⟨_, ⟨fits, made, isMade, short, rfl⟩, isProcessed⟩
    rw [hasShortNumerals_payload sharesTexts textEntries isMade] at short
    exact ⟨fits, short, made, isMade, isProcessed⟩
  · rintro ⟨fits, short, made, isMade, isProcessed⟩
    rw [← hasShortNumerals_payload sharesTexts textEntries isMade] at short
    exact ⟨_, ⟨fits, made, isMade, short, rfl⟩, isProcessed⟩

/-- What keeps a machine from processing a block whose settings are texts. -/
theorem exists_processWithin_iff
    (block : Block)
    (sharesTexts : config.sharesTexts = true)
    (textEntries : config.hasTextEntries = true) :
    (∃ processed, (block.processWithin stack config).result = .ok processed) ↔
      config.hasShortScales = true ∧
        ∀ pattern, (block.parse config).removePattern = .string pattern →
          stack.overflows pattern.toList = false ∧
            ∀ cause, ¬ Redaction.Unusable pattern cause := by
  have fits : Redaction.overflows stack (block.parse config).removePattern = false ↔
      ∀ pattern, (block.parse config).removePattern = .string pattern →
        stack.overflows pattern.toList = false := by
    cases (block.parse config).removePattern <;> simp [Redaction.overflows]
  simp only [processWithin_eq_ok_iff sharesTexts textEntries, exists_and_left,
    exists_process_iff block sharesTexts textEntries, fits]
  constructor
  · rintro ⟨fitting, short, usable⟩
    exact ⟨short, fun pattern has =>
      ⟨fitting pattern has, fun cause => usable pattern cause has⟩⟩
  · rintro ⟨short, usable⟩
    exact ⟨fun pattern has => (usable pattern has).1, short, fun pattern cause has =>
      (usable pattern has).2 cause⟩

/-- What a pass returns on a machine is what it returns without limits. -/
theorem processAll_of_within
    {blocks : List Block}
    {processed : List ProcessedBlock}
    (sharesTexts : config.sharesTexts = true)
    (textEntries : config.hasTextEntries = true)
    (returned : (processAllWithin stack config blocks).result = .ok processed) :
    (processAll config blocks).result = .ok processed := by
  rw [processAllWithin, pass_eq_ok_iff] at returned
  rw [processAll, pass_eq_ok_iff]
  exact returned.imp fun _ _ isProcessed =>
    ((processWithin_eq_ok_iff sharesTexts textEntries).mp isProcessed).2.2

/--
What removal patterns do on a machine with limits, for settings that are texts. A redaction uses
a pattern, or reports once that it is refused and returns the source as it is, or it fails: then
the pattern asks for too much, or has more opening brackets than there is room for. A pass
returns exactly when the font scales can be written and no block has a pattern of the last two
kinds, so it does when they are short, no pattern asks for too much and all have few opening
brackets. What it returns is what it returns without limits, and one processed block for each
block, in their order.
-/
theorem processAll_returns_iff
    (stack : Stack '(')
    (entries : Json.Entries)
    (blocks : List Block)
    (textEntries : (Config.ofEntries entries).1.hasTextEntries = true) :
    let config := (Config.ofEntries entries).1
    let returned := (processAllWithin stack config blocks).result
    let hasPattern (block : Block) (pattern : String) : Prop :=
      (block.parse config).removePattern = .string pattern
    (∀ source pattern : String,
      (∃ program text,
        Pattern.Program.compile pattern.toList = .ok program ∧
          Redaction.redactWithin stack source (.string pattern) = ⟨[], .ok text⟩) ∨
        (∃ refusal,
          Pattern.Program.compile pattern.toList = .error (.refused refusal) ∧
            Redaction.redactWithin stack source (.string pattern) =
              ⟨[.badPattern pattern refusal], .ok source⟩) ∨
        (∃ cause,
          Redaction.Unusable pattern cause ∧
            Pattern.Excess pattern.toList cause ∧
            Redaction.redactWithin stack source (.string pattern) =
              ⟨[], .error (.failed (.unusable pattern cause))⟩) ∨
        (stack.overflows pattern.toList = true ∧
          stack.room < pattern.toList.countP opensLevel ∧
          Redaction.redactWithin stack source (.string pattern) =
            ⟨[], .error .stackOverflow⟩)) ∧
      ((∃ processed, returned = .ok processed) ↔
        ∀ block ∈ blocks, config.hasShortScales = true ∧
          ∀ pattern, hasPattern block pattern →
            stack.overflows pattern.toList = false ∧
              ∀ cause, ¬ Redaction.Unusable pattern cause) ∧
      (config.hasShortScales = true →
        (∀ block ∈ blocks, ∀ pattern, hasPattern block pattern →
          pattern.toList.countP opensLevel ≤ stack.room ∧
            ∀ cause, ¬ Pattern.Excess pattern.toList cause) →
        ∃ processed, returned = .ok processed) ∧
      (∀ processed, returned = .ok processed →
        (processAll config blocks).result = .ok processed ∧
          processed.map ProcessedBlock.parsed = blocks.map fun block => block.parse config) := by
  intro config returned hasPattern
  have sharesTexts : config.sharesTexts = true := Config.sharesTexts_ofEntries entries
  have returns : (∃ processed, returned = .ok processed) ↔
      ∀ block ∈ blocks, config.hasShortScales = true ∧
        ∀ pattern, hasPattern block pattern →
          stack.overflows pattern.toList = false ∧
            ∀ cause, ¬ Redaction.Unusable pattern cause :=
    exists_pass_iff.trans (forall₂_congr fun block _ =>
      exists_processWithin_iff block sharesTexts textEntries)
  refine ⟨Redaction.redactWithin_cases stack, returns, fun short modest => ?_, ?_⟩
  · refine returns.mpr fun block member => ⟨short, fun pattern has => ?_⟩
    obtain ⟨few, noExcess⟩ := modest block member pattern has
    exact ⟨stack.fits _ few, fun cause unusable => noExcess cause unusable.excess⟩
  · intro processed isReturned
    have unlimited := processAll_of_within sharesTexts textEntries isReturned
    exact ⟨unlimited, processAll_parsed unlimited⟩

/--
On a machine with room for a hundred brackets, a block with a refused pattern is processed. A
pass over it fails when a count is too large by language in another block, when the pattern of
another block opens a bracket too many, and when a font scale is a digit too long.
-/
theorem processAll_returns_iff_huge :
    let stack := Stack.counting '(' rfl 100
    let entries : Json.Entries :=
      [("defaultRemoveRegex", .object [("rust", .string "a\x7b4294967295\x7d")])]
    let config := (Config.ofEntries entries).1
    let scaled : Json.Entries := [("editorFontScale", .int (10 ^ Numeral.maxDigits))]
    let tooLong := (Config.ofEntries scaled).1
    let nesting := String.ofList (List.replicate 101 '(')
    let block : Block := ⟨"int a;", none, none, none, some "["⟩
    let huge : Block := ⟨"let a;", some "rust", none, none, none⟩
    let deep : Block := ⟨"int a;", none, none, none, some nesting⟩
    config.hasTextEntries = true ∧
      tooLong.hasTextEntries = true ∧
      (∃ processed, (processAllWithin stack config [block]).result = .ok processed) ∧
      (¬ ∃ processed, (processAllWithin stack config [block, huge]).result = .ok processed) ∧
      (¬ ∃ processed, (processAllWithin stack config [block, deep]).result = .ok processed) ∧
      ¬ ∃ processed, (processAllWithin stack tooLong [block]).result = .ok processed := by
  intro stack entries config scaled tooLong nesting block huge deep
  have textEntries : config.hasTextEntries = true := by decide
  have scaledTexts : tooLong.hasTextEntries = true := rfl
  have refused : Pattern.Program.compile "[".toList =
      .error (.refused ⟨.openSet, some 0⟩) := by
    decide +kernel
  refine ⟨textEntries, scaledTexts, ?_, fun returns => ?_, fun returns => ?_, fun returns => ?_⟩
  · refine (processAll_returns_iff stack entries [block] textEntries).2.1.mpr ?_
    intro other member
    obtain rfl := List.mem_singleton.mp member
    refine ⟨by decide, fun pattern has => ?_⟩
    cases has
    refine ⟨by decide, fun cause unusable => ?_⟩
    rw [unusable.1] at refused
    exact unusable.2 _ (Except.error.inj refused)
  · have usable := (processAll_returns_iff stack entries [block, huge] textEntries).2.1.mp
      returns huge (by simp)
    exact (usable.2 _ rfl).2 .hugeRepeat unusable_count
  · have usable := (processAll_returns_iff stack entries [block, deep] textEntries).2.1.mp
      returns deep (by simp)
    have overflows : stack.overflows nesting.toList = true := by
      refine stack.nests _ ?_
      rw [String.toList_ofList, List.takeWhile_replicate]
      decide
    rw [(usable.2 nesting rfl).1] at overflows
    contradiction
  · have usable := (processAll_returns_iff stack scaled [block] scaledTexts).2.1.mp
      returns block (by simp)
    have short : Scale.isShort (.whole (10 ^ Numeral.maxDigits)) = true :=
      (Bool.and_eq_true_iff.mp usable.1).1
    rw [Scale.isShort_whole_iff, Int.natAbs_pow, show (10 : Int).natAbs = 10 from rfl] at short
    exact Nat.lt_irrefl _ short

/-- Not every pattern is used or reported: a count of repetitions may be too large. -/
theorem not_forall_redact_returns :
    ¬ ∀ source pattern : String,
      ∃ text, (Redaction.redact source (.string pattern)).result = .ok text := by
  intro always
  have returns := always "int a;" "a\x7b4294967295\x7d"
  exact (Redaction.exists_redact_iff rfl).mp returns _ .hugeRepeat rfl unusable_count

end Block

end CodeDeck
