import CodeDeck.Block.Processed
import CodeDeck.Proofs.Block.ParsedTexts

namespace CodeDeck

/-!
# Settings for one language

A block has one language, and of the settings by language only the values for
that one count. So the settings can be replaced by values that all languages
share, and entries for other languages, or empty ones, can be put in and taken
out. What has to be shown is that both places where a setting is looked up see
the same value: where the block is parsed, and where the options of its link
are joined.
-/

namespace Setting

/-- The value of a setting for one language, as a setting that all languages share. -/
def fixedFor (setting : Option Setting) (language : String) (default : Json) : Option Setting :=
  some (.shared (resolve setting language default))

/-- The entry for a language, unless it is empty. -/
def givenValue? (entries : Json.Entries) (language : String) : Option Json :=
  (Json.Entries.get? entries language).filter Json.isGiven

/--
Settings that are the same for a language: equal ones, or two with entries of which only those
that do not count for the language differ, which are the empty ones and those of other
languages.
-/
inductive Agree (language : String) : Option Setting → Option Setting → Prop where
  | same (setting : Option Setting) :
      Agree language setting setting
  | byLanguage
      {first second : Json.Entries} :
      givenValue? first language = givenValue? second language →
      Agree language (some (.perLanguage first)) (some (.perLanguage second))

/-- Only an entry that is given has a say in the value for a language. -/
theorem entry_eq
    (entries : Json.Entries)
    (language : String)
    (default : Json) :
    entry entries language default = (givenValue? entries language).getD default := by
  rw [entry, givenValue?]
  cases Json.Entries.get? entries language with
  | none => rfl
  | some value =>
      cases given : value.isGiven with
      | false => simp [Json.orElse, Option.filter, given]
      | true => simp [Json.orElse, Option.filter, given]

theorem Agree.resolve_eq
    {language : String}
    {first second : Option Setting}
    (agree : Agree language first second)
    (default : Json) :
    resolve first language default = resolve second language default := by
  cases agree with
  | same setting => rfl
  | byLanguage sameEntry => simp only [resolve, entry_eq, sameEntry]

/-- A text that has been fixed for a language is the value that it was before. -/
theorem resolve_fixedFor
    {setting : Option Setting}
    {language : String}
    {default : Json}
    (isText : (resolve setting language default).isText = true) :
    resolve (fixedFor setting language default) language default =
      resolve setting language default := by
  obtain ⟨text, found⟩ := Json.isText_iff.mp isText
  rw [fixedFor, found, resolve_shared_string]

end Setting

namespace Config

/-- A configuration whose settings by language are those for one language. -/
def specializedTo (config : Config) (language : String) : Config :=
  { config with
    defaultCompiler := Setting.fixedFor config.defaultCompiler language (.string "")
    defaultOptions := Setting.fixedFor config.defaultOptions language Block.fallbackOptions
    additionalOptions := Setting.fixedFor config.additionalOptions language (.string "")
    defaultRemovePattern :=
      Setting.fixedFor config.defaultRemovePattern language (.string "") }

/-- A configuration with other settings by language. -/
def withSettingsOf (config other : Config) : Config :=
  { config with
    defaultCompiler := other.defaultCompiler
    defaultOptions := other.defaultOptions
    additionalOptions := other.additionalOptions
    defaultRemovePattern := other.defaultRemovePattern }

/-- Configurations whose settings by language are the same for one of them, and which agree in
everything else. -/
structure AgreeFor (language : String) (first second : Config) : Prop where
  compiler : Setting.Agree language first.defaultCompiler second.defaultCompiler
  options : Setting.Agree language first.defaultOptions second.defaultOptions
  additional : Setting.Agree language first.additionalOptions second.additionalOptions
  removePattern : Setting.Agree language first.defaultRemovePattern second.defaultRemovePattern
  others : second = first.withSettingsOf second

/-- Configurations with the same values for one language, and which agree in everything else. -/
structure SameFor (language : String) (first second : Config) : Prop where
  compiler :
    Setting.resolve first.defaultCompiler language (.string "") =
      Setting.resolve second.defaultCompiler language (.string "")
  options :
    Setting.resolve first.defaultOptions language Block.fallbackOptions =
      Setting.resolve second.defaultOptions language Block.fallbackOptions
  additional :
    Setting.resolve first.additionalOptions language (.string "") =
      Setting.resolve second.additionalOptions language (.string "")
  removePattern :
    Setting.resolve first.defaultRemovePattern language (.string "") =
      Setting.resolve second.defaultRemovePattern language (.string "")
  others : second = first.withSettingsOf second

theorem AgreeFor.sameFor
    {language : String}
    {first second : Config}
    (agree : AgreeFor language first second) :
    SameFor language first second where
  compiler := agree.compiler.resolve_eq _
  options := agree.options.resolve_eq _
  additional := agree.additional.resolve_eq _
  removePattern := agree.removePattern.resolve_eq _
  others := agree.others

/-- With settings that are texts, a configuration for one language has its values for it. -/
theorem sameFor_specializedTo
    {config : Config}
    (language : String)
    (sharesTexts : config.sharesTexts = true)
    (textEntries : config.hasTextEntries = true) :
    SameFor language config (config.specializedTo language) := by
  have isText {setting : Option Setting} {default : Json}
      (listed : ∀ given ∈ setting, given ∈ config.settings)
      (textDefault : default.isText = true) :
      (Setting.resolve setting language default).isText = true :=
    Block.isText_default language sharesTexts textEntries listed textDefault
  refine ⟨(Setting.resolve_fixedFor (isText ?_ rfl)).symm,
    (Setting.resolve_fixedFor (isText ?_ rfl)).symm,
    (Setting.resolve_fixedFor (isText ?_ rfl)).symm,
    (Setting.resolve_fixedFor (isText ?_ rfl)).symm, rfl⟩
  · exact fun _ member => mem_settings.mpr (.inl member)
  · exact fun _ member => mem_settings.mpr (.inr (.inl member))
  · exact fun _ member => mem_settings.mpr (.inr (.inr (.inl member)))
  · exact fun _ member => mem_settings.mpr (.inr (.inr (.inr member)))

end Config

namespace Block

variable {first second : Config} {block : Block}

/-- Parsing looks at no value but those for the language of the block. -/
theorem parse_eq_of_sameFor
    (same : Config.SameFor (block.languageIn first) first second) :
    block.parse second = block.parse first := by
  have sameLanguage : block.languageIn second = block.languageIn first := by
    rw [same.others]
    rfl
  have sameLines : block.classified second = block.classified first := by
    rw [same.others]
    rfl
  have sameUndent : second.undent = first.undent := by
    rw [same.others]
    rfl
  simp only [parse, sameLanguage, sameLines, sameUndent, same.compiler, same.options,
    same.removePattern]

/-- The options of a link look at no additional ones but those for its language. -/
theorem optionsFor_eq_of_sameFor
    {language : String}
    (same : Config.SameFor language first second)
    (options : Option Setting) :
    Link.optionsFor second options (.string language) =
      Link.optionsFor first options (.string language) := by
  simp only [Link.optionsFor, Setting.resolveFor_string, same.additional]

/-- A link is the same under configurations with the same values for its language. -/
theorem link_eq_of_sameFor
    {parsed : ParsedBlock}
    (same : Config.SameFor parsed.language first second) :
    parsed.link second = parsed.link first := by
  have sameOptions :=
    optionsFor_eq_of_sameFor same parsed.request.options
  have sameEditor (source : String) :
      Link.editorPane second source = Link.editorPane first source := by
    rw [same.others]
    rfl
  have sameCompiler (options : String) :
      Link.compilerPane second options = Link.compilerPane first options := by
    rw [same.others]
    rfl
  have sameLinked : parsed.withFragment second = parsed.withFragment first := by
    rw [same.others]
    rfl
  have samePayload : Link.payload second parsed.request = Link.payload first parsed.request := by
    simp only [Link.payload, sameEditor, sameCompiler]
    rw [show parsed.request.language = .string parsed.language from rfl, sameOptions]
  simp only [ParsedBlock.link, Link.fragment, samePayload, sameLinked]

/-- A block is processed alike under configurations with the same values for its language. -/
theorem process_eq_of_sameFor
    (same : Config.SameFor (block.languageIn first) first second) :
    block.process second = block.process first := by
  have sameReports : block.reports second = block.reports first := by
    rw [same.others]
    rfl
  have sameLink : (block.parse first).link second = (block.parse first).link first :=
    link_eq_of_sameFor same
  rw [process, process, parse_eq_of_sameFor same, sameReports, sameLink]

/-- Without options of its own a block has the configured ones. -/
theorem parse_options_of_not_given
    {config : Config}
    (notGiven : ∀ own ∈ block.options, own = "") :
    (block.parse config).options =
      Setting.resolve config.defaultOptions (block.languageIn config) fallbackOptions := by
  simp only [parse]
  cases options : block.options with
  | none => rfl
  | some own =>
      rw [ownOr, if_pos (notGiven own options)]

/--
A block is processed as under the configuration for its language: with settings that are
texts, each setting by language can be replaced by its value for the language of the block,
shared by all languages, and the processed block, or the failure, and the reports stay the same.
They also stay the same when entries for other languages or empty entries are changed. So an
empty entry is no entry, while an empty text for all languages counts: where the one leaves the
built-in options of a block in force, the other takes them away.
-/
theorem process_specializedTo
    (entries : Json.Entries)
    (language : String)
    (block : Block)
    (textEntries : (Config.ofEntries entries).1.hasTextEntries = true)
    (spoken : block.languageIn (Config.ofEntries entries).1 = language) :
    let config := (Config.ofEntries entries).1
    block.process (config.specializedTo language) = block.process config ∧
      (∀ other : Config,
        Config.AgreeFor language config other → block.process other = block.process config) ∧
      ((∀ own ∈ block.options, own = "") →
        (block.parse { config with defaultOptions := some (.shared (.string "")) }).options =
            .string "" ∧
          ∀ byLanguage : Json.Entries,
            Setting.givenValue? byLanguage language = none →
              (block.parse
                  { config with defaultOptions := some (.perLanguage byLanguage) }).options =
                fallbackOptions) := by
  subst spoken
  intro config
  have sharesTexts : config.sharesTexts = true := Config.sharesTexts_ofEntries entries
  refine ⟨?_, ?_, ?_⟩
  · exact process_eq_of_sameFor (Config.sameFor_specializedTo _ sharesTexts textEntries)
  · intro other agree
    exact process_eq_of_sameFor agree.sameFor
  · intro notGiven
    refine ⟨?_, ?_⟩
    · rw [parse_options_of_not_given notGiven, Setting.resolve_shared_string]
    · intro byLanguage absent
      have sameLanguage :
          block.languageIn { config with defaultOptions := some (.perLanguage byLanguage) } =
            block.languageIn config := rfl
      rw [parse_options_of_not_given notGiven, Setting.resolve, Setting.entry_eq, sameLanguage,
        absent]
      rfl

/--
A block in a language with an empty entry for its options and one for its compiler, while the
other language of the settings is changed.
-/
theorem process_specializedTo_mixed :
    let entries : Json.Entries := [
      ("defaultCompiler", .object [("c++", .string "clang1700"), ("rust", .string "r1810")]),
      ("defaultCompilerOptions", .object [("rust", .string ""), ("c++", .string "-O3")]),
      ("additionalCompilerOptions", .string "")]
    let config := (Config.ofEntries entries).1
    let block : Block := {
      text := "fn main() {}"
      language := some "rust"
      compiler := none
      options := some ""
      removePattern := none }
    let other : Config := {
      config with
        defaultCompiler := some (.perLanguage [("rust", .string "r1810"), ("c", .string "")])
        defaultOptions := some (.perLanguage []) }
    config.hasTextEntries = true ∧
      block.languageIn config = "rust" ∧
      (config.specializedTo "rust").defaultOptions = some (.shared (.string "-O1")) ∧
      (config.specializedTo "rust").defaultCompiler = some (.shared (.string "r1810")) ∧
      block.process (config.specializedTo "rust") = block.process config ∧
      block.process other = block.process config ∧
      (block.parse { config with defaultOptions := some (.shared (.string "")) }).options =
        .string "" := by
  intro entries config block other
  have textEntries : config.hasTextEntries = true := by decide
  have spoken : block.languageIn config = "rust" := by decide
  have agree : Config.AgreeFor "rust" config other :=
    ⟨.byLanguage rfl, .byLanguage rfl, .same _, .same _, rfl⟩
  obtain ⟨specialized, changed, empty⟩ :=
    process_specializedTo entries "rust" block textEntries spoken
  have notGiven : ∀ own ∈ block.options, own = "" := by
    rintro own ⟨⟩
    rfl
  exact ⟨textEntries, spoken, rfl, rfl, specialized, changed other agree, (empty notGiven).1⟩

end Block

end CodeDeck
