import CodeDeck.Proofs.Block.Specialized
import CodeDeck.Proofs.Config.Merge

namespace CodeDeck

/-!
# Entries of the wrong type

An override of the wrong type is left out, so what all languages share is a
text. Inside of an override by language nothing is checked: an entry that
counts as given and is no text gets into every block of its language that
leaves the setting open. That is the only way in, for every form that the
overrides can have.
-/

namespace Setting

variable {test : Json → Bool}

/--
The value of a setting passes a test that all texts pass, unless an entry for the language is
given and fails it.
-/
theorem passes_resolve_or_entry
    {setting : Option Setting}
    {default : Json}
    (language : String)
    (textsPass : ∀ text, test (.string text) = true)
    (sharedText : ∀ given ∈ setting, given.sharesText = true)
    (textDefault : default.isText = true) :
    test (resolve setting language default) = true ∨
      ∃ mapping value,
        setting = some (.perLanguage mapping) ∧
          givenValue? mapping language = some value ∧
          test value = false := by
  obtain ⟨defaultText, rfl⟩ := Json.isText_iff.mp textDefault
  match setting with
  | none => exact .inl (textsPass defaultText)
  | some (.shared value) =>
      obtain ⟨text, rfl⟩ := Json.isText_iff.mp (sharedText _ rfl)
      exact .inl (textsPass text)
  | some (.perLanguage mapping) =>
      rw [resolve, entry_eq]
      cases given : givenValue? mapping language with
      | none => exact .inl (textsPass defaultText)
      | some value =>
          cases passes : test value with
          | true => exact .inl passes
          | false => exact .inr ⟨mapping, value, rfl, given, passes⟩

/-- An entry that counts is the value for its language, and it is given. -/
theorem resolve_of_givenValue?
    {mapping : Json.Entries}
    {language : String}
    {value : Json}
    (default : Json)
    (given : givenValue? mapping language = some value) :
    resolve (some (.perLanguage mapping)) language default = value ∧ value.isGiven = true := by
  constructor
  · rw [resolve, entry_eq, given]
    rfl
  · exact (Option.filter_eq_some_iff.mp given).2

end Setting

namespace Config

/-- An override by language whose entry for a language is given but fails a test. -/
def FailingEntry
    (test : Json → Bool)
    (entries : Json.Entries)
    (field : Field)
    (language : String) : Prop :=
  ∃ mapping value,
    Json.Entries.get? entries field.key = some (.object mapping) ∧
      Setting.givenValue? mapping language = some value ∧
      test value = false

/-- An override by language whose entry for a language is given but is no text. -/
def StrayEntry : Json.Entries → Field → String → Prop :=
  FailingEntry Json.isText

/-- The language that overrides set for blocks with none of their own. -/
def languageUnder (entries : Json.Entries) : String :=
  match Json.Entries.get? entries "defaultLanguage" with
  | some (.string language) => language
  | _ => "c++"

/-- Only an object is taken for a setting with entries by language. -/
theorem eq_object_of_ofJson?
    {field : Field}
    {value : Json}
    {mapping : Json.Entries}
    (typed : Field.Value.ofJson? field value = some (.setting (some (.perLanguage mapping)))) :
    value = .object mapping := by
  cases field
  all_goals
    cases value
    all_goals
      cases typed
      try rfl

/-- No default has entries by language. -/
theorem get_default_ne
    (field : Field)
    (mapping : Json.Entries) :
    default.get field ≠ .setting (some (.perLanguage mapping)) := by
  intro same
  cases field
  all_goals cases same

variable {entries : Json.Entries} {field : Field} {setting : Option Setting}

/-- A configuration has the language that the overrides set. -/
theorem defaultLanguage_ofEntries
    (distinct : (entries.map Prod.fst).Nodup) :
    (ofEntries entries).1.defaultLanguage = languageUnder entries := by
  apply Field.Value.text.inj
  refine (get_merge default .defaultLanguage distinct).trans ?_
  rw [languageUnder, Field.key]
  cases Json.Entries.get? entries "defaultLanguage" with
  | none => rfl
  | some value =>
      cases value
      all_goals rfl

/-- A setting has entries by language exactly when its override is an object, with these entries. -/
theorem eq_perLanguage_iff
    {mapping : Json.Entries}
    (distinct : (entries.map Prod.fst).Nodup)
    (held : (ofEntries entries).1.get field = .setting setting) :
    setting = some (.perLanguage mapping) ↔
      Json.Entries.get? entries field.key = some (.object mapping) := by
  have merged := held.symm.trans (get_merge default field distinct)
  constructor
  · rintro rfl
    cases found : Json.Entries.get? entries field.key with
    | none =>
        rw [found] at merged
        exact absurd merged.symm (get_default_ne field mapping)
    | some value =>
        rw [found, Option.bind_some] at merged
        cases typed : Field.Value.ofJson? field value with
        | none =>
            rw [typed] at merged
            exact absurd merged.symm (get_default_ne field mapping)
        | some given =>
            rw [typed, Option.getD_some] at merged
            rw [eq_object_of_ofJson? (typed.trans (congrArg some merged.symm))]
  · intro found
    rw [found] at merged
    cases field
    all_goals
      cases merged
      try rfl

/-- The value for a language passes a test for texts exactly when no entry for it fails. -/
theorem passes_resolve_iff
    {test : Json → Bool}
    (field : Field)
    {default : Json}
    (language : String)
    (textsPass : ∀ text, test (.string text) = true)
    (distinct : (entries.map Prod.fst).Nodup)
    (held : (ofEntries entries).1.get field = .setting setting)
    (sharedText : ∀ given ∈ setting, given.sharesText = true)
    (textDefault : default.isText = true) :
    test (Setting.resolve setting language default) = true ↔
      ¬ FailingEntry test entries field language := by
  constructor
  · rintro passes ⟨mapping, value, found, given, fails⟩
    rw [(eq_perLanguage_iff distinct held).mpr found,
      (Setting.resolve_of_givenValue? default given).1, fails] at passes
    contradiction
  · intro noFailure
    rcases Setting.passes_resolve_or_entry language textsPass sharedText textDefault with
      passes | ⟨mapping, value, byLanguage, given, fails⟩
    · exact passes
    · have found := (eq_perLanguage_iff distinct held).mp byLanguage
      exact absurd ⟨mapping, value, found, given, fails⟩ noFailure

/-- A setting that is no text for a language is given there. -/
theorem isGiven_resolve_of_not_isText
    {default : Json}
    {language : String}
    (sharedText : ∀ given ∈ setting, given.sharesText = true)
    (textDefault : default.isText = true)
    (noText : (Setting.resolve setting language default).isText = false) :
    (Setting.resolve setting language default).isGiven = true := by
  have textsPass : ∀ text, (Json.string text).isText = true := fun _ => rfl
  rcases Setting.passes_resolve_or_entry language textsPass sharedText textDefault with
    isText | ⟨mapping, value, rfl, given, -⟩
  · rw [noText] at isText
    contradiction
  · obtain ⟨same, isGiven⟩ := Setting.resolve_of_givenValue? default given
    rw [same, isGiven]

end Config

namespace Json

/-- Whether a value is a removal pattern as it should be: none, or a text that is not empty. -/
def isPattern : Json → Bool
  | .null => true
  | .string text => text != ""
  | _ => false

/-- A value that is given unless it is a text is, made null when empty, a pattern if a text. -/
theorem isPattern_orElse_null_iff
    {value : Json}
    (given : value.isText = false → value.isGiven = true) :
    (value.orElse .null).isPattern = true ↔ value.isText = true := by
  rw [orElse]
  cases value with
  | string text =>
      by_cases empty : text = ""
      · simp [isGiven, isText, isPattern, empty]
      · simp [isGiven, isText, isPattern, empty]
  | null | bool _ | int _ | float _ | array _ | object _ =>
      rw [if_pos (given rfl)]
      simp_all [isPattern, isText, isGiven]

end Json

namespace Block

/-- Whether a block leaves a setting to the configuration. -/
def leavesOpen : Option String → Bool
  | none => true
  | some value => value == ""

theorem languageIn_eq
    (block : Block)
    (config : Config) :
    block.languageIn config =
      if leavesOpen block.language then config.defaultLanguage else block.language.getD "" := by
  rw [languageIn]
  cases block.language with
  | none => rfl
  | some language => simp [leavesOpen]

theorem ownOr_eq
    (own : Option String)
    (other : Json) :
    ownOr own other = if leavesOpen own then other else .string (own.getD "") := by
  cases own with
  | none => rfl
  | some value => simp [ownOr, leavesOpen]

/-- A setting of a block passes a test for texts when it is the block's own, or when it does. -/
theorem passes_ownOr_iff
    {test : Json → Bool}
    (own : Option String)
    (other : Json)
    (textsPass : ∀ text, test (.string text) = true) :
    test (ownOr own other) = true ↔ (leavesOpen own = true → test other = true) := by
  rw [ownOr_eq]
  split
  · rename_i isOpen
    simp [isOpen]
  · rename_i isOwn
    simp [isOwn, textsPass]

/--
Which settings of a block are texts. The language always is: the block's own, or else the one
that the overrides set, where one of the wrong type counts for nothing. The compiler, the
options and the removal pattern are texts, and the pattern one that is not empty or none,
exactly when the block has its own, or when the overrides have no entry for the block's
language that is given and no text.
-/
theorem parse_isText_iff
    (entries : Json.Entries)
    (block : Block)
    (distinct : (entries.map Prod.fst).Nodup) :
    let parsed := block.parse (Config.ofEntries entries).1
    (parsed.language =
        if leavesOpen block.language then Config.languageUnder entries
        else block.language.getD "") ∧
      (parsed.compiler.isText = true ↔
        (leavesOpen block.compiler = true →
          ¬ Config.StrayEntry entries .defaultCompiler parsed.language)) ∧
      (parsed.options.isText = true ↔
        (leavesOpen block.options = true →
          ¬ Config.StrayEntry entries .defaultOptions parsed.language)) ∧
      (parsed.removePattern.isPattern = true ↔
        (leavesOpen block.removePattern = true →
          ¬ Config.StrayEntry entries .defaultRemovePattern parsed.language)) := by
  intro parsed
  let config := (Config.ofEntries entries).1
  have sharesTexts := Config.sharesTexts_iff.mp (Config.sharesTexts_ofEntries entries)
  have compilerShared (given) (member : given ∈ config.defaultCompiler) : given.sharesText = true :=
    sharesTexts given (Config.mem_settings.mpr (.inl member))
  have optionsShared (given) (member : given ∈ config.defaultOptions) : given.sharesText = true :=
    sharesTexts given (Config.mem_settings.mpr (.inr (.inl member)))
  have patternShared (given) (member : given ∈ config.defaultRemovePattern) :
      given.sharesText = true :=
    sharesTexts given (Config.mem_settings.mpr (.inr (.inr (.inr member))))
  refine ⟨?_, ?_, ?_, ?_⟩
  · rw [← Config.defaultLanguage_ofEntries distinct]
    exact languageIn_eq block config
  · exact (passes_ownOr_iff _ _ fun _ => rfl).trans (imp_congr_right fun _ =>
      Config.passes_resolve_iff .defaultCompiler _ (fun _ => rfl) distinct rfl compilerShared rfl)
  · exact (passes_ownOr_iff _ _ fun _ => rfl).trans (imp_congr_right fun _ =>
      Config.passes_resolve_iff .defaultOptions _ (fun _ => rfl) distinct rfl optionsShared rfl)
  · have givenPattern : (ownOr block.removePattern
        (Setting.resolve config.defaultRemovePattern parsed.language (.string ""))).isText = false →
        (ownOr block.removePattern
          (Setting.resolve config.defaultRemovePattern parsed.language (.string ""))).isGiven =
            true := by
      rw [ownOr_eq]
      split
      · exact Config.isGiven_resolve_of_not_isText patternShared rfl
      · simp [Json.isText]
    exact (Json.isPattern_orElse_null_iff givenPattern).trans ((passes_ownOr_iff _ _ fun _ => rfl).trans
      (imp_congr_right fun _ =>
        Config.passes_resolve_iff .defaultRemovePattern _ (fun _ => rfl) distinct rfl patternShared rfl))

/--
A compiler by language that is a number for one language and a text for another: the text is
passed on to blocks in its language, and so is the number.
-/
theorem parse_isText_iff_mixed :
    let entries : Json.Entries := [
      ("defaultLanguage", .int 5),
      ("defaultCompiler", .object [("rust", .int 142), ("c++", .string "clang")])]
    let block : Block := ⟨"int a;", none, none, none, none⟩
    (entries.map Prod.fst).Nodup ∧
      (block.parse (Config.ofEntries entries).1).language = "c++" ∧
      (block.parse (Config.ofEntries entries).1).compiler.isText = true ∧
      ¬ (parse { block with language := some "rust" }
        (Config.ofEntries entries).1).compiler.isText = true := by
  intro entries block
  have distinct : (entries.map Prod.fst).Nodup := by decide
  obtain ⟨language, compiler, -, -⟩ := parse_isText_iff entries block distinct
  obtain ⟨-, otherCompiler, -, -⟩ :=
    parse_isText_iff entries { block with language := some "rust" } distinct
  refine ⟨distinct, language, compiler.mpr fun _ => ?_, fun isText => ?_⟩
  · rintro ⟨mapping, value, found, given, noText⟩
    cases found
    cases given
    contradiction
  · exact otherCompiler.mp isText rfl ⟨_, .int 142, rfl, rfl, rfl⟩

/-- Not every setting of every block is a text: a number in an override by language is passed on. -/
theorem not_forall_settings_isText :
    ¬ ∀ (entries : Json.Entries) (block : Block),
      (entries.map Prod.fst).Nodup →
        let parsed := block.parse (Config.ofEntries entries).1
        parsed.compiler.isText = true ∧
          parsed.options.isText = true ∧
          parsed.removePattern.isPattern = true := by
  intro always
  have isText := (always [("defaultCompiler", .object [("c++", .int 142)])]
    ⟨"int a;", none, none, none, none⟩ (by decide)).1
  revert isText
  decide

end Block

end CodeDeck
