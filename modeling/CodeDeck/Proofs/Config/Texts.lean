import CodeDeck.Config

namespace CodeDeck

/-!
# Settings that are texts

Overrides never make anything but a text a setting that all languages share:
this holds of the defaults, and every override keeps it. When the entries by
language are texts too, a setting with a text as default always has a text as
its value.
-/

/-- Whether a value is a text. -/
def Json.isText : Json → Bool
  | .string _ => true
  | _ => false

theorem Json.isText_iff
    {value : Json} :
    value.isText = true ↔ ∃ text, value = .string text := by
  cases value <;> simp [isText]

namespace Setting

/-- Whether a value shared by all languages is a text. -/
def sharesText : Setting → Bool
  | .shared value => value.isText
  | .perLanguage _ => true

/-- Whether all entries by language are texts. -/
def hasTextEntries : Setting → Bool
  | .shared _ => true
  | .perLanguage entries => entries.all fun entry => entry.2.isText

/-- The entry for a language is a text when all entries and the default are. -/
theorem isText_entry
    {entries : Json.Entries}
    {default : Json}
    (language : String)
    (textEntries : (entries.all fun entry => entry.2.isText) = true)
    (textDefault : default.isText = true) :
    (entry entries language default).isText = true := by
  rw [entry]
  cases found : Json.Entries.get? entries language with
  | none => exact textDefault
  | some value =>
      obtain ⟨pair, located, rfl⟩ := Option.map_eq_some_iff.mp found
      have isText := List.all_eq_true.mp textEntries pair (List.mem_of_find?_eq_some located)
      simp only [Json.orElse]
      split
      · exact isText
      · exact textDefault

/-- A setting that holds nothing but texts has a text as its value for every language. -/
theorem isText_resolve
    {setting : Option Setting}
    {default : Json}
    (language : String)
    (sharedText : ∀ given ∈ setting, given.sharesText = true)
    (textEntries : ∀ given ∈ setting, given.hasTextEntries = true)
    (textDefault : default.isText = true) :
    (resolve setting language default).isText = true := by
  match setting with
  | none => exact textDefault
  | some (.perLanguage entries) =>
      exact isText_entry language (textEntries _ rfl) textDefault
  | some (.shared value) =>
      obtain ⟨text, rfl⟩ := Json.isText_iff.mp (sharedText _ rfl)
      rfl

end Setting

namespace Config

/-- The settings that can differ by language. -/
def settings (config : Config) : List Setting :=
  [config.defaultCompiler, config.defaultOptions, config.additionalOptions,
    config.defaultRemovePattern].filterMap id

theorem mem_settings
    {config : Config}
    {setting : Setting} :
    setting ∈ config.settings ↔
      setting ∈ config.defaultCompiler ∨ setting ∈ config.defaultOptions ∨
        setting ∈ config.additionalOptions ∨ setting ∈ config.defaultRemovePattern := by
  simp [settings, eq_comm]

/-- Whether nothing but texts is shared by all languages. -/
def sharesTexts (config : Config) : Bool :=
  config.settings.all Setting.sharesText

/-- Whether all entries by language are texts. -/
def hasTextEntries (config : Config) : Bool :=
  config.settings.all Setting.hasTextEntries

theorem sharesText_of_settingOf?
    {value : Json}
    {setting : Option Setting}
    (typed : settingOf? value = some setting) :
    ∀ given ∈ setting, given.sharesText = true := by
  intro given member
  cases value with
  | null =>
      cases typed
      contradiction
  | string text =>
      cases typed
      cases member
      rfl
  | object entries =>
      cases typed
      cases member
      rfl
  | bool value => contradiction
  | int value => contradiction
  | float value => contradiction
  | array items => contradiction

/-- A setting behind an override was there before, or is the value of the override. -/
theorem mem_settings_set?
    {config next : Config}
    {field : Field}
    {value : Json}
    {given : Setting}
    (set : config.set? field value = some next)
    (member : given ∈ next.settings) :
    given ∈ config.settings ∨ ∃ setting, settingOf? value = some setting ∧ given ∈ setting := by
  cases field with
  | defaultCompiler | defaultOptions | additionalOptions | defaultRemovePattern =>
      obtain ⟨setting, typed, rfl⟩ := Option.map_eq_some_iff.mp set
      by_cases changed : setting = some given
      · exact .inr ⟨setting, typed, changed⟩
      · left
        simp only [mem_settings, Option.mem_def, changed, false_or, or_false] at member ⊢
        grind
  | editorFontScale | compilerFontScale =>
      obtain ⟨scale, _, rfl⟩ := Option.map_eq_some_iff.mp set
      exact .inl member
  | baseUrl | maxLineLength | defaultLanguage | intelSyntax | trimAssembly | undent =>
      -- Only values of one form are taken here, and they go to none of the listed settings.
      cases value
      all_goals
        cases set
        try exact .inl member

theorem sharesTexts_iff
    {config : Config} :
    config.sharesTexts = true ↔ ∀ given ∈ config.settings, given.sharesText = true :=
  List.all_eq_true

theorem sharesTexts_override
    {config next : Config}
    {key : String}
    {value : Json}
    (sharesTexts : config.sharesTexts = true)
    (overridden : config.override key value = .ok next) :
    next.sharesTexts = true := by
  rw [sharesTexts_iff] at sharesTexts ⊢
  intro given member
  rw [override] at overridden
  split at overridden
  · contradiction
  · split at overridden
    · contradiction
    · rename_i set
      cases overridden
      rcases mem_settings_set? set member with before | ⟨setting, typed, changed⟩
      · exact sharesTexts given before
      · exact sharesText_of_settingOf? typed given changed

theorem sharesTexts_merge
    (entries : Json.Entries)
    {config : Config}
    (sharesTexts : config.sharesTexts = true) :
    (config.merge entries).1.sharesTexts = true := by
  induction entries generalizing config with
  | nil => exact sharesTexts
  | cons entry entries inductionHypothesis =>
      obtain ⟨key, value⟩ := entry
      rw [merge]
      split
      · rename_i next overridden
        exact inductionHypothesis (sharesTexts_override sharesTexts overridden)
      · exact inductionHypothesis sharesTexts

/-- No configuration shares anything but texts between all languages. -/
theorem sharesTexts_ofEntries (entries : Json.Entries) :
    (ofEntries entries).1.sharesTexts = true :=
  sharesTexts_merge entries rfl

end Config

end CodeDeck
