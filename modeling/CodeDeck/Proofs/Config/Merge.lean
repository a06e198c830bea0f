import CodeDeck.Config

namespace CodeDeck.Config

/-!
# Merged configurations field by field

What a merge makes of a field depends on the override under the field's key and
on no other: a value of the field's type is taken, and with any other value, or
none, the field stays what it was. That holds of every field, so it is said of
all of them at once: `get_merge`.
-/

/-- What a field of a configuration holds. -/
inductive Field.Value where
  | text (value : String)
  | whole (value : Int)
  | scale (value : Scale)
  | setting (value : Option Setting)
  | flag (value : Bool)
  deriving Repr, BEq

/-- A value as what a field holds, when it is of the field's type. -/
def Field.Value.ofJson? (field : Field) (value : Json) : Option Field.Value :=
  match field, value with
  | .baseUrl, .string value => some (.text value)
  | .maxLineLength, .int value => some (.whole value)
  | .editorFontScale, value => (Scale.ofJson? value).map .scale
  | .compilerFontScale, value => (Scale.ofJson? value).map .scale
  | .defaultLanguage, .string value => some (.text value)
  | .defaultCompiler, value => (settingOf? value).map .setting
  | .defaultOptions, value => (settingOf? value).map .setting
  | .additionalOptions, value => (settingOf? value).map .setting
  | .defaultRemovePattern, value => (settingOf? value).map .setting
  | .intelSyntax, .bool value => some (.flag value)
  | .trimAssembly, .bool value => some (.flag value)
  | .undent, .bool value => some (.flag value)
  | _, _ => none

/-- What a field holds. -/
def get (config : Config) : Field → Field.Value
  | .baseUrl => .text config.baseUrl
  | .maxLineLength => .whole config.maxLineLength
  | .editorFontScale => .scale config.editorFontScale
  | .compilerFontScale => .scale config.compilerFontScale
  | .defaultLanguage => .text config.defaultLanguage
  | .defaultCompiler => .setting config.defaultCompiler
  | .defaultOptions => .setting config.defaultOptions
  | .additionalOptions => .setting config.additionalOptions
  | .defaultRemovePattern => .setting config.defaultRemovePattern
  | .intelSyntax => .flag config.intelSyntax
  | .trimAssembly => .flag config.trimAssembly
  | .undent => .flag config.undent

theorem Field.ofKey?_key (field : Field) : Field.ofKey? field.key = some field := by
  cases field
  all_goals decide

theorem Field.key_of_ofKey?
    {key : String}
    {field : Field}
    (named : Field.ofKey? key = some field) :
    field.key = key := by
  simpa using List.find?_some named

variable {config next : Config} {field other : Field} {value : Json}

/-- A value of the type of a field is what the field holds once it is set. -/
theorem ofJson?_of_set?
    (set : config.set? field value = some next) :
    Field.Value.ofJson? field value = some (next.get field) := by
  cases field with
  | defaultCompiler | defaultOptions | additionalOptions | defaultRemovePattern |
    editorFontScale | compilerFontScale =>
      obtain ⟨given, typed, rfl⟩ := Option.map_eq_some_iff.mp set
      simp only [Field.Value.ofJson?, typed]
      rfl
  | baseUrl | maxLineLength | defaultLanguage | intelSyntax | trimAssembly | undent =>
      cases value
      all_goals
        cases set
        try rfl

/-- Only a value of the type of a field can be set. -/
theorem ofJson?_of_set?_eq_none
    (unset : config.set? field value = none) :
    Field.Value.ofJson? field value = none := by
  cases field with
  | defaultCompiler | defaultOptions | additionalOptions | defaultRemovePattern |
    editorFontScale | compilerFontScale =>
      simp only [Field.Value.ofJson?, Option.map_eq_none_iff.mp unset]
      rfl
  | baseUrl | maxLineLength | defaultLanguage | intelSyntax | trimAssembly | undent =>
      cases value
      all_goals
        cases unset
        try rfl

/-- To set a field leaves the other fields alone. -/
theorem get_of_set?
    (set : config.set? field value = some next)
    (different : other ≠ field) :
    next.get other = config.get other := by
  cases field with
  | defaultCompiler | defaultOptions | additionalOptions | defaultRemovePattern |
    editorFontScale | compilerFontScale =>
      obtain ⟨given, typed, rfl⟩ := Option.map_eq_some_iff.mp set
      cases other
      all_goals first | rfl | exact absurd rfl different
  | baseUrl | maxLineLength | defaultLanguage | intelSyntax | trimAssembly | undent =>
      cases value
      all_goals
        cases set
        try
          cases other
          all_goals first | rfl | exact absurd rfl different

/-- A configuration with one override laid over it, when that is not left out. -/
def withOverride (config : Config) (key : String) (value : Json) : Config :=
  (config.override key value).toOption.getD config

/-- An override under the key of a field counts when it is a value of the type of the field. -/
theorem get_withOverride_self
    (field : Field)
    (config : Config)
    (value : Json) :
    (config.withOverride field.key value).get field =
      (Field.Value.ofJson? field value).getD (config.get field) := by
  simp only [withOverride, override, Field.ofKey?_key]
  cases set : config.set? field value with
  | none => simp [Except.toOption, ofJson?_of_set?_eq_none set]
  | some next => simp [Except.toOption, ofJson?_of_set? set]

/-- An override under another key leaves a field alone. -/
theorem get_withOverride_ne
    {key : String}
    (config : Config)
    (value : Json)
    (different : field.key ≠ key) :
    (config.withOverride key value).get field = config.get field := by
  simp only [withOverride, override]
  cases named : Field.ofKey? key with
  | none => rfl
  | some other =>
      have others : field ≠ other := by
        rintro rfl
        exact different (Field.key_of_ofKey? named)
      cases set : config.set? other value with
      | none => simp [Except.toOption, set]
      | some next => simp [Except.toOption, set, get_of_set? set others]

/-- A merge goes on with what its first override makes of the configuration. -/
theorem merge_cons
    (config : Config)
    (key : String)
    (value : Json)
    (entries : Json.Entries) :
    (config.merge ((key, value) :: entries)).1 =
      ((config.withOverride key value).merge entries).1 := by
  rw [merge, withOverride]
  cases config.override key value with
  | ok next => rfl
  | error warning => rfl

/-- A field that no override names stays what it was. -/
theorem get_merge_of_not_mem
    {entries : Json.Entries}
    (config : Config)
    (absent : field.key ∉ entries.map Prod.fst) :
    (config.merge entries).1.get field = config.get field := by
  induction entries generalizing config with
  | nil => rfl
  | cons entry entries inductionHypothesis =>
      obtain ⟨key, value⟩ := entry
      rw [List.map_cons, List.mem_cons, not_or] at absent
      rw [merge_cons, inductionHypothesis _ absent.2, get_withOverride_ne config value absent.1]

/--
A field of a merged configuration is the override under its key when that is of the field's
type, and what it was before when it is not, or when there is none.
-/
theorem get_merge
    {entries : Json.Entries}
    (config : Config)
    (field : Field)
    (distinct : (entries.map Prod.fst).Nodup) :
    (config.merge entries).1.get field =
      ((Json.Entries.get? entries field.key).bind (Field.Value.ofJson? field)).getD
        (config.get field) := by
  induction entries generalizing config with
  | nil => rfl
  | cons entry entries inductionHypothesis =>
      obtain ⟨key, value⟩ := entry
      rw [List.map_cons, List.nodup_cons] at distinct
      rw [merge_cons]
      by_cases same : key = field.key
      · subst same
        rw [get_merge_of_not_mem _ distinct.1, get_withOverride_self]
        simp [Json.Entries.get?]
      · rw [inductionHypothesis _ distinct.2, get_withOverride_ne config value (Ne.symm same)]
        simp [Json.Entries.get?, same]

end CodeDeck.Config
