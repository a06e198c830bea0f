import CodeDeck.Proofs.Config.Merge
import Mathlib.Data.List.Nodup

namespace CodeDeck.Config

/-!
# What overrides mean

Which overrides count is a matter of each of them alone: the key has to name a
field, and the value has to be of a kind that the field takes. The others leave
one warning each and nothing else. So a configuration can be read off its
overrides field by field, in whatever order they stand, and those left out can
as well be deleted: `ofEntries_meaning`.
-/

/-- The kinds of values that a field takes. -/
def Field.kinds : Field → List Json.Kind
  | .baseUrl | .defaultLanguage => [.string]
  | .maxLineLength => [.int]
  | .editorFontScale | .compilerFontScale => [.int, .float]
  | .defaultCompiler | .defaultOptions | .additionalOptions | .defaultRemovePattern =>
      [.null, .string, .object]
  | .intelSyntax | .trimAssembly | .undent => [.bool]

/-- A value is of the type of a field exactly when it is of a kind that the field takes. -/
theorem Field.Value.isSome_ofJson?_iff
    (field : Field)
    (value : Json) :
    (Field.Value.ofJson? field value).isSome = true ↔ value.kind ∈ field.kinds := by
  cases field with
  | baseUrl | maxLineLength | defaultLanguage | intelSyntax | trimAssembly | undent |
    editorFontScale | compilerFontScale | defaultCompiler | defaultOptions | additionalOptions |
    defaultRemovePattern =>
      cases value with
      | null | bool | int | float | string | array | object =>
          simp [ofJson?, settingOf?, Scale.ofJson?, kinds, Json.kind]

/-- The warning about an override that is left out. -/
def Warning.of? (entry : String × Json) : Option Warning :=
  match Field.ofKey? entry.1 with
  | none => some (.unknownKey entry.1)
  | some field =>
      if entry.2.kind ∈ field.kinds then none else some (.invalidValue entry.1 entry.2)

/-- Whether an override counts. -/
def counts (entry : String × Json) : Bool :=
  (Warning.of? entry).isNone

/-- Whether an override is left out, and with which warning, depends on itself alone. -/
theorem override_eq
    (config : Config)
    (key : String)
    (value : Json) :
    config.override key value =
      match Warning.of? (key, value) with
      | none => .ok (config.withOverride key value)
      | some warning => .error warning := by
  rw [withOverride, override, Warning.of?]
  cases named : Field.ofKey? key with
  | none => rfl
  | some field =>
      have typed := Field.Value.isSome_ofJson?_iff field value
      cases set : config.set? field value with
      | none =>
          rw [ofJson?_of_set?_eq_none set] at typed
          have notTaken : value.kind ∉ field.kinds := fun taken => by simpa using typed.mpr taken
          simp [set, notTaken]
      | some next =>
          rw [ofJson?_of_set? set] at typed
          simp [set, typed.mp rfl, Except.toOption]

variable {config : Config} {entries : Json.Entries}

/-- Each override that is left out gives one warning, in order. -/
theorem warnings_merge
    (config : Config)
    (entries : Json.Entries) :
    (config.merge entries).2 = entries.filterMap Warning.of? := by
  induction entries generalizing config with
  | nil => rfl
  | cons entry entries inductionHypothesis =>
      obtain ⟨key, value⟩ := entry
      rw [merge, override_eq, List.filterMap_cons]
      cases Warning.of? (key, value) with
      | none => exact inductionHypothesis _
      | some warning => exact congrArg (warning :: ·) (inductionHypothesis config)

/-- An override that is left out changes nothing. -/
theorem withOverride_of_warning
    {key : String}
    {value : Json}
    {warning : Warning}
    (config : Config)
    (leftOut : Warning.of? (key, value) = some warning) :
    config.withOverride key value = config := by
  have isError := config.override_eq key value
  rw [leftOut] at isError
  rw [withOverride, isError]
  rfl

/-- Overrides that are left out can be deleted. -/
theorem merge_filter_counts
    (config : Config)
    (entries : Json.Entries) :
    (config.merge (entries.filter counts)).1 = (config.merge entries).1 := by
  induction entries generalizing config with
  | nil => rfl
  | cons entry entries inductionHypothesis =>
      obtain ⟨key, value⟩ := entry
      rw [merge_cons]
      cases leftOut : Warning.of? (key, value) with
      | none =>
          rw [List.filter_cons_of_pos (by rw [counts, leftOut]; rfl), merge_cons,
            inductionHypothesis]
      | some warning =>
          rw [List.filter_cons_of_neg (by rw [counts, leftOut]; exact Bool.false_ne_true),
            withOverride_of_warning config leftOut, inductionHypothesis]

/-- A configuration is what its fields hold. -/
theorem eq_of_get
    {first second : Config}
    (same : ∀ field, first.get field = second.get field) :
    first = second := by
  have baseUrl := Field.Value.text.inj (same .baseUrl)
  have maxLineLength := Field.Value.whole.inj (same .maxLineLength)
  have editorFontScale := Field.Value.scale.inj (same .editorFontScale)
  have compilerFontScale := Field.Value.scale.inj (same .compilerFontScale)
  have defaultLanguage := Field.Value.text.inj (same .defaultLanguage)
  have defaultCompiler := Field.Value.setting.inj (same .defaultCompiler)
  have defaultOptions := Field.Value.setting.inj (same .defaultOptions)
  have additionalOptions := Field.Value.setting.inj (same .additionalOptions)
  have defaultRemovePattern := Field.Value.setting.inj (same .defaultRemovePattern)
  have intelSyntax := Field.Value.flag.inj (same .intelSyntax)
  have trimAssembly := Field.Value.flag.inj (same .trimAssembly)
  have undent := Field.Value.flag.inj (same .undent)
  cases first
  cases second
  simp_all only

/-- With distinct keys, what is found under a key is what there is. -/
theorem get?_eq_some_iff_mem
    {key : String}
    {value : Json}
    (distinct : (entries.map Prod.fst).Nodup) :
    Json.Entries.get? entries key = some value ↔ (key, value) ∈ entries := by
  rw [Json.Entries.get?, Option.map_eq_some_iff]
  constructor
  · rintro ⟨⟨name, held⟩, found, rfl⟩
    obtain rfl : name = key := by simpa using List.find?_some found
    exact List.mem_of_find?_eq_some found
  · intro member
    obtain ⟨entry, found⟩ : ∃ entry, entries.find? (fun entry => entry.1 == key) = some entry :=
      Option.isSome_iff_exists.mp (List.find?_isSome.mpr ⟨_, member, by simp⟩)
    have isKey : entry.1 = key := by simpa using List.find?_some found
    have same := List.inj_on_of_nodup_map distinct (List.mem_of_find?_eq_some found) member isKey
    exact ⟨entry, found, congrArg Prod.snd same⟩

/-- The order of the overrides does not matter. -/
theorem merge_perm
    {other : Json.Entries}
    (config : Config)
    (permuted : other.Perm entries)
    (distinct : (entries.map Prod.fst).Nodup) :
    (config.merge other).1 = (config.merge entries).1 := by
  have otherDistinct := (permuted.map Prod.fst).nodup_iff.mpr distinct
  refine eq_of_get fun field => ?_
  have sameEntry : Json.Entries.get? other field.key = Json.Entries.get? entries field.key := by
    refine Option.ext fun value => ?_
    rw [get?_eq_some_iff_mem distinct, get?_eq_some_iff_mem otherDistinct, permuted.mem_iff]
  rw [get_merge config field distinct, get_merge config field otherDistinct, sameEntry]

/-- What a field holds as it was given. -/
def Field.Value.toJson : Field.Value → Json
  | .text value => .string value
  | .whole value => .int value
  | .scale value => value.toJson
  | .setting none => .null
  | .setting (some (.shared value)) => value
  | .setting (some (.perLanguage entries)) => .object entries
  | .flag value => .bool value

/-- Whether a field holds what a value of a kind that it takes stands for. -/
def Field.Holds (field : Field) (held : Field.Value) : Prop :=
  held.toJson.kind ∈ field.kinds ∧ Field.Value.ofJson? field held.toJson = some held

/-- A field that takes a value holds it as it was given. -/
theorem Field.Value.toJson_of_ofJson?
    {field : Field}
    {value : Json}
    {held : Field.Value}
    (taken : Field.Value.ofJson? field value = some held) :
    held.toJson = value := by
  cases field with
  | baseUrl | maxLineLength | defaultLanguage | intelSyntax | trimAssembly | undent |
    editorFontScale | compilerFontScale | defaultCompiler | defaultOptions |
    additionalOptions | defaultRemovePattern =>
      cases value with
      | null | bool | int | float | string | array | object =>
          cases taken
          try rfl

theorem Field.holds_of_ofJson?
    {field : Field}
    {value : Json}
    {held : Field.Value}
    (taken : Field.Value.ofJson? field value = some held) :
    field.Holds held := by
  rw [Field.Holds, Field.Value.toJson_of_ofJson? taken]
  exact ⟨(Field.Value.isSome_ofJson?_iff field value).mp (by rw [taken]; rfl), taken⟩

theorem holds_default (field : Field) : field.Holds (default.get field) := by
  cases field with
  | baseUrl | maxLineLength | defaultLanguage | intelSyntax | trimAssembly | undent |
    editorFontScale | compilerFontScale | defaultCompiler | defaultOptions | additionalOptions |
    defaultRemovePattern => exact ⟨by decide, rfl⟩

/--
What a mapping of overrides means. A field holds the value under its key when that is of a kind
that the field takes, and its default otherwise; every override that names no field or is of
another kind gives one warning, in order, and no other one does. So the order of the overrides
does not matter, those left out can be deleted, and every field holds a value of its type.
-/
theorem ofEntries_meaning
    (entries : Json.Entries)
    (distinct : (entries.map Prod.fst).Nodup) :
    let config := (ofEntries entries).1
    (∀ field value,
      Json.Entries.get? entries field.key = some value →
        value.kind ∈ field.kinds →
        Field.Value.ofJson? field value = some (config.get field) ∧
          (config.get field).toJson = value) ∧
      (∀ field,
        (∀ value,
          Json.Entries.get? entries field.key = some value → value.kind ∉ field.kinds) →
        config.get field = default.get field) ∧
      (ofEntries entries).2 = entries.filterMap Warning.of? ∧
      (∀ other : Json.Entries, other.Perm entries → (ofEntries other).1 = config) ∧
      ofEntries (entries.filter counts) = (config, []) ∧
      ∀ field : Field, field.Holds (config.get field) := by
  intro config
  have isMerged (field : Field) : config.get field =
      ((Json.Entries.get? entries field.key).bind (Field.Value.ofJson? field)).getD
        (default.get field) :=
    get_merge default field distinct
  refine ⟨fun field value found taken => ?_, fun field notTaken => ?_,
    warnings_merge default entries,
    fun other permuted => merge_perm default permuted distinct, ?_, fun field => ?_⟩
  · obtain ⟨held, isHeld⟩ :=
      Option.isSome_iff_exists.mp ((Field.Value.isSome_ofJson?_iff field value).mpr taken)
    rw [isMerged, found, Option.bind_some, isHeld, Option.getD_some]
    exact ⟨rfl, Field.Value.toJson_of_ofJson? isHeld⟩
  · rw [isMerged]
    cases found : Json.Entries.get? entries field.key with
    | none => rfl
    | some value =>
        have untyped : Field.Value.ofJson? field value = none := by
          rw [← Option.not_isSome_iff_eq_none, Field.Value.isSome_ofJson?_iff]
          exact notTaken value found
        rw [Option.bind_some, untyped, Option.getD_none]
  · refine Prod.ext (merge_filter_counts default entries) ?_
    refine (warnings_merge default _).trans ?_
    rw [List.filterMap_eq_nil_iff]
    intro entry member
    exact Option.isNone_iff_eq_none.mp (List.mem_filter.mp member).2
  · rw [isMerged]
    cases given : (Json.Entries.get? entries field.key).bind (Field.Value.ofJson? field) with
    | none => exact holds_default field
    | some held =>
        obtain ⟨value, -, taken⟩ := Option.bind_eq_some_iff.mp given
        exact Field.holds_of_ofJson? taken

/-- A flag for a number and a key that nobody knows between overrides that count. -/
theorem ofEntries_meaning_mixed :
    let entries : Json.Entries :=
      [("editorFontScale", .int 2), ("maxLineLength", .bool true), ("tabs", .int 4),
        ("defaultCompiler", .null)]
    let config := (ofEntries entries).1
    (entries.map Prod.fst).Nodup ∧
      config.editorFontScale = .whole 2 ∧
      config.maxLineLength = default.maxLineLength ∧
      (ofEntries entries).2 = [.invalidValue "maxLineLength" (.bool true), .unknownKey "tabs"] ∧
      (ofEntries entries.reverse).1 = config ∧
      ofEntries [("editorFontScale", .int 2), ("defaultCompiler", .null)] = (config, []) := by
  intro entries config
  have distinct : (entries.map Prod.fst).Nodup := by decide
  obtain ⟨taken, notTaken, warned, permuted, deleted, -⟩ := ofEntries_meaning entries distinct
  have scale := (taken .editorFontScale (.int 2) rfl (by decide)).1
  have length := notTaken .maxLineLength fun value found => by
    cases found
    decide
  exact ⟨distinct, Field.Value.scale.inj (Option.some.inj scale).symm,
    Field.Value.whole.inj length, warned, permuted _ entries.reverse_perm, deleted⟩

end CodeDeck.Config
