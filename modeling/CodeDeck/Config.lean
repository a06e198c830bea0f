import CodeDeck.Json.Display
import CodeDeck.Log.Record
import CodeDeck.Setting

namespace CodeDeck

/-!
# Configuration

What can be set about the processing of a deck, the built-in defaults, and how
overrides are laid over them. Each override names one field and holds a value
of that field's type; every other override leaves the configuration alone and
gives one warning.
-/

/-- A font scale: a whole number or another one. -/
inductive Scale where
  | whole (value : Int)
  | real (value : Binary64)
  deriving Repr, DecidableEq

namespace Scale

/-- A scale as it was given. -/
def toJson : Scale → Json
  | .whole value => .int value
  | .real value => .float value

/-- A scale in a link, where an integral one is written as a whole number. -/
def toLink : Scale → Json
  | .whole value => .int value
  | .real value =>
      match value.toInt? with
      | some integer => .int integer
      | none => .float value

/-- A value as a scale, when it is a number. -/
def ofJson? : Json → Option Scale
  | .int value => some (.whole value)
  | .float value => some (.real value)
  | _ => none

end Scale

/-- The settings of one pass over a deck. -/
structure Config where
  baseUrl : String
  maxLineLength : Int
  editorFontScale : Scale
  compilerFontScale : Scale
  defaultLanguage : String
  defaultCompiler : Option Setting
  defaultOptions : Option Setting
  additionalOptions : Option Setting
  defaultRemovePattern : Option Setting
  intelSyntax : Bool
  trimAssembly : Bool
  undent : Bool
  deriving Repr, BEq

namespace Config

/-- The built-in settings. -/
def default : Config where
  baseUrl := "https://slides.compiler-explorer.com"
  maxLineLength := 50
  editorFontScale := .real (.finite false (5 * Nat.pow 2 50) (-51))
  compilerFontScale := .real (.finite false (3 * Nat.pow 2 51) (-51))
  defaultLanguage := "c++"
  defaultCompiler := some (.shared (.string "g142"))
  defaultOptions := some (.shared (.string "-O1"))
  additionalOptions := some (.shared (.string "-Wall -Wextra"))
  defaultRemovePattern := none
  intelSyntax := true
  trimAssembly := true
  undent := true

/-- The fields of a configuration. -/
inductive Field where
  | baseUrl
  | maxLineLength
  | editorFontScale
  | compilerFontScale
  | defaultLanguage
  | defaultCompiler
  | defaultOptions
  | additionalOptions
  | defaultRemovePattern
  | intelSyntax
  | trimAssembly
  | undent
  deriving Repr, DecidableEq

/-- The key under which overrides name a field. -/
def Field.key : Field → String
  | .baseUrl => "baseUrl"
  | .maxLineLength => "maxLineLength"
  | .editorFontScale => "editorFontScale"
  | .compilerFontScale => "compilerFontScale"
  | .defaultLanguage => "defaultLanguage"
  | .defaultCompiler => "defaultCompiler"
  | .defaultOptions => "defaultCompilerOptions"
  | .additionalOptions => "additionalCompilerOptions"
  | .defaultRemovePattern => "defaultRemoveRegex"
  | .intelSyntax => "intelSyntax"
  | .trimAssembly => "trimAsmWhitespace"
  | .undent => "undent"

/-- All fields. -/
def Field.all : List Field :=
  [.baseUrl, .maxLineLength, .editorFontScale, .compilerFontScale, .defaultLanguage,
    .defaultCompiler, .defaultOptions, .additionalOptions, .defaultRemovePattern, .intelSyntax,
    .trimAssembly, .undent]

/-- The field that a key names. -/
def Field.ofKey? (key : String) : Option Field :=
  Field.all.find? fun field => field.key == key

/-- Why an override is left out. -/
inductive Warning where
  | unknownKey (key : String)
  | invalidValue (key : String) (value : Json)
  deriving Repr, BEq

namespace Warning

/-- The text of a warning. -/
def message : Warning → String
  | .unknownKey key => "Ignoring unknown config key: " ++ key
  | .invalidValue key value =>
      "Ignoring invalid value for config key " ++ key ++ ": " ++ value.quoted

/-- A warning in the log. -/
def record (warning : Warning) : Log.Record where
  source := .config
  level := .warning
  message := warning.message

end Warning

/-- A value as a setting by language, when it is null, a text or an object. -/
def settingOf? : Json → Option (Option Setting)
  | .null => some none
  | .string value => some (some (.shared (.string value)))
  | .object entries => some (some (.perLanguage entries))
  | _ => none

/-- A configuration with one field set, when the value is of the field's type. -/
def set? (config : Config) (field : Field) (value : Json) : Option Config :=
  match field, value with
  | .baseUrl, .string value => some { config with baseUrl := value }
  | .maxLineLength, .int value => some { config with maxLineLength := value }
  | .editorFontScale, value =>
      (Scale.ofJson? value).map fun scale => { config with editorFontScale := scale }
  | .compilerFontScale, value =>
      (Scale.ofJson? value).map fun scale => { config with compilerFontScale := scale }
  | .defaultLanguage, .string value => some { config with defaultLanguage := value }
  | .defaultCompiler, value =>
      (settingOf? value).map fun setting => { config with defaultCompiler := setting }
  | .defaultOptions, value =>
      (settingOf? value).map fun setting => { config with defaultOptions := setting }
  | .additionalOptions, value =>
      (settingOf? value).map fun setting => { config with additionalOptions := setting }
  | .defaultRemovePattern, value =>
      (settingOf? value).map fun setting => { config with defaultRemovePattern := setting }
  | .intelSyntax, .bool value => some { config with intelSyntax := value }
  | .trimAssembly, .bool value => some { config with trimAssembly := value }
  | .undent, .bool value => some { config with undent := value }
  | _, _ => none

/-- One override laid over a configuration, or the warning that it is left out. -/
def override (config : Config) (key : String) (value : Json) : Except Warning Config :=
  match Field.ofKey? key with
  | none => .error (.unknownKey key)
  | some field =>
      match config.set? field value with
      | none => .error (.invalidValue key value)
      | some config => .ok config

/--
Overrides laid over a configuration one after the other, and the warnings about those
left out.
-/
def merge (config : Config) : Json.Entries → Config × List Warning
  | [] => (config, [])
  | (key, value) :: entries =>
      match config.override key value with
      | .ok config => config.merge entries
      | .error warning =>
          let (config, warnings) := config.merge entries
          (config, warning :: warnings)

/-- Overrides that are no mapping. -/
structure NoEntries where
  kind : Json.Kind
  deriving Repr, DecidableEq

/-- The message about overrides that are no mapping. -/
def NoEntries.message (noEntries : NoEntries) : String :=
  "'" ++ noEntries.kind.name ++ "' object has no attribute 'items'"

/-- The configuration that a mapping of overrides makes of the defaults. -/
def ofEntries (entries : Json.Entries) : Config × List Warning :=
  default.merge entries

/--
The configuration that a value makes of the defaults; a value that is not given changes
nothing.
-/
def ofOverrides (overrides : Json) : Except NoEntries (Config × List Warning) :=
  match overrides with
  | .object entries => .ok (ofEntries entries)
  | value => if value.isGiven then .error ⟨value.kind⟩ else .ok (default, [])

end Config

end CodeDeck
