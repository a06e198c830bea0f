import CodeDeck.Config
import CodeDeck.File.Store
import CodeDeck.Json.Mapping
import CodeDeck.Json.Reader
import CodeDeck.Limits

namespace CodeDeck

/-!
# The settings file

One JSON file holds what a user may set: the overrides of the configuration
and how the program keeps its log. The file is the one that the command line
names, else the one that the environment names, else `deckscope.json` in the
working directory. A file that nobody asked for need not be there. On a machine
with limits the stack may be too small for the text of the file.

The environment is taken as it is when the file is chosen. Where a file of
variables adds to it before that, what it adds counts as part of it.
-/

/-- What a settings file sets, and the file, unless the defaults are used. -/
structure Settings where
  config : Config
  logging : Json.Entries
  path : Option File.Path
  deriving Repr

namespace Settings

/-- The name of the settings file in the working directory. -/
def defaultName : String := "deckscope.json"

/-- The name of the variable that names another settings file. -/
def variableName : String := "DECKSCOPE_CONFIG"

/-- A text that is there and is not empty. -/
def given? : Option String → Option String
  | some text => if text = "" then none else some text
  | none => none

/-- The path of the settings file. -/
def choosePath (directory : File.Location) (explicit fromEnvironment : Option String) : File.Path :=
  match given? explicit, given? fromEnvironment with
  | some text, _ => .ofText text
  | none, some text => .ofText text
  | none, none => (File.Path.ofLocation directory).child defaultName

/-- Why a settings file cannot be used. -/
inductive Problem where
  | notFound
  | unreadable (fault : File.Fault)
  | malformed (fault : Json.Fault) (line : Nat)
  | noObject
  | overridesNoObject
  deriving Repr, DecidableEq

/-- What a user is told about a settings file that cannot be used. -/
def Problem.message (problem : Problem) (path : File.Path) : String :=
  match problem with
  | .notFound => "Config file not found: " ++ path.text
  | .unreadable fault => path.text ++ ": " ++ fault.words
  | .malformed fault line =>
      path.text ++ ": " ++ fault.message ++ " (line " ++ toString line ++ ")"
  | .noObject => path.text ++ ": config root must be an object"
  | .overridesNoObject => path.text ++ ": 'ce' must be an object"

/--
Why no settings are loaded. A file that cannot be used is a problem of the user; the
other failures are not foreseen.
-/
inductive Failure where
  | unusable (path : File.Path) (problem : Problem)
  | unreachable (path : File.Path) (fault : File.Fault)
  | notText (error : Text.Utf8.DecodeError)
  | longNumeral (digits : Nat)
  | logging (cause : Json.NotMapping)
  deriving Repr, DecidableEq

/-- The message about settings that are not loaded. -/
def Failure.message : Failure → String
  | .unusable path problem => problem.message path
  | .unreachable path fault => fault.message path.text
  | .notText error => error.message
  | .longNumeral digits => Numeral.tooLongMessage digits
  | .logging cause => cause.message

/-- What loading gives: warnings about overrides, and settings or a failure. -/
structure Loaded where
  warnings : List Config.Warning
  result : Except Failure Settings
  deriving Repr

/-- The built-in settings. -/
def default : Settings where
  config := .default
  logging := []
  path := none

/-- The entries of the file whose bytes are given. -/
def entriesOf (path : File.Path) (content : List UInt8) : Except Failure Json.Entries :=
  match File.textOf content with
  | .error error => .error (.notText error)
  | .ok text =>
      match Json.read text with
      | .error (.malformed fault rest) =>
          .error (.unusable path (.malformed fault (Json.lineOf text rest)))
      | .error (.longNumeral digits) => .error (.longNumeral digits)
      | .ok (.object entries) => .ok entries
      | .ok _ => .error (.unusable path .noObject)

/-- The overrides among the entries of a settings file. -/
def overridesIn (path : File.Path) (entries : Json.Entries) : Except Failure Json.Entries :=
  match entries.get? "ce" with
  | none | some .null => .ok []
  | some (.object overrides) => .ok overrides
  | some _ => .error (.unusable path .overridesNoObject)

/-- How the log is kept, among the entries of a settings file. -/
def loggingIn (entries : Json.Entries) : Except Failure Json.Entries :=
  match (((entries.get? "logging").getD .null).orElse (.object [])).toEntries with
  | .ok logging => .ok logging
  | .error cause => .error (.logging cause)

/-- The settings that the entries of a file make. -/
def ofEntries (path : File.Path) (entries : Json.Entries) : Loaded :=
  match overridesIn path entries with
  | .error failure => ⟨[], .error failure⟩
  | .ok overrides =>
      let (config, warnings) := Config.ofEntries overrides
      ⟨warnings, (loggingIn entries).map fun logging => { config, logging, path := some path }⟩

/-- The settings that a file with some content makes. -/
def ofFile (path : File.Path) (entry : File.Entry) : Loaded :=
  match entry with
  | .directory => ⟨[], .error (.unusable path (.unreadable .isDirectory))⟩
  | .file content =>
      match entriesOf path content with
      | .error failure => ⟨[], .error failure⟩
      | .ok entries => ofEntries path entries

/-- Load the settings of a run. -/
def load
    (store : File.Store)
    (directory : File.Location)
    (explicit fromEnvironment : Option String) : Loaded :=
  let path := choosePath directory explicit fromEnvironment
  match store.lookUp directory path.text with
  | .ok entry => ofFile path entry
  | .error .nameTooLong => ⟨[], .error (.unreachable path .nameTooLong)⟩
  | .error _ =>
      match given? explicit with
      | some _ => ⟨[], .error (.unusable path .notFound)⟩
      | none => ⟨[], .ok default⟩

/-- The text at a path, when there is a file and its bytes are a text. -/
def textAt?
    (store : File.Store)
    (directory : File.Location)
    (path : File.Path) : Option (List Char) :=
  match store.lookUp directory path.text with
  | .ok (.file content) => (File.textOf content).toOption
  | _ => none

/--
Load the settings of a run on a machine with a stack. Nothing comes of it when the stack is too
small for reading the text of the file and for showing the overrides that are left out.
-/
def loadWithin
    (stack : Stack '[')
    (store : File.Store)
    (directory : File.Location)
    (explicit fromEnvironment : Option String) : Option Loaded :=
  let text? := textAt? store directory (choosePath directory explicit fromEnvironment)
  if text?.any stack.overflows then
    none
  else
    some (load store directory explicit fromEnvironment)

end Settings

end CodeDeck
