import CodeDeck.Log.Sinks

namespace CodeDeck.Log

/-!
# Arranging the log

The logging section of the settings says whether and from which level on
records are shown and kept. Without `enabled` warnings and errors are shown.
The sections are read in a fixed order and the first fault ends the reading;
directories made until then stay.
-/

/-- Names that are no level but stand for something else. -/
inductive ReservedName where
  | lineFormat
  | formatStyles
  deriving Repr, DecidableEq

/-- Why a log cannot be kept as the settings say. -/
inductive Failure where
  | level (name : ReservedName)
  | sectionKind (kind : Json.Kind)
  | pathKind (kind : Json.Kind)
  | size (cause : Json.NotWhole)
  | file (fault : File.Fault) (path : String)
  deriving Repr, DecidableEq

/-- The message about a name that is no level. -/
def ReservedName.message : ReservedName → String
  | .lineFormat => "Unknown level: '%(levelname)s:%(name)s:%(message)s'"
  | .formatStyles =>
      "Level not an integer or a valid string: \x7b'%': (<class 'logging.PercentStyle'>, " ++
        "'%(levelname)s:%(name)s:%(message)s'), '\x7b': (<class 'logging.StrFormatStyle'>, " ++
        "'\x7blevelname\x7d:\x7bname\x7d:\x7bmessage\x7d'), " ++
        "'$': (<class 'logging.StringTemplateStyle'>, " ++
        "'$\x7blevelname\x7d:$\x7bname\x7d:$\x7bmessage\x7d')\x7d"

/-- The message about a log that cannot be kept. -/
def Failure.message : Failure → String
  | .level name => name.message
  | .sectionKind kind => "'" ++ kind.name ++ "' object has no attribute 'get'"
  | .pathKind kind => "expected str, bytes or os.PathLike object, not " ++ kind.name
  | .size cause => cause.message
  | .file fault path => fault.message path

/-- The ASCII capital of a letter, if it has one; the dotless i and the long s have one too. -/
def capital (c : Char) : Char :=
  if c = 'ı' then 'I' else if c = 'ſ' then 'S' else c.toUpper

/--
The weight from which on records count, by the name of a level in any case; an unknown
name stands for the level of information.
-/
def thresholdOf (name : String) : Except ReservedName Nat :=
  match String.ofList (name.toList.map capital) with
  | "NOTSET" => .ok 0
  | "DEBUG" => .ok Level.debug.weight
  | "WARN" | "WARNING" => .ok Level.warning.weight
  | "ERROR" => .ok Level.error.weight
  | "FATAL" | "CRITICAL" => .ok Level.critical.weight
  | "BASIC_FORMAT" => .error .lineFormat
  | "_STYLES" => .error .formatStyles
  | _ => .ok Level.info.weight

/-- The file that keeps records when the settings name none. -/
def defaultPath : String := "logs/deckscope.log"

/-- The limit of a file when the settings name none. -/
def defaultLimit : Int := 5 * 1024 * 1024

/-- The number of backups when the settings name none. -/
def defaultBackups : Int := 5

/-- The entry of a section, or its default. -/
def entryOr (entries : Json.Entries) (key : String) (default : Json) : Json :=
  (entries.get? key).getD default

/-- Whether an entry of a section is switched on. -/
def isOn (entries : Json.Entries) (key : String) (default : Bool) : Bool :=
  (entryOr entries key (.bool default)).isGiven

/-- The section about the file. -/
def fileSection (entries : Json.Entries) : Except Failure Json.Entries :=
  match entryOr entries "file" (.object []) with
  | .object file => .ok file
  | value => .error (.sectionKind value.kind)

/-- The directories above a file made, when its path names any. -/
def makeParents
    (store : File.Store)
    (directory : File.Location)
    (path : String) : Except Failure File.Store :=
  match File.parentText path.toList with
  | [] => .ok store
  | parent =>
      match store.makeDirectories directory parent with
      | .ok store => .ok store
      | .error (fault, path) => .error (.file fault path)

/-- A file that is there, empty if it was not, and its place. -/
def startFile
    (store : File.Store)
    (directory : File.Location)
    (path : String) : Except Failure (File.Store × File.Location) :=
  let path := ((File.Path.ofText path).absolute directory).text
  match store.locate directory path with
  | .error fault => .error (.file fault path)
  | .ok location =>
      match store.get? location with
      | some .directory => .error (.file .isDirectory path)
      | some (.file _) => .ok (store, location)
      | none => .ok (store.put location (.file []), location)

/-- The file that a section asks for, and the store with its directories and the file itself. -/
def arrangeFile
    (store : File.Store)
    (directory : File.Location)
    (entries : Json.Entries) : File.Store × Except Failure LogFile :=
  match entryOr entries "path" (.string defaultPath) with
  | .string path =>
      match makeParents store directory path with
      | .error failure => (store, .error failure)
      | .ok store =>
          match (entryOr entries "max_bytes" (.int defaultLimit)).toWhole,
              (entryOr entries "backup_count" (.int defaultBackups)).toWhole with
          | .error cause, _ => (store, .error (.size cause))
          | _, .error cause => (store, .error (.size cause))
          | .ok limit, .ok backups =>
              match startFile store directory path with
              | .error failure => (store, .error failure)
              | .ok (store, location) => (store, .ok ⟨location, limit, backups⟩)
  | value => (store, .error (.pathKind value.kind))

/-- Where records go by the logging section, and the store with the files for them. -/
def arrange
    (store : File.Store)
    (directory : File.Location)
    (entries : Json.Entries) : File.Store × Except Failure Sinks :=
  if !isOn entries "enabled" false then
    (store, .ok .console)
  else
    let threshold := thresholdOf (entryOr entries "level" (.string "INFO")).display
    let console := isOn entries "console" true
    match threshold, console, fileSection entries with
    | .error name, true, _ => (store, .error (.level name))
    | _, _, .error failure => (store, .error failure)
    | threshold, console, .ok file =>
        if !isOn file "enabled" false then
          match threshold, console with
          | .ok threshold, true => (store, .ok (.arranged threshold true none))
          | _, _ => (store, .ok .unarranged)
        else
          match arrangeFile store directory file with
          | (store, .error failure) => (store, .error failure)
          | (store, .ok file) =>
              match threshold with
              | .ok threshold => (store, .ok (.arranged threshold console (some file)))
              | .error name => (store, .error (.level name))

end CodeDeck.Log
