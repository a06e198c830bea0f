import CodeDeck.Command.Run
import Std.Time.Format
import Std.Time.Zoned

namespace CodeDeck

/-!
# The program

The outer layer of a run: it reads the files that the run may look at, lets
the run go over them, and carries out what the run has changed and printed.
-/

namespace Program

/-- What the system has at a path. -/
def entryAt? (path : String) : IO (Option File.Entry) := do
  match ← (IO.FS.realPath path).toBaseIO with
  | .error _ => return none
  | .ok found =>
      if ← found.isDir then
        return some .directory
      else
        match ← (IO.FS.readBinFile found).toBaseIO with
        | .error _ => return none
        | .ok content => return some (.file content.toList)

/-- A store that knows what the system has at a place. -/
def observe (store : File.Store) (location : File.Location) : IO File.Store := do
  match ← entryAt? (File.Path.ofLocation location).text with
  | some entry => return store.put location entry
  | none => return store

/-- A store that knows what the system has at every place on the way of paths. -/
def observeAll
    (store : File.Store)
    (directory : File.Location)
    (paths : List File.Path) : IO File.Store :=
  (paths.flatMap (File.Path.places directory)).foldlM observe store

/-- The paths that arguments name. -/
def namedPaths
    (surroundings : Command.Surroundings)
    (invocation : Command.Invocation) : List File.Path :=
  Settings.choosePath surroundings.directory invocation.options.config
      (surroundings.value? Settings.variableName) ::
    File.Path.ofText invocation.deck ::
    (invocation.options.output.map File.Path.ofText).toList

/-- The most backups of a log that are looked for. -/
def mostBackups : Nat := 1000

/-- The paths of the log and of its backups. -/
def logPaths
    (surroundings : Command.Surroundings)
    (store : File.Store)
    (invocation : Command.Invocation) : List File.Path :=
  let loaded :=
    Settings.load store surroundings.directory invocation.options.config
      (surroundings.value? Settings.variableName)
  match loaded.result with
  | .error _ => []
  | .ok settings =>
      match Log.arrange store surroundings.directory settings.logging with
      | (_, .ok (.arranged _ _ (some file))) =>
          let backups := List.range (min file.backups.toNat mostBackups + 1)
          (file.location :: backups.map file.backup).map File.Path.ofLocation
      | _ => []

/-- The files that a run may look at. -/
def filesFor
    (surroundings : Command.Surroundings)
    (arguments : List String) : IO File.Store := do
  let directory := surroundings.directory
  let store ← observeAll ⟨[]⟩ directory [.ofLocation directory]
  match Command.Invocation.read arguments with
  | .error _ => return store
  | .ok invocation =>
      let store ← observeAll store directory (namedPaths surroundings invocation)
      observeAll store directory (logPaths surroundings store invocation)

/-- Carry out what has changed at a place. -/
def carryOut (before after : File.Store) (location : File.Location) : IO Unit := do
  let path := (File.Path.ofLocation location).text
  match before.get? location, after.get? location with
  | some (.file old), some (.file new) =>
      if old ≠ new then
        IO.FS.writeBinFile path ⟨new.toArray⟩
  | none, some (.file new) => IO.FS.writeBinFile path ⟨new.toArray⟩
  | none, some .directory => IO.FS.createDirAll path
  | some (.file _), none => IO.FS.removeFile path
  | _, _ => return

/-- Carry out all that a run has changed. -/
def carryOutAll (before after : File.Store) : IO Unit :=
  (after.entries.reverse ++ before.entries).forM fun entry => carryOut before after entry.1

/-- The time on the clock. -/
def timeText : IO String := do
  let now ← Std.Time.PlainDateTime.now
  return now.format "uuuu-MM-dd HH:mm:ss"

/-- The code that a run leaves, and what is shown of a failure that was not foreseen. -/
def codeOf : Command.Ending → IO UInt32
  | .done code | .stopped code => return UInt32.ofNat code
  | .failed failure => do
      IO.eprintln failure.message
      return 1

/-- Run the program with its arguments. -/
def run (arguments : List String) : IO UInt32 := do
  let here ← IO.currentDir
  let value? ← IO.getEnv Settings.variableName
  let surroundings : Command.Surroundings := {
    directory := File.Path.namesOf here.toString
    environment := (value?.map fun value => (Settings.variableName, value)).toList
    time := ← timeText
  }
  let files ← filesFor surroundings arguments
  let (session, ending) := Command.run surroundings files arguments
  carryOutAll files session.files
  IO.print session.output
  IO.eprint session.errors
  codeOf ending

end Program

end CodeDeck

/-- Run the program with the arguments of the command line. -/
def main (arguments : List String) : IO UInt32 :=
  CodeDeck.Program.run arguments
