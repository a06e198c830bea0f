import CodeDeck.File.Store
import CodeDeck.Json.Whole
import CodeDeck.Log.Record

namespace CodeDeck.Log

/-!
# Where records go

A record is shown on the console, kept in a file, or both, when it matters
enough. A file that would grow to its limit is set aside as a numbered backup
before the next record is written. As long as nothing has been arranged, the
bare messages of warnings and errors are shown.
-/

/-- A record as a line, with the time at which it is written. -/
def Record.line (record : Record) (time : String) : String :=
  time ++ " " ++ record.level.name ++ " " ++ record.source.name ++ ": " ++ record.message

/--
A file that keeps records; a limit or a number of backups that is not positive counts as
none.
-/
structure LogFile where
  location : File.Location
  limit : Int
  backups : Int
  deriving Repr, DecidableEq

namespace LogFile

/-- The place of a numbered backup. -/
def backup (file : LogFile) (number : Nat) : File.Location :=
  file.location.dropLast ++ [file.location.getLastD "" ++ "." ++ toString number]

/-- Whether one more line, with the newline after it, brings a file to its limit. -/
def isFull (file : LogFile) (line : String) (store : File.Store) : Bool :=
  0 < file.limit &&
    file.limit ≤ (store.contentAt file.location).length + line.length + 1

/-- Give each of the first backups the next higher number, the highest number first. -/
def shift (file : LogFile) (store : File.Store) : Nat → File.Store
  | 0 => store
  | number + 1 =>
      file.shift (store.move (file.backup (number + 1)) (file.backup (number + 2))) number

/-- Set a file aside as its first backup and start it again; without backups it just goes on. -/
def rotate (file : LogFile) (store : File.Store) : File.Store :=
  match file.backups.toNat with
  | 0 => store
  | count + 1 =>
      ((file.shift store count).move file.location (file.backup 1)).put file.location (.file [])

/-- Write a line at the end of a file. -/
def append (file : LogFile) (line : String) (store : File.Store) : File.Store :=
  let content := store.contentAt file.location
  store.put file.location (.file (content ++ Text.Utf8.encode (line.toList ++ ['\n'])))

/-- Keep a line in a file, which may set the file aside first. -/
def keep (file : LogFile) (line : String) (store : File.Store) : File.Store :=
  file.append line (if file.isFull line store then file.rotate store else store)

end LogFile

/--
Where records go: nowhere in particular, or to a console and a file when their level has
a weight.
-/
inductive Sinks where
  | unarranged
  | arranged (threshold : Nat) (console : Bool) (file : Option LogFile)
  deriving Repr, DecidableEq

namespace Sinks

/-- Warnings and errors on the console. -/
def console : Sinks :=
  .arranged Level.warning.weight true none

/-- Whether a record matters enough. -/
def passes (sinks : Sinks) (record : Record) : Bool :=
  match sinks with
  | .unarranged => Level.warning.weight ≤ record.level.weight
  | .arranged threshold _ _ => threshold ≤ record.level.weight

/-- What a record shows on the console. -/
def shown (sinks : Sinks) (time : String) (record : Record) : String :=
  if sinks.passes record then
    match sinks with
    | .unarranged => record.message ++ "\n"
    | .arranged _ true _ => record.line time ++ "\n"
    | .arranged _ false _ => ""
  else
    ""

/-- The files after a record has been kept. -/
def keep (sinks : Sinks) (time : String) (record : Record) (store : File.Store) : File.Store :=
  match sinks with
  | .arranged _ _ (some file) =>
      if sinks.passes record then file.keep (record.line time) store else store
  | _ => store

end Sinks

end CodeDeck.Log
