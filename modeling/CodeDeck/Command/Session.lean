import CodeDeck.File.Store
import CodeDeck.Log.Sinks
import CodeDeck.Report

namespace CodeDeck.Command

/-!
# Sessions

What a run has to go on, and what it has done so far: the files as they are,
what it has printed and shown, and where its records go. Remarks of the machine
are not records: they are shown in a way of their own, if at all.
-/

/-- What a run finds: its working directory, the variables of its environment, and the time. -/
structure Surroundings where
  directory : File.Location
  environment : List (String × String)
  time : String
  /-- How the machine shows a remark of its own; when such remarks are silenced, as nothing. -/
  showRemark : String → String := fun _ => ""

namespace Surroundings

/-- The value of a variable. -/
def value? (surroundings : Surroundings) (name : String) : Option String :=
  (surroundings.environment.find? fun entry => entry.1 == name).map Prod.snd

end Surroundings

/-- The state of a run. -/
structure Session where
  files : File.Store
  output : String
  errors : String
  sinks : Log.Sinks
  deriving Repr

namespace Session

/-- The state in which a run starts. -/
def start (files : File.Store) : Session where
  files
  output := ""
  errors := ""
  sinks := .unarranged

/-- Print a text. -/
def print (session : Session) (text : String) : Session :=
  { session with output := session.output ++ text }

/-- Show a text beside the output. -/
def complain (session : Session) (text : String) : Session :=
  { session with errors := session.errors ++ text }

/-- Write a record. -/
def note (session : Session) (time : String) (record : Log.Record) : Session :=
  { session with
    errors := session.errors ++ session.sinks.shown time record
    files := session.sinks.keep time record session.files }

/-- Write records in order. -/
def noteAll (session : Session) (time : String) (records : List Log.Record) : Session :=
  records.foldl (fun session record => session.note time record) session

/-- Tell what has come up: a report goes to the log, a doubt is shown by the machine. -/
def tell (session : Session) (surroundings : Surroundings) : Remark → Session
  | .report found => session.note surroundings.time found.record
  | .doubt found => session.complain (surroundings.showRemark found.text)

/-- Tell what has come up, in order. -/
def tellAll (session : Session) (surroundings : Surroundings) (remarks : List Remark) : Session :=
  remarks.foldl (fun session remark => session.tell surroundings remark) session

end Session

end CodeDeck.Command
