import CodeDeck.File.Path
import CodeDeck.Text.Lines
import CodeDeck.Text.Quoted
import CodeDeck.Text.Utf8

namespace CodeDeck.File

/-!
# The tree of files

A store holds files and directories by their places. Following a path asks at
every name for a directory to go on from, so a path can lead nowhere or
through a file. What is written at a place is read there again and changes no
other place: `get?_put` and `get?_put_ne`.
-/

/-- Why a file cannot be used. -/
inductive Fault where
  | missing
  | exists
  | notDirectory
  | isDirectory
  | nameTooLong
  | nulCharacter
  deriving Repr, DecidableEq

namespace Fault

/--
The number of a fault that the system finds; a NUL character is found before the system
is asked.
-/
def number? : Fault → Option Nat
  | .missing => some 2
  | .exists => some 17
  | .notDirectory => some 20
  | .isDirectory => some 21
  | .nameTooLong => some 36
  | .nulCharacter => none

/-- The words for a fault. -/
def words : Fault → String
  | .missing => "No such file or directory"
  | .exists => "File exists"
  | .notDirectory => "Not a directory"
  | .isDirectory => "Is a directory"
  | .nameTooLong => "File name too long"
  | .nulCharacter => "embedded null byte"

/-- The message about a fault at a path, which is shown with the number of the fault. -/
def message (fault : Fault) (path : String) : String :=
  match fault.number? with
  | none => fault.words
  | some number =>
      "[Errno " ++ toString number ++ "] " ++ fault.words ++ ": " ++ Text.Quoted.quote path

end Fault

/-- What stands at a place. -/
inductive Entry where
  | file (content : List UInt8)
  | directory
  deriving Repr, DecidableEq

/-- Files and directories by their places. -/
structure Store where
  entries : List (Location × Entry)
  deriving Repr

namespace Store

/-- What stands at a place; the top is always a directory. -/
def get? (store : Store) (location : Location) : Option Entry :=
  if location = [] then
    some .directory
  else
    (store.entries.find? fun entry => entry.1 == location).map Prod.snd

/-- A store without what stands at a place. -/
def erase (store : Store) (location : Location) : Store :=
  ⟨store.entries.filter fun entry => entry.1 != location⟩

/-- Put something at a place. -/
def put (store : Store) (location : Location) (entry : Entry) : Store :=
  ⟨(location, entry) :: (store.erase location).entries⟩

/-- Move what stands at a place to another one. -/
def move (store : Store) (old new : Location) : Store :=
  match store.get? old with
  | none => store
  | some entry => (store.erase old).put new entry

@[simp] theorem get?_put
    (store : Store)
    (location : Location)
    (entry : Entry)
    (below : location ≠ []) :
    (store.put location entry).get? location = some entry := by
  simp [get?, put, below]

theorem get?_erase_ne
    (store : Store)
    {location other : Location}
    (different : other ≠ location) :
    (store.erase location).get? other = store.get? other := by
  unfold get? erase
  split
  · rfl
  · congr 1
    induction store.entries with
    | nil => rfl
    | cons entry entries inductionHypothesis =>
        by_cases removed : entry.1 = location
        · simp_all [Ne.symm different]
        · by_cases found : entry.1 = other <;> simp_all

theorem get?_put_ne
    (store : Store)
    {location other : Location}
    (entry : Entry)
    (different : other ≠ location) :
    (store.put location entry).get? other = store.get? other := by
  rw [← get?_erase_ne store different]
  by_cases top : other = []
  · simp [get?, top]
  · simp [get?, put, top, Ne.symm different]

/-- The most bytes that a name may have. -/
def maxNameSize : Nat := 255

/-- The most bytes that a written path may have. -/
def maxPathSize : Nat := 4095

/-- Follow names from a place; what the last name names need not be there. -/
def follow (store : Store) : Location → List String → Except Fault Location
  | here, [] => .ok here
  | here, name :: names =>
      match store.get? here with
      | none => .error .missing
      | some (.file _) => .error .notDirectory
      | some .directory =>
          if name = "." then
            store.follow here names
          else if name = ".." then
            store.follow here.dropLast names
          else if maxNameSize < name.utf8ByteSize then
            .error .nameTooLong
          else
            store.follow (here ++ [name]) names

/-- The place that a written path leads to from a working directory. -/
def locate (store : Store) (directory : Location) (path : String) : Except Fault Location :=
  if path.toList.contains '\x00' then
    .error .nulCharacter
  else if maxPathSize < path.utf8ByteSize then
    .error .nameTooLong
  else
    match Start.ofChars path.toList with
    | .working => store.follow directory (Path.namesOf path)
    | _ => store.follow [] (Path.namesOf path)

/-- What a written path leads to. -/
def lookUp (store : Store) (directory : Location) (path : String) : Except Fault Entry := do
  let location ← store.locate directory path
  match store.get? location with
  | some entry => .ok entry
  | none => .error .missing

/-- Whether a path leads to something. -/
def holds (store : Store) (directory : Location) (path : String) : Bool :=
  match store.lookUp directory path with
  | .ok _ => true
  | .error _ => false

/-- The bytes of a file. -/
def read (store : Store) (directory : Location) (path : String) : Except Fault (List UInt8) := do
  match ← store.lookUp directory path with
  | .file content => .ok content
  | .directory => .error .isDirectory

/-- Give a file new content; a file that is not there is made. -/
def write
    (store : Store)
    (directory : Location)
    (path : String)
    (content : List UInt8) : Except Fault Store := do
  let location ← store.locate directory path
  match store.get? location with
  | some .directory => .error .isDirectory
  | _ => .ok (store.put location (.file content))

/-- The bytes at a place, none when no file is there. -/
def contentAt (store : Store) (location : Location) : List UInt8 :=
  match store.get? location with
  | some (.file content) => content
  | _ => []

/-- Make a directory; one that is there already is left alone. -/
def makeDirectory
    (store : Store)
    (directory : Location)
    (path : String) : Except Fault Store := do
  let location ← store.locate directory path
  match store.get? location with
  | none => .ok (store.put location .directory)
  | some .directory => .ok store
  | some (.file _) => .error .exists

/--
Make a directory and the directories above it that are missing; a refusal names the path
at fault.
-/
def makeDirectories
    (store : Store)
    (directory : Location)
    (path : List Char) : Except (Fault × String) Store :=
  let parent := parentText path
  let make (store : Store) : Except (Fault × String) Store :=
    match store.makeDirectory directory (String.ofList path) with
    | .ok store => .ok store
    | .error fault => .error (fault, String.ofList path)
  if _shorter : parent.length < path.length then
    if parent = [] || store.holds directory (String.ofList parent) then
      make store
    else
      match store.makeDirectories directory parent with
      | .error refusal => .error refusal
      | .ok store => if lastName path = ['.'] then .ok store else make store
  else
    make store
  termination_by path.length

end Store

/-- The text of a file's bytes, with every line end as a newline. -/
def textOf (content : List UInt8) : Except Text.Utf8.DecodeError (List Char) :=
  (Text.Utf8.decode content).map Text.unifyLineEnds

end CodeDeck.File
