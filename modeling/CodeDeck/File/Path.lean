import CodeDeck.Text.Separated

namespace CodeDeck.File

/-!
# Paths

A path is a place to start from and the names to follow from there. Empty
names and the name `.` are dropped when a text is read as a path; the name
`..` is kept, because what lies above a place is a matter of the place.
-/

/--
Where a path starts: at the working directory, at the top, or at the top named with two
slashes.
-/
inductive Start where
  | working
  | top
  | doubleTop
  deriving Repr, DecidableEq

/-- What a path starts with in writing. -/
def Start.text : Start → String
  | .working => ""
  | .top => "/"
  | .doubleTop => "//"

/-- The start of a written path: two slashes are told apart from one, and more count as one. -/
def Start.ofChars : List Char → Start
  | '/' :: '/' :: '/' :: _ => .top
  | '/' :: '/' :: _ => .doubleTop
  | '/' :: _ => .top
  | _ => .working

/-- A path. -/
structure Path where
  start : Start
  names : List String
  deriving Repr, DecidableEq

/-- A place in the tree of files: the names that lead to it from the top. -/
abbrev Location := List String

namespace Path

/-- The names that a text has between its slashes, the empty ones left out. -/
def namesOf (text : String) : List String :=
  ((Text.separated '/' text.toList).filter (· ≠ [])).map String.ofList

/-- The path that a text stands for. -/
def ofText (text : String) : Path where
  start := Start.ofChars text.toList
  names := (namesOf text).filter (· ≠ ".")

/-- A path as a text. -/
def text (path : Path) : String :=
  match path.start, path.names with
  | .working, [] => "."
  | start, names => start.text ++ String.intercalate "/" names

/-- The path of a place. -/
def ofLocation (location : Location) : Path :=
  ⟨.top, location⟩

/-- A path by one name longer. -/
def child (path : Path) (name : String) : Path :=
  { path with names := path.names ++ [name] }

/-- One more name followed on paper: `..` takes back the last name. -/
def followName (names : List String) (name : String) : List String :=
  if name = ".." then names.dropLast else names ++ [name]

/-- The path from the top that results when every `..` takes back the name before it. -/
def absolute (directory : Location) (path : Path) : Path :=
  match path.start with
  | .working => ⟨.top, path.names.foldl followName directory⟩
  | start => ⟨start, path.names.foldl followName []⟩

/-- The place itself and the places that names lead to from there one after the other. -/
def placesFrom (here : Location) : List String → List Location
  | [] => [here]
  | name :: names => here :: placesFrom (followName here name) names

/-- The places that a path passes on its way. -/
def places (directory : Location) (path : Path) : List Location :=
  match path.start with
  | .working => placesFrom directory path.names
  | _ => placesFrom [] path.names

end Path

/-- What follows the last slash of a written path. -/
def lastName (chars : List Char) : List Char :=
  (chars.reverse.takeWhile (· ≠ '/')).reverse

/-- A written path up to its last slash, without slashes at its end unless it has nothing else. -/
def parentText (chars : List Char) : List Char :=
  let reversed := chars.reverse.dropWhile (· ≠ '/')
  match reversed.dropWhile (· = '/') with
  | [] => reversed
  | stripped => stripped.reverse

end CodeDeck.File
