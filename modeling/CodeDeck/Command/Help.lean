import CodeDeck.Command.Arguments
import CodeDeck.Text.Separated

namespace CodeDeck.Command

/-!
# Help texts

How the usage of a scope and the help about it are laid out on a screen of 80
columns: entries are indented by two, what they do starts in one column for
all of them, and a text that is too wide goes on in the next line.
-/

/-- The columns of a line. -/
def lineWidth : Nat := 78

/-- The last column in which descriptions may start. -/
def lastColumn : Nat := 24

/-- The indent of an entry. -/
def entryIndent : Nat := 2

/-- Blanks. -/
def blanks (count : Nat) : String :=
  String.ofList (List.replicate count ' ')

/-- A text filled up with blanks to a width. -/
def padded (width : Nat) (text : String) : String :=
  text ++ blanks (width - text.length)

/-- Words put into lines of a width; `line` is the line that is being filled. -/
def wrapFrom (width : Nat) (line : String) : List String → List String
  | [] => [line]
  | word :: words =>
      if line.length + 1 + word.length ≤ width then
        wrapFrom width (line ++ " " ++ word) words
      else
        line :: wrapFrom width word words

/-- A text in lines of a width. -/
def wrapped (width : Nat) (text : String) : List String :=
  match (Text.separated ' ' text.toList).map String.ofList with
  | [] => []
  | word :: words => wrapFrom width word words

/-- An entry of a list of what can be given. -/
structure HelpEntry where
  indent : Nat
  name : String
  description : String
  deriving Repr, DecidableEq

/-- A flag in the usage of its scope. -/
def Flag.usage (flag : Flag) : String :=
  let name := flag.names.headD ""
  match flag.valueName? with
  | none => "[" ++ name ++ "]"
  | some value => "[" ++ name ++ " " ++ value ++ "]"

/-- A flag with all its names and what its value is called. -/
def Flag.entry (flag : Flag) : HelpEntry where
  indent := entryIndent
  name :=
    String.intercalate ", " (flag.names.map fun name =>
      match flag.valueName? with
      | none => name
      | some value => name ++ " " ++ value)
  description := flag.description

namespace Scope

/-- All verbs to choose from. -/
def choices : String :=
  "\x7b" ++ String.intercalate "," (Verb.all.map Verb.name) ++ "\x7d"

/-- The operands in the usage of a scope. -/
def operandUsage (scope : Scope) : String :=
  match scope with
  | .program => choices ++ " ..."
  | scope => scope.operandName

/-- The operands of a scope as entries. -/
def operandEntries (scope : Scope) : List HelpEntry :=
  match scope with
  | .program =>
      ⟨entryIndent, choices, ""⟩ ::
        Verb.all.map fun verb => ⟨2 * entryIndent, verb.name, verb.description⟩
  | scope => [⟨entryIndent, scope.operandName, ""⟩]

/-- The usage of a scope. -/
def usage (scope : Scope) : String :=
  "usage: " ++
    String.intercalate " "
      (scope.name :: scope.flags.map Flag.usage ++ [scope.operandUsage]) ++ "\n"

/-- All entries of a scope. -/
def entries (scope : Scope) : List HelpEntry :=
  scope.operandEntries ++ scope.flags.map Flag.entry

/-- The column in which descriptions start. -/
def column (scope : Scope) : Nat :=
  let widest := (scope.entries.map fun entry => entryIndent + entry.name.length).foldl max 0
  min (widest + 2) lastColumn

end Scope

/-- An entry with its description, which starts in a given column. -/
def HelpEntry.render (entry : HelpEntry) (column : Nat) : String :=
  let name := blanks entry.indent ++ entry.name
  if entry.description = "" then
    name ++ "\n"
  else
    let start :=
      if name.length + 2 ≤ column then padded column name else name ++ "\n" ++ blanks column
    let lines := wrapped (lineWidth - column) entry.description
    start ++ String.intercalate ("\n" ++ blanks column) lines ++ "\n"

/-- The help about a scope. -/
def Scope.help (scope : Scope) : String :=
  let render (entries : List HelpEntry) : String :=
    String.join (entries.map fun entry => entry.render scope.column)
  scope.usage ++ "\npositional arguments:\n" ++ render scope.operandEntries ++
    "\noptions:\n" ++ render (scope.flags.map Flag.entry)

/-- What is said about refused arguments. -/
def refusal (scope : Scope) (problem : Problem) : String :=
  scope.usage ++ scope.name ++ ": error: " ++ problem.message ++ "\n"

end CodeDeck.Command
