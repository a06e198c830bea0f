namespace CodeDeck.Command

/-!
# Verbs and flags

What can be asked of the program. A verb says what to do with a deck; flags
change how. Some flags stand before the verb, the others belong to it.
-/

/-- What is done with a deck. -/
inductive Verb where
  | render
  | links
  | preview
  deriving Repr, DecidableEq

namespace Verb

/-- All verbs. -/
def all : List Verb := [.render, .links, .preview]

/-- The word for a verb. -/
def name : Verb → String
  | .render => "render"
  | .links => "links"
  | .preview => "preview"

/-- What a verb does. -/
def description : Verb → String
  | .render => "Rewrite a deck with display sources and links"
  | .links => "Print the Compiler Explorer link of every block"
  | .preview => "Browse blocks in a terminal UI"

/-- The verb of a word. -/
def ofName? (name : String) : Option Verb :=
  all.find? fun verb => verb.name == name

end Verb

/-- The flags. -/
inductive Flag where
  | help
  | config
  | output
  | codes
  deriving Repr, DecidableEq

namespace Flag

/-- The names of a flag, the short one first. -/
def names : Flag → List String
  | .help => ["-h", "--help"]
  | .config => ["--config"]
  | .output => ["-o", "--output"]
  | .codes => ["--qr"]

/-- What the value of a flag is called, when the flag takes one. -/
def valueName? : Flag → Option String
  | .help | .codes => none
  | .config => some "CONFIG"
  | .output => some "OUTPUT"

/-- Whether a flag takes a value. -/
def takesValue (flag : Flag) : Bool :=
  flag.valueName?.isSome

/-- What a flag does. -/
def description : Flag → String
  | .help => "show this help message and exit"
  | .config =>
      "Path to deckscope.json (defaults to $DECKSCOPE_CONFIG or ./deckscope.json)"
  | .output => "Output file (defaults to stdout)"
  | .codes => "Also print an ASCII QR code per link"

/-- The names of a flag in one word. -/
def label (flag : Flag) : String :=
  String.intercalate "/" flag.names

end Flag

/-- Where a flag stands: before the verb, or behind it. -/
inductive Scope where
  | program
  | ofVerb (verb : Verb)
  deriving Repr, DecidableEq

namespace Scope

/-- The name under which the program speaks. -/
def programName : String := "deckscope"

/-- The name of a scope. -/
def name : Scope → String
  | .program => programName
  | .ofVerb verb => programName ++ " " ++ verb.name

/-- The flags of a scope. -/
def flags : Scope → List Flag
  | .program => [.help, .config]
  | .ofVerb .render => [.help, .output]
  | .ofVerb .links => [.help, .codes]
  | .ofVerb .preview => [.help]

/-- What a scope calls the operand that it needs. -/
def operandName : Scope → String
  | .program => "command"
  | .ofVerb _ => "deck"

/-- The names of the flags of a scope with their flags. -/
def flagNames (scope : Scope) : List (String × Flag) :=
  scope.flags.flatMap fun flag => flag.names.map fun name => (name, flag)

/-- The flag that a name stands for. -/
def flag? (scope : Scope) (name : List Char) : Option Flag :=
  (scope.flagNames.find? fun entry => entry.1.toList == name).map Prod.snd

end Scope

end CodeDeck.Command
