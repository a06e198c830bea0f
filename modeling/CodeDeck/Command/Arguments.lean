import CodeDeck.Command.Flag
import CodeDeck.Text.Letter
import CodeDeck.Text.Quoted

namespace CodeDeck.Command

/-!
# Reading the arguments

The arguments name the flags before the verb, the verb, and then the flags and
the deck that belong to the verb. A long flag may be cut short as long as one
flag is meant, a value may be attached with an equals sign or, to a short
flag, directly, and short flags may be run together. After the argument `--`
nothing is a flag. Flags that nobody knows are collected and refused in the
end.
-/

/-- A value that is attached to a flag. -/
structure Attached where
  text : List Char
  byEquals : Bool
  deriving Repr, DecidableEq

/-- What an argument is before its neighbours are looked at. -/
inductive Word where
  | operand
  | separator
  | flag (flag : Flag) (isShort : Bool) (value : Option Attached)
  | unknown
  deriving Repr, DecidableEq

/-- An argument with what it is. -/
structure Argument where
  text : String
  word : Word
  deriving Repr, DecidableEq

/-- Why arguments are refused. -/
inductive Problem where
  | ambiguous (argument : String) (names : List String)
  | noValue (flag : Flag)
  | uselessValue (flag : Flag) (value : List Char)
  | unknownVerb (name : String)
  | missing (operand : String)
  | unrecognized (arguments : List String)
  deriving Repr, DecidableEq

/-- The message about refused arguments. -/
def Problem.message : Problem → String
  | .ambiguous argument names =>
      "ambiguous option: " ++ argument ++ " could match " ++ String.intercalate ", " names
  | .noValue flag => "argument " ++ flag.label ++ ": expected one argument"
  | .uselessValue flag value =>
      "argument " ++ flag.label ++ ": ignored explicit argument " ++
        String.ofList (Text.Quoted.encode value)
  | .unknownVerb name =>
      "argument command: invalid choice: " ++ Text.Quoted.quote name ++ " (choose from " ++
        String.intercalate ", " (Verb.all.map fun verb => Text.Quoted.quote verb.name) ++ ")"
  | .missing operand => "the following arguments are required: " ++ operand
  | .unrecognized arguments =>
      "unrecognized arguments: " ++ String.intercalate " " arguments

/-- Why arguments lead to no run: help is asked for, or something is wrong. -/
inductive Stop where
  | help (scope : Scope)
  | refused (scope : Scope) (problem : Problem)
  deriving Repr, DecidableEq

/-- Whether the name of a flag is a short one. -/
def isShortName : List Char → Bool
  | [_, c] => c ≠ '-'
  | _ => false

/-- An argument up to its first equals sign, and what follows the sign if there is one. -/
def splitEquals (chars : List Char) : List Char × Option Attached :=
  match chars.dropWhile (· ≠ '=') with
  | [] => (chars, none)
  | _ :: value => (chars.takeWhile (· ≠ '='), some ⟨value, true⟩)

/--
Whether an argument that starts with a dash is a negative number; a newline at its end
does not count.
-/
def isNegativeNumber (chars : List Char) : Bool :=
  match chars with
  | '-' :: rest =>
      let rest := if rest.getLast? = some '\n' then rest.dropLast else rest
      match rest.dropWhile Text.isDigit with
      | [] => !rest.isEmpty
      | '.' :: digits => !digits.isEmpty && digits.all Text.isDigit
      | _ => false
  | _ => false

/--
The readings of an argument as a flag whose name is cut short, or as a short flag with
its value.
-/
def abbreviated (scope : Scope) (chars : List Char) : List (String × Word) :=
  match chars with
  | '-' :: '-' :: _ =>
      let (start, value) := splitEquals chars
      (scope.flagNames.filter fun entry => start.isPrefixOf entry.1.toList).map
        fun entry => (entry.1, .flag entry.2 (isShortName entry.1.toList) value)
  | '-' :: c :: value =>
      (scope.flagNames.filter fun entry => entry.1.toList == ['-', c]).map
        fun entry => (entry.1, .flag entry.2 true (some ⟨value, false⟩))
  | _ => []

/-- What an argument that does not name a flag in full is. -/
def wordOfOther (scope : Scope) (chars : List Char) : Except Problem Word :=
  match abbreviated scope chars with
  | [] =>
      if isNegativeNumber chars || chars.contains ' ' then .ok .operand else .ok .unknown
  | [(_, word)] => .ok word
  | words => .error (.ambiguous (String.ofList chars) (words.map Prod.fst))

/-- What an argument is. -/
def wordOf (scope : Scope) (chars : List Char) : Except Problem Word :=
  match chars with
  | '-' :: _ :: _ =>
      let (name, value) := splitEquals chars
      match scope.flag? chars, value.isSome, scope.flag? name with
      | some flag, _, _ => .ok (.flag flag (isShortName chars) none)
      | none, true, some flag => .ok (.flag flag (isShortName name) value)
      | none, _, _ => wordOfOther scope chars
  | _ => .ok .operand

/-- All arguments with what they are: after `--` everything is an operand. -/
def words (scope : Scope) : List String → Except Problem (List Argument)
  | [] => .ok []
  | text :: texts =>
      if text = "--" then
        .ok (⟨text, .separator⟩ :: texts.map fun text => ⟨text, .operand⟩)
      else do
        let word ← wordOf scope text.toList
        let others ← words scope texts
        return ⟨text, word⟩ :: others

/-- What has been read: the values of the flags, and the arguments that nobody knows. -/
structure Options where
  config : Option String
  output : Option String
  codes : Bool
  unrecognized : List String
  deriving Repr, DecidableEq

namespace Options

/-- Nothing has been read. -/
def none : Options := ⟨.none, .none, false, []⟩

/-- A flag that is set. -/
def set (options : Options) (flag : Flag) (value : Option String) : Options :=
  match flag with
  | .help => options
  | .config => { options with config := value }
  | .output => { options with output := value }
  | .codes => { options with codes := true }

/-- An argument that nobody knows. -/
def keep (options : Options) (argument : String) : Options :=
  { options with unrecognized := options.unrecognized ++ [argument] }

end Options

/-- Flags that are run together in one argument. -/
structure Cluster where
  /-- The flags with their values. -/
  flags : List (Flag × Option String)
  /-- A last flag whose value is the next argument. -/
  waiting : Option Flag
  /-- What is left where a name is unknown. -/
  leftover : Option String
  deriving Repr, DecidableEq

/-- A cluster with one more flag in front. -/
def Cluster.cons (flag : Flag) (cluster : Cluster) : Cluster :=
  { cluster with flags := (flag, none) :: cluster.flags }

/-- A flag with nothing attached. -/
def Cluster.ofFlag (flag : Flag) : Cluster :=
  if flag.takesValue then ⟨[], some flag, none⟩ else ⟨[(flag, none)], none, none⟩

/-- A flag and the text attached to it, which is its value or further short flags. -/
def clusterOf
    (scope : Scope)
    (flag : Flag)
    (isShort byEquals : Bool)
    (text : List Char) : Except Problem Cluster :=
  if flag.takesValue then
    .ok ⟨[(flag, some (String.ofList text))], none, none⟩
  else
    match text with
    | c :: rest =>
        if !isShort || byEquals || c = '-' then
          .error (.uselessValue flag text)
        else
          match scope.flag? ['-', c] with
          | none => .ok ⟨[(flag, none)], none, some (String.ofList ('-' :: text))⟩
          | some next =>
              match rest with
              | [] => .ok ((Cluster.ofFlag next).cons flag)
              | '=' :: value => (clusterOf scope next true true value).map (Cluster.cons flag)
              | rest => (clusterOf scope next true false rest).map (Cluster.cons flag)
    | [] => .error (.uselessValue flag [])
  termination_by text.length

/-- Flags set one after the other; asking for help ends the reading. -/
def setAll (scope : Scope) (options : Options) : List (Flag × Option String) → Except Stop Options
  | [] => .ok options
  | (.help, _) :: _ => .error (.help scope)
  | (flag, value) :: flags => setAll scope (options.set flag value) flags

/-- The flags that one argument names. -/
def cluster
    (scope : Scope)
    (flag : Flag)
    (isShort : Bool)
    (value : Option Attached) : Except Problem Cluster :=
  match value with
  | none => .ok (.ofFlag flag)
  | some value => clusterOf scope flag isShort value.byEquals value.text

/-- Read flags up to the first operand, or to the end when the operand has been read before. -/
def readFlags
    (scope : Scope)
    (pastOperand : Bool)
    (options : Options) : List Argument → Except Stop (Options × List Argument)
  | [] => .ok (options, [])
  | argument :: arguments =>
      match argument.word with
      | .operand | .separator =>
          if pastOperand then
            readFlags scope pastOperand (options.keep argument.text) arguments
          else
            .ok (options, argument :: arguments)
      | .unknown => readFlags scope pastOperand (options.keep argument.text) arguments
      | .flag flag isShort value =>
          match cluster scope flag isShort value with
          | .error problem => .error (.refused scope problem)
          | .ok cluster =>
              let kept :=
                match cluster.leftover with
                | some text => options.keep text
                | none => options
              match cluster.waiting, arguments with
              | none, arguments => do
                  let options ← setAll scope kept cluster.flags
                  readFlags scope pastOperand options arguments
              | some flag, ⟨text, .operand⟩ :: arguments => do
                  let options ← setAll scope kept (cluster.flags ++ [(flag, some text)])
                  readFlags scope pastOperand options arguments
              | some flag, _ => .error (.refused scope (.noValue flag))

/-- What a run is asked to do. -/
structure Invocation where
  verb : Verb
  deck : String
  options : Options
  deriving Repr, DecidableEq

/-- What stands behind a separator that follows the deck directly. -/
def dropSeparator : List Argument → List Argument
  | ⟨_, .separator⟩ :: arguments => arguments
  | arguments => arguments

/-- Read what follows a verb. -/
def readVerb (verb : Verb) (options : Options) (texts : List String) : Except Stop Invocation := do
  let scope := Scope.ofVerb verb
  match words scope texts with
  | .error problem => .error (.refused scope problem)
  | .ok arguments =>
      let (options, arguments) ← readFlags scope false options arguments
      match arguments with
      | ⟨_, .separator⟩ :: deck :: arguments =>
          let (options, _) ← readFlags scope true options arguments
          return { verb, deck := deck.text, options }
      | ⟨deck, .operand⟩ :: arguments =>
          let (options, _) ← readFlags scope true options (dropSeparator arguments)
          return { verb, deck, options }
      | _ => .error (.refused scope (.missing scope.operandName))

/-- Read all arguments but for those that nobody knows. -/
def readKnown (texts : List String) : Except Stop Invocation := do
  match words .program texts with
  | .error problem => .error (.refused .program problem)
  | .ok arguments =>
      let (options, arguments) ← readFlags .program false .none arguments
      match arguments with
      | [] | [⟨_, .separator⟩] =>
          .error (.refused .program (.missing Scope.program.operandName))
      | verb :: others =>
          match Verb.ofName? verb.text with
          | none => .error (.refused .program (.unknownVerb verb.text))
          | some verb => readVerb verb options (others.map Argument.text)

/-- What the arguments ask for. -/
def Invocation.read (texts : List String) : Except Stop Invocation := do
  let invocation ← readKnown texts
  match invocation.options.unrecognized with
  | [] => return invocation
  | arguments => .error (.refused .program (.unrecognized arguments))

end CodeDeck.Command
