import CodeDeck.Number.Digits
import CodeDeck.Pattern.Syntax
import CodeDeck.Text.Identifier
import CodeDeck.Text.Letter

namespace CodeDeck.Pattern

/-!
# Reading a pattern by its tokens

A pattern is read one token at a time, where a backslash and the character
behind it are one token. The reader keeps the rest of the pattern, the
position of the rest, and what has been found out about flags and groups. What
it has found doubtful it keeps also when it refuses the pattern in the end.
-/

/-- A character of a pattern, or a backslash with the character behind it. -/
inductive Token where
  | char (c : Char)
  | escape (c : Char)
  /-- A backslash at the end of the pattern. -/
  | dangling
  deriving Repr, DecidableEq

namespace Token

/-- The tokens of a pattern. -/
def split : List Char → List Token
  | [] => []
  | '\\' :: rest =>
      match rest with
      | [] => [.dangling]
      | c :: rest => .escape c :: split rest
  | c :: rest => .char c :: split rest

/-- The characters of a token. -/
def chars : Token → List Char
  | .char c => [c]
  | .escape c => ['\\', c]
  | .dangling => ['\\']

/-- The text of a token. -/
def text (token : Token) : String :=
  String.ofList token.chars

/-- How many characters a token has. -/
def width (token : Token) : Nat :=
  token.chars.length

end Token

/-- What is known while a pattern is read. -/
structure ReadState where
  /-- The rest of the pattern. -/
  tokens : List Token
  /-- Where the rest starts. -/
  position : Nat
  /-- The flags of the whole pattern. -/
  flags : Flags
  /-- The names of groups and their numbers. -/
  names : List (String × Nat)
  /-- The widths of the groups so far, from group one on; an open group has none yet. -/
  groups : List (Option Width)
  /-- The number of the first group that would be inside the lookbehind being read. -/
  lookbehindStart : Option Nat
  /-- The groups that conditions ask for by number, with the positions of the numbers. -/
  conditions : List (Nat × Nat)
  /-- The doubtful parts of sets, in the order in which they have been read. -/
  doubts : List Doubt
  deriving Repr

/-- A step of reading. -/
abbrev Read := ExceptT Failure (StateM ReadState)

namespace Read

/-- Refuse the pattern for a fault at a position. -/
def failAt (fault : Fault) (position : Nat) : Read α :=
  throw (.refused ⟨fault, some position⟩)

/-- Refuse the pattern for a fault that starts some characters before the rest. -/
def fail (fault : Fault) (back : Nat) : Read α := do
  failAt fault ((← get).position - back)

/-- Note a doubtful part of a set that starts some characters before the rest. -/
def doubt (idiom : SetIdiom) (back : Nat) : Read Unit :=
  modify fun state =>
    { state with doubts := state.doubts ++ [⟨idiom, state.position - back⟩] }

/-- The next token, which stays where it is. -/
def peek : Read (Option Token) := do
  return (← get).tokens.head?

/-- Whether the next token is a character. -/
def nextIs (c : Char) : Read Bool := do
  return (← peek) == some (.char c)

/-- Take the next token; none is left at the end of the pattern. -/
def next : Read (Option Token) := do
  let state ← get
  match state.tokens with
  | [] => return none
  | token :: rest =>
      let position := state.position + token.width
      if rest.head? = some .dangling then
        failAt .escapeAtEnd position
      else
        set { state with tokens := rest, position }
        return some token

/-- Take the next token if it is a character; whether it was. -/
def accept (c : Char) : Read Bool := do
  if ← nextIs c then
    let _ ← next
    return true
  else
    return false

/-- Take up to `count` characters of a kind. -/
def takeKind (kind : Char → Bool) : Nat → Read (List Char)
  | 0 => return []
  | count + 1 => do
      match ← peek with
      | some (.char c) =>
          if kind c then
            let _ ← next
            return c :: (← takeKind kind count)
          else
            return []
      | _ => return []

/-- Take all characters of a kind. -/
def takeAll (kind : Char → Bool) : Read (List Char) := do
  takeKind kind (← get).tokens.length

/-- Take a name up to its terminator, having taken some of it, at most `fuel` tokens. -/
def nameLoop (terminator : Char) (subject : String) : Nat → List Char → Read (List Char)
  | 0, _ => fail (.missingName subject) 0
  | fuel + 1, before => do
      match ← next with
      | none =>
          if before.isEmpty then
            fail (.missingName subject) 0
          else
            fail (.openName terminator) before.length
      | some token =>
          if token = .char terminator then
            if before.isEmpty then fail (.missingName subject) 1 else return before
          else
            nameLoop terminator subject fuel (before ++ token.chars)

/-- Take a name and its terminator. -/
def name (terminator : Char) (subject : String) : Read (List Char) := do
  nameLoop terminator subject ((← get).tokens.length + 1) []

/-- How many groups there are so far, open ones included. -/
def groupCount : Read Nat := do
  return (← get).groups.length

/-- Whether a group is complete. -/
def isClosed (group : Nat) : Read Bool := do
  return (((← get).groups[group - 1]?).getD none).isSome

/-- Refuse a reference to a group that the lookbehind being read does not allow. -/
def checkLookbehind (group : Nat) : Read Unit := do
  match (← get).lookbehindStart with
  | none => return
  | some first =>
      if !(← isClosed group) then
        fail .openGroup 0
      else if first ≤ group then
        fail .groupOfSameLookbehind 0

/-- The number of the group with a name. -/
def namedGroup? (name : String) : Read (Option Nat) := do
  return ((← get).names.find? fun entry => entry.1 == name).map Prod.snd

end Read

/-- An octal digit. -/
def isOctal (c : Char) : Bool :=
  '0' ≤ c && c ≤ '7'

end CodeDeck.Pattern
