import CodeDeck.Pattern.Escape

namespace CodeDeck.Pattern

/-!
# From text to syntax tree

A pattern is a list of alternatives, an alternative a list of items, and an
item a character, a set, a place, a group or a repetition of the item before
it. Each refusal names the position at which the reader gives up. How deeply
groups nest does not matter here; what the stack of a machine has room for is
told apart, where a pattern is taken out of a source.
-/

namespace Read

/-- What an escape stands for, as a node. -/
def nodeOf : Escape → Node
  | .code value => .literal value false
  | .category category negated => .set [.category category negated] false
  | .anchor place => .anchor place
  | .reference number => .reference number

/-- What an escape stands for, as a member of a set. -/
def memberOf : Escape → SetItem
  | .code value => .code value
  | .category category negated => .category category negated
  | .anchor _ | .reference _ => .code 0

/-- The member of a set that starts with a token. -/
def setMember : Token → Read Escape
  | .char c => return .code c.toNat
  | .escape c => Escape.readInSet c
  | .dangling => return .code 92

/-- The range between two members, which both have to be single characters in order. -/
def setRange (low high : Token) (first second : Escape) : Read SetItem := do
  match first, second with
  | .code first, .code second =>
      if second < first then
        fail (.badRange low.text high.text) (low.width + 1 + high.width)
      else
        return .range first second
  | _, _ => fail (.badRange low.text high.text) (low.width + 1 + high.width)

/-- Doubt a sign behind other members of a set that stands there twice. -/
def doubtDoubled (before : List SetItem) : Token → Read Unit
  | .char c => do
      match SetIdiom.ofDoubled? c with
      | some idiom => if before ≠ [] ∧ (← nextIs c) then doubt idiom 1
      | none => return
  | _ => return

/--
The members of a set up to its bracket, at most `fuel` of them; a bracket right at the
start is a member.
-/
def setLoop (start : Nat) : Nat → List SetItem → Read (List SetItem)
  | 0, _ => failAt .openSet start
  | fuel + 1, before => do
      match ← next with
      | none => failAt .openSet start
      | some token =>
          if token = .char ']' ∧ before ≠ [] then
            return before
          else
            doubtDoubled before token
            let first ← setMember token
            if ← accept '-' then
              match ← next with
              | none => failAt .openSet start
              | some high =>
                  if high = .char ']' then
                    return before ++ [memberOf first, .code 45]
                  else
                    if high = .char '-' then doubt .difference 2
                    let second ← setMember high
                    let range ← setRange token high first second
                    setLoop start fuel (before ++ [range])
            else
              setLoop start fuel (before ++ [memberOf first])

/-- Doubt another opening bracket right at the start of a set. -/
def doubtNested : Read Unit := do
  if ← nextIs '[' then doubt .nested 0

/-- A character set whose opening bracket has been taken. -/
def characterSet : Read Node := do
  let start := (← get).position - 1
  doubtNested
  let negated ← accept '^'
  let items ← setLoop start ((← get).tokens.length + 1) []
  match items.eraseDups with
  | [.code value] => return .literal value negated
  | items => return .set items negated

/-- No count of repetitions may reach this. -/
def repeatLimit : Nat := Nat.pow 2 32 - 1

/-- The count that digits stand for. -/
def repeatCount (digits : List Char) : Read Nat := do
  if Numeral.maxDigits < digits.length then
    throw (.longNumeral digits.length)
  else
    let count := Digits.toNat 10 digits
    if repeatLimit ≤ count then
      throw .hugeRepeat
    else
      return count

/-- The bounds of a repetition in braces; none, and nothing taken, when no bounds stand there. -/
def braceBounds : Read (Option (Nat × Option Nat)) := do
  let start ← get
  if ← nextIs '\x7d' then
    return none
  else
    let low ← takeAll Decimal.isDigit
    let high ← if ← accept ',' then takeAll Decimal.isDigit else pure low
    if !(← accept '\x7d') then
      set start
      return none
    else
      let least ← if low.isEmpty then pure 0 else repeatCount low
      if high.isEmpty then
        return some (least, none)
      else
        let most ← repeatCount high
        if most < least then
          failAt .emptyRepeat start.position
        else
          return some (least, some most)

/-- The bounds that a repetition sign stands for. -/
def repeatBounds (sign : Char) : Read (Option (Nat × Option Nat)) := do
  if sign = '?' then
    return some (0, some 1)
  else if sign = '*' then
    return some (0, none)
  else if sign = '+' then
    return some (1, none)
  else
    braceBounds

/-- How a repetition goes on after its bounds. -/
def repeatMode : Read RepeatMode := do
  if ← accept '?' then
    return .lazy
  else if ← accept '+' then
    return .possessive
  else
    return .greedy

/--
Repeat the last of the items, which are given last first; `start` is where the
repetition sign stands.
-/
def repeatLast (start : Nat) (bounds : Nat × Option Nat) : List Node → Read (List Node)
  | [] => failAt .nothingToRepeat start
  | .anchor _ :: _ => failAt .nothingToRepeat start
  | .repeated .. :: _ => failAt .repeatOfRepeat start
  | item :: before => do
      let mode ← repeatMode
      return .repeated mode bounds.1 bounds.2 item :: before

/-- Skip a comment up to the end of its line, at most `fuel` tokens. -/
def skipLine : Nat → Read Unit
  | 0 => return
  | fuel + 1 => do
      match ← next with
      | none => return
      | some token => if token = .char '\n' then return else skipLine fuel

/-- Skip a comment up to its parenthesis, at most `fuel` tokens. -/
def skipComment (start : Nat) : Nat → Read Unit
  | 0 => failAt .openComment start
  | fuel + 1 => do
      match ← next with
      | none => failAt .openComment start
      | some token => if token = .char ')' then return else skipComment start fuel

/-- Refuse the token that stands where a flag is expected. -/
def refuseFlag (missing : Fault) (token : Token) : Read α :=
  match token with
  | .char c => fail (if Text.isLetter c then .unknownFlag else missing) 1
  | token => fail missing token.width

/--
Flags that are turned on, starting with a letter, at most `fuel` of them; and the sign
that ends them.
-/
def flagsOn : Nat → Char → Flags → Read (Flags × Char)
  | 0, _, _ => fail .flagsNotEnded 0
  | fuel + 1, letter, before => do
      if letter = 'L' then
        fail .localeFlag 0
      else
        let flag := (Flags.ofLetter? letter).getD .none
        let flags := before.union flag
        if (flag.ascii || flag.unicode) && flags.ascii && flags.unicode then
          fail .exclusiveFlags 0
        else
          match ← next with
          | none => fail .flagsNotEnded 0
          | some (.char c) =>
              if c = ')' ∨ c = '-' ∨ c = ':' then
                return (flags, c)
              else if c = 'L' ∨ (Flags.ofLetter? c).isSome then
                flagsOn fuel c flags
              else
                refuseFlag .flagsNotEnded (.char c)
          | some token => refuseFlag .flagsNotEnded token

/-- Flags that are turned off up to the colon, starting with a letter, at most `fuel` of them. -/
def flagsOff : Nat → Char → Flags → Read Flags
  | 0, _, _ => fail .flagsWithoutColon 0
  | fuel + 1, letter, before => do
      let flag := (Flags.ofLetter? letter).getD .none
      if letter = 'L' ∨ flag.ascii ∨ flag.unicode then
        fail .typeFlagOff 0
      else
        let flags := before.union flag
        match ← next with
        | none => fail .flagsWithoutColon 0
        | some (.char c) =>
            if c = ':' then
              return flags
            else if c = 'L' ∨ (Flags.ofLetter? c).isSome then
              flagsOff fuel c flags
            else
              refuseFlag .flagsWithoutColon (.char c)
        | some token => refuseFlag .flagsWithoutColon token

/-- The flags behind a minus sign. -/
def flagsBehindMinus : Read Flags := do
  match ← next with
  | none => fail .missingFlag 0
  | some (.char c) =>
      if c = 'L' ∨ (Flags.ofLetter? c).isSome then
        flagsOff ((← get).tokens.length + 1) c .none
      else
        refuseFlag .missingFlag (.char c)
  | some token => refuseFlag .missingFlag token

/--
What flags in a group mean: flags for the whole pattern, or flags on and off inside the
group.
-/
inductive FlagGroup where
  | whole
  | inside (added removed : Flags)

/-- Flags in a group, starting with a flag or a minus sign. -/
def flagGroup (first : Char) : Read FlagGroup := do
  let (added, sign) ←
    if first = '-' then
      pure (Flags.none, '-')
    else
      flagsOn ((← get).tokens.length + 1) first .none
  if sign = ')' then
    modify fun state => { state with flags := state.flags.union added }
    return .whole
  else if added.template then
    fail .globalFlagOn 1
  else
    let removed ← if sign = '-' then flagsBehindMinus else pure Flags.none
    if removed.template then
      fail .globalFlagOff 1
    else if added.meets removed then
      fail .flagOnAndOff 1
    else
      return .inside added removed

/-- A group name up to its terminator, which has to be a name. -/
def groupName (terminator : Char) : Read (List Char) := do
  let chars ← name terminator "group name"
  if Text.isIdentifier chars then
    return chars
  else
    fail (.badGroupName (String.ofList chars)) (chars.length + 1)

/-- The number of the group with a name that is there. -/
def knownGroup (chars : List Char) : Read Nat := do
  match ← namedGroup? (String.ofList chars) with
  | some number => return number
  | none => fail (.unknownGroupName (String.ofList chars)) (chars.length + 1)

/-- A reference to a group by its name. -/
def namedReference : Read Node := do
  let chars ← groupName ')'
  let number ← knownGroup chars
  if !(← isClosed number) then
    fail .openGroup (chars.length + 1)
  else
    checkLookbehind number
    return .reference number

/-- No group may have this number. -/
def groupLimit : Nat := Nat.pow 2 30 - 1

/-- The group that a condition asks for, by name or by number. -/
def conditionGroup : Read Nat := do
  let chars ← name ')' "group name"
  if Text.isIdentifier chars then
    knownGroup chars
  else
    match Numeral.read chars with
    | .ok (.ofNat 0) => fail .badGroupNumber (chars.length + 1)
    | .ok (.ofNat number) =>
        if groupLimit ≤ number then
          fail (.invalidReference number) (chars.length + 1)
        else
          let state ← get
          if state.conditions.all fun condition => condition.1 != number then
            let position := state.position - chars.length - 1
            set { state with conditions := state.conditions ++ [(number, position)] }
          return number
    | _ => fail (.badGroupName (String.ofList chars)) (chars.length + 1)

/-- Start a group that is kept, with its name if it has one. -/
def openGroup (name? : Option (List Char)) : Read Nat := do
  let state ← get
  let number := state.groups.length + 1
  let groups := state.groups ++ [none]
  match name? with
  | none =>
      set { state with groups }
      return number
  | some chars =>
      let name := String.ofList chars
      match ← namedGroup? name with
      | some earlier => fail (.groupNameTaken name number earlier) (chars.length + 1)
      | none =>
          set { state with groups, names := state.names ++ [(name, number)] }
          return number

/-- The widths of the complete groups. -/
def widthOf (groups : List (Option Width)) (number : Nat) : Width :=
  ((groups[number - 1]?).getD none).getD ⟨0, 0⟩

/-- Complete a group with its body. -/
def closeGroup (number : Nat) (body : Node) : Read Unit :=
  modify fun state =>
    { state with
      groups := state.groups.set (number - 1) (some (body.width (widthOf state.groups))) }

/-- Take the parenthesis that ends the group which starts at a position. -/
def closeParenthesis (start : Nat) : Read Unit := do
  if !(← accept ')') then
    failAt .missingParenthesis start

/--
What stands in parentheses: a node or nothing, and whether blanks and comments are
skipped from there on.
-/
structure Parenthesis where
  node : Option Node
  verbose : Bool

mutual

/-- Alternatives up to the end of their group; `outermost` when they are the whole pattern. -/
def choices : Nat → Bool → Bool → Read Node
  | 0, _, _ => fail .unexpectedEnd 0
  | fuel + 1, verbose, outermost => do
      let first ← items fuel verbose outermost []
      if ← accept '|' then
        let state ← get
        let others ← moreChoices fuel (if outermost then state.flags.verbose else verbose)
        return .choice (Node.ofSequence first) others
      else
        return Node.ofSequence first

/-- The alternatives behind the first one. -/
def moreChoices : Nat → Bool → Read Node
  | 0, _ => fail .unexpectedEnd 0
  | fuel + 1, verbose => do
      let first ← items fuel verbose false []
      if ← accept '|' then
        let others ← moreChoices fuel verbose
        return .choice (Node.ofSequence first) others
      else
        return Node.ofSequence first

/--
The items of one alternative, those read before given last first.

Blanks and comments are skipped when `verbose`. Flags for the whole pattern may
stand where `outermost` and no item has been read.
-/
def items : Nat → Bool → Bool → List Node → Read (List Node)
  | 0, _, _, _ => fail .unexpectedEnd 0
  | fuel + 1, verbose, outermost, before => do
      match ← peek with
      | none => return before.reverse
      | some token =>
          if token = .char '|' ∨ token = .char ')' then
            return before.reverse
          else
            let start := (← get).position
            let _ ← next
            match token with
            | .dangling => fail .escapeAtEnd 0
            | .escape c =>
                let escape ← Escape.read c
                items fuel verbose outermost (nodeOf escape :: before)
            | .char c =>
                if verbose ∧ (c = ' ' ∨ ('\t' ≤ c ∧ c ≤ '\r')) then
                  items fuel verbose outermost before
                else if verbose ∧ c = '#' then
                  skipLine ((← get).tokens.length + 1)
                  items fuel verbose outermost before
                else if c = '[' then
                  let set ← characterSet
                  items fuel verbose outermost (set :: before)
                else if c = '?' ∨ c = '*' ∨ c = '+' ∨ c = '\x7b' then
                  match ← repeatBounds c with
                  | none => items fuel verbose outermost (.literal c.toNat false :: before)
                  | some bounds =>
                      let before ← repeatLast start bounds before
                      items fuel verbose outermost before
                else if c = '.' then
                  items fuel verbose outermost (.any :: before)
                else if c = '^' then
                  items fuel verbose outermost (.anchor .lineStart :: before)
                else if c = '$' then
                  items fuel verbose outermost (.anchor .lineEnd :: before)
                else if c = '(' then
                  let inner ← parenthesis fuel verbose (outermost && before.isEmpty) start
                  match inner.node with
                  | none => items fuel inner.verbose outermost before
                  | some node => items fuel inner.verbose outermost (node :: before)
                else
                  items fuel verbose outermost (.literal c.toNat false :: before)

/-- What stands in parentheses that start at a position and whose opening one has been taken. -/
def parenthesis : Nat → Bool → Bool → Nat → Read Parenthesis
  | 0, _, _, _ => fail .unexpectedEnd 0
  | fuel + 1, verbose, flagsAllowed, start => do
      if !(← accept '?') then
        kept fuel verbose start none
      else
        match ← next with
        | none => fail .unexpectedEnd 0
        | some (.char c) =>
            if c = 'P' then
              if ← accept '<' then
                let chars ← groupName '>'
                kept fuel verbose start (some chars)
              else if ← accept '=' then
                return ⟨some (← namedReference), verbose⟩
              else
                match ← next with
                | none => fail .unexpectedEnd 0
                | some token => fail (.unknownExtension ("P" ++ token.text)) (token.width + 2)
            else if c = ':' then
              let body ← choices fuel verbose false
              closeParenthesis start
              return ⟨some (.group none .none .none body), verbose⟩
            else if c = '#' then
              skipComment start ((← get).tokens.length + 1)
              return ⟨none, verbose⟩
            else if c = '=' ∨ c = '!' then
              let body ← choices fuel verbose false
              closeParenthesis start
              return ⟨some (.look .ahead (c == '!') body), verbose⟩
            else if c = '<' then
              lookbehind fuel verbose start
            else if c = '(' then
              conditional fuel verbose start
            else if c = '>' then
              let body ← choices fuel verbose false
              closeParenthesis start
              return ⟨some (.atomic body), verbose⟩
            else if c = '-' ∨ c = 'L' ∨ (Flags.ofLetter? c).isSome then
              match ← flagGroup c with
              | .whole =>
                  if flagsAllowed then
                    return ⟨none, (← get).flags.verbose⟩
                  else
                    failAt .lateFlags start
              | .inside added removed =>
                  let inner := (verbose || added.verbose) && !removed.verbose
                  let body ← choices fuel inner false
                  closeParenthesis start
                  return ⟨some (.group none added removed body), verbose⟩
            else
              fail (.unknownExtension c.toString) 2
        | some token => fail (.unknownExtension token.text) (token.width + 1)

/-- A group that is kept, with its name if it has one. -/
def kept : Nat → Bool → Nat → Option (List Char) → Read Parenthesis
  | 0, _, _, _ => fail .unexpectedEnd 0
  | fuel + 1, verbose, start, name? => do
      let number ← openGroup name?
      let body ← choices fuel verbose false
      closeParenthesis start
      closeGroup number body
      return ⟨some (.group (some number) .none .none body), verbose⟩

/-- A condition on what stands before. -/
def lookbehind : Nat → Bool → Nat → Read Parenthesis
  | 0, _, _ => fail .unexpectedEnd 0
  | fuel + 1, verbose, start => do
      match ← next with
      | none => fail .unexpectedEnd 0
      | some token =>
          if token ≠ .char '=' ∧ token ≠ .char '!' then
            fail (.unknownExtension ("<" ++ token.text)) (token.width + 2)
          else
            let outer := (← get).lookbehindStart
            modify fun state =>
              { state with lookbehindStart := outer.or (some (state.groups.length + 1)) }
            let body ← choices fuel verbose false
            modify fun state => { state with lookbehindStart := outer }
            closeParenthesis start
            return ⟨some (.look .behind (token == .char '!') body), verbose⟩

/-- A choice by whether a group has matched. -/
def conditional : Nat → Bool → Nat → Read Parenthesis
  | 0, _, _ => fail .unexpectedEnd 0
  | fuel + 1, verbose, start => do
      let number ← conditionGroup
      checkLookbehind number
      let matched ← items fuel verbose false []
      let unmatched ←
        if ← accept '|' then
          let unmatched ← items fuel verbose false []
          if ← nextIs '|' then fail .thirdBranch 0 else pure unmatched
        else
          pure []
      closeParenthesis start
      return ⟨some (.conditional number (Node.ofSequence matched) (Node.ofSequence unmatched)),
        verbose⟩

end

/-- The reader at the start of a pattern. -/
def start (pattern : List Char) : ReadState where
  tokens := Token.split pattern
  position := 0
  flags := .none
  names := []
  groups := []
  lookbehindStart := none
  conditions := []
  doubts := []

/-- A whole pattern. -/
def pattern : Read Node := do
  let state ← get
  if state.tokens.head? = some .dangling then
    fail .escapeAtEnd 0
  else
    let node ← choices (4 * state.tokens.length + 4) false true
    let state ← get
    if state.flags.ascii && state.flags.unicode then
      throw .asciiAndUnicode
    else if !state.tokens.isEmpty then
      fail .extraParenthesis 0
    else
      match state.conditions.find? fun condition => state.groups.length < condition.1 with
      | some (number, position) => failAt (.invalidReference number) position
      | none => return node

end Read

/-- A pattern as a tree, with the flags that hold for all of it and the widths of its groups. -/
structure Parsed where
  node : Node
  flags : Flags
  groups : List (Option Width)
  deriving Repr

/-- The tree of a pattern. -/
def parse (pattern : List Char) : Except Failure Parsed :=
  match Read.pattern (Read.start pattern) with
  | (.error cause, _) => .error cause
  | (.ok node, state) => .ok { node, flags := state.flags, groups := state.groups }

/-- The doubtful parts of a text that is read as a pattern, also if it is refused. -/
def doubts (pattern : List Char) : List Doubt :=
  (Read.pattern (Read.start pattern)).2.doubts

end CodeDeck.Pattern
