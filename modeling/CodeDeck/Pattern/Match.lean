import CodeDeck.Pattern.Program

namespace CodeDeck.Pattern

/-!
# Matching

A program is matched from a position on by trying its choices in order of
preference; what follows a part is handed to it as a continuation, and the
first way through to the end counts. Groups are kept with the position, so
that giving a choice up also gives up the groups found on the way.

A repetition that need not go on ends when its last round has not moved.
-/

/-- A position in a text, and where groups last started and ended. -/
structure Progress where
  position : Nat
  starts : List (Nat × Nat)
  ends : List (Nat × Nat)
  deriving Repr, DecidableEq

namespace Progress

/-- At a position with no group found. -/
def startingAt (position : Nat) : Progress := ⟨position, [], []⟩

/-- At another position. -/
def moved (progress : Progress) (position : Nat) : Progress :=
  { progress with position }

/-- A group starts here. -/
def started (progress : Progress) (group : Nat) : Progress :=
  { progress with starts := (group, progress.position) :: progress.starts }

/-- A group ends here. -/
def ended (progress : Progress) (group : Nat) : Progress :=
  { progress with ends := (group, progress.position) :: progress.ends }

/-- Where a group has been found. -/
def span? (progress : Progress) (group : Nat) : Option (Nat × Nat) := do
  let start ← progress.starts.find? fun mark => mark.1 == group
  let finish ← progress.ends.find? fun mark => mark.1 == group
  if start.2 ≤ finish.2 then some (start.2, finish.2) else none

end Progress

/-- Whether the character at an index is a word character. -/
def isWordAt (repertoire : Repertoire) (text : Array Char) (index : Nat) : Bool :=
  match text[index]? with
  | some c => Category.holds .word repertoire c
  | none => false

/-- Whether a position is a place; an empty text has no boundaries and no other positions either. -/
def Place.holds (place : Place) (text : Array Char) (position : Nat) : Bool :=
  match place with
  | .textStart => position == 0
  | .textEnd => position == text.size
  | .lastLineEnd =>
      position == text.size || (position + 1 == text.size && text[position]? == some '\n')
  | .lineStart => position == 0 || text[position - 1]? == some '\n'
  | .lineEnd => position == text.size || text[position]? == some '\n'
  | .boundary repertoire negated =>
      if text.size = 0 then
        false
      else
        let before := 0 < position && isWordAt repertoire text (position - 1)
        (before != isWordAt repertoire text position) != negated

/--
The position behind a second copy of the characters between two indices, if it stands at
a position.
-/
def copyEnd?
    (caseless : Option Repertoire)
    (text : Array Char)
    (start finish position : Nat) : Option Nat :=
  let same (a b : Option Char) : Bool :=
    match a, b, caseless with
    | some a, some b, none => a == b
    | some a, some b, some repertoire => repertoire.lower a.toNat == repertoire.lower b.toNat
    | _, _, _ => false
  if (List.range (finish - start)).all fun offset =>
      same text[start + offset]? text[position + offset]? then
    some (position + (finish - start))
  else
    none

/-- What is to be done behind a part of a program. -/
abbrev Continuation := Progress → Option Progress

/-- A part of a program: the first way through it that its continuation accepts. -/
abbrev Matcher := Progress → Continuation → Option Progress

namespace Matcher

/-- A part as often as a count says. -/
def times (part : Matcher) : Nat → Matcher
  | 0, progress, next => next progress
  | count + 1, progress, next => part progress fun progress => times part count progress next

/-- Whether a repetition may go on: its rounds are not used up and its last round has moved. -/
def mayGoOn (rounds : Option Nat) (last : Option Nat) (progress : Progress) : Bool :=
  rounds != some 0 && last != some progress.position

/-- A part as often as possible, giving rounds back one by one. -/
def greedy (part : Matcher) : Nat → Option Nat → Option Nat → Matcher
  | 0, _, _, progress, next => next progress
  | fuel + 1, rounds, last, progress, next =>
      if mayGoOn rounds last progress then
        let again := part progress fun later =>
          greedy part fuel (rounds.map (· - 1)) (some progress.position) later next
        match again with
        | some result => some result
        | none => next progress
      else
        next progress

/-- A part as seldom as possible, taking rounds one by one. -/
def lazy (part : Matcher) : Nat → Option Nat → Option Nat → Matcher
  | 0, _, _, progress, next => next progress
  | fuel + 1, rounds, last, progress, next =>
      match next progress with
      | some result => some result
      | none =>
          if mayGoOn rounds last progress then
            part progress fun later =>
              lazy part fuel (rounds.map (· - 1)) (some progress.position) later next
          else
            none

/-- The first way through a part whatever follows. -/
def once (part : Matcher) (progress : Progress) : Option Progress :=
  part progress some

/-- A part as often as possible, each time in its first way. -/
def possessive (part : Matcher) : Nat → Option Nat → Option Nat → Progress → Progress
  | 0, _, _, progress => progress
  | fuel + 1, rounds, last, progress =>
      if mayGoOn rounds last progress then
        match once part progress with
        | some later =>
            possessive part fuel (rounds.map (· - 1)) (some progress.position) later
        | none => progress
      else
        progress

/-- A part a number of times, each time in its first way. -/
def timesOnce (part : Matcher) : Nat → Progress → Option Progress
  | 0, progress => some progress
  | count + 1, progress =>
      match once part progress with
      | some later => timesOnce part count later
      | none => none

end Matcher

/-- The first way through a program over a text that its continuation accepts. -/
def Program.run (text : Array Char) : Program → Matcher
  | .empty, progress, next => next progress
  | .test check, progress, next =>
      match text[progress.position]? with
      | some c => if check.accepts c then next (progress.moved (progress.position + 1)) else none
      | none => none
  | .place spot, progress, next =>
      if spot.holds text progress.position then next progress else none
  | .sequence first second, progress, next =>
      run text first progress fun progress => run text second progress next
  | .choice first second, progress, next =>
      match run text first progress next with
      | some result => some result
      | none => run text second progress next
  | .capture group body, progress, next =>
      run text body (progress.started group) fun progress => next (progress.ended group)
  | .atomic body, progress, next =>
      match Matcher.once (run text body) progress with
      | some later => next later
      | none => none
  | .ahead negated body, progress, next =>
      match Matcher.once (run text body) progress, negated with
      | some later, false => next (later.moved progress.position)
      | none, true => next progress
      | _, _ => none
  | .behind distance negated body, progress, next =>
      let found :=
        if distance ≤ progress.position then
          Matcher.once (run text body) (progress.moved (progress.position - distance))
        else
          none
      match found, negated with
      | some later, false => next (later.moved progress.position)
      | none, true => next progress
      | _, _ => none
  | .reference group caseless, progress, next =>
      match progress.span? group with
      | none => none
      | some (start, finish) =>
          match copyEnd? caseless text start finish progress.position with
          | some position => next (progress.moved position)
          | none => none
  | .conditional group matched unmatched, progress, next =>
      match progress.span? group with
      | some _ => run text matched progress next
      | none => run text unmatched progress next
  | .repeated mode least most body, progress, next =>
      let rounds := most.map (· - least)
      let fuel (progress : Progress) : Nat := text.size - progress.position + 2
      match mode with
      | .greedy =>
          Matcher.times (run text body) least progress fun progress =>
            Matcher.greedy (run text body) (fuel progress) rounds none progress next
      | .lazy =>
          Matcher.times (run text body) least progress fun progress =>
            Matcher.lazy (run text body) (fuel progress) rounds none progress next
      | .possessive =>
          match Matcher.timesOnce (run text body) least progress with
          | none => none
          | some progress =>
              next (Matcher.possessive (run text body) (fuel progress) rounds none progress)

/-- Where the match that starts at a position ends; an empty match may be excluded. -/
def Program.matchAt?
    (program : Program)
    (text : Array Char)
    (start : Nat)
    (mayBeEmpty : Bool) : Option Nat :=
  let accept : Continuation := fun progress =>
    if mayBeEmpty || progress.position != start then some progress else none
  (program.run text (Progress.startingAt start) accept).map Progress.position

end CodeDeck.Pattern
