import CodeDeck.Pattern.Fault

namespace CodeDeck.Pattern

/-!
# Patterns

The syntax tree of a pattern, before its flags are worked out, and how many
characters a match of it may take.
-/

/-- The flags of a pattern or of a part of it. -/
structure Flags where
  ignoreCase : Bool := false
  multiLine : Bool := false
  dotAll : Bool := false
  verbose : Bool := false
  ascii : Bool := false
  unicode : Bool := false
  template : Bool := false
  deriving Repr, DecidableEq

namespace Flags

/-- No flag at all. -/
def none : Flags := {}

/-- The flags of either side. -/
def union (first second : Flags) : Flags where
  ignoreCase := first.ignoreCase || second.ignoreCase
  multiLine := first.multiLine || second.multiLine
  dotAll := first.dotAll || second.dotAll
  verbose := first.verbose || second.verbose
  ascii := first.ascii || second.ascii
  unicode := first.unicode || second.unicode
  template := first.template || second.template

/-- The flags of the first side that are not flags of the second. -/
def without (first second : Flags) : Flags where
  ignoreCase := first.ignoreCase && !second.ignoreCase
  multiLine := first.multiLine && !second.multiLine
  dotAll := first.dotAll && !second.dotAll
  verbose := first.verbose && !second.verbose
  ascii := first.ascii && !second.ascii
  unicode := first.unicode && !second.unicode
  template := first.template && !second.template

/-- Whether two sides have a flag in common. -/
def meets (first second : Flags) : Bool :=
  (first.ignoreCase && second.ignoreCase) || (first.multiLine && second.multiLine) ||
    (first.dotAll && second.dotAll) || (first.verbose && second.verbose) ||
    (first.ascii && second.ascii) || (first.unicode && second.unicode) ||
    (first.template && second.template)

/-- The flag that a letter names. -/
def ofLetter? (c : Char) : Option Flags :=
  if c = 'i' then some { ignoreCase := true }
  else if c = 'm' then some { multiLine := true }
  else if c = 's' then some { dotAll := true }
  else if c = 'x' then some { verbose := true }
  else if c = 'a' then some { ascii := true }
  else if c = 'u' then some { unicode := true }
  else if c = 't' then some { template := true }
  else Option.none

/--
The flags inside a group that turns some on and some off; asking for one kind of classes
ends the other.
-/
def inGroup (outer added removed : Flags) : Flags :=
  let outer :=
    if added.ascii || added.unicode then { outer with ascii := false, unicode := false } else outer
  (outer.union added).without removed

end Flags

/-- The classes of characters. -/
inductive Category where
  | digit
  | space
  | word
  deriving Repr, DecidableEq

/-- A member of a character set. -/
inductive SetItem where
  | code (code : Nat)
  | range (low high : Nat)
  | category (category : Category) (negated : Bool)
  deriving Repr, DecidableEq

/-- The places that a pattern can ask for. -/
inductive Anchor where
  | lineStart
  | lineEnd
  | textStart
  | textEnd
  | boundary
  | noBoundary
  deriving Repr, DecidableEq

/-- Where a condition on the surroundings looks. -/
inductive Direction where
  | ahead
  | behind
  deriving Repr, DecidableEq

/-- The syntax tree of a pattern. -/
inductive Node where
  | empty
  | literal (code : Nat) (negated : Bool)
  | any
  | set (items : List SetItem) (negated : Bool)
  | anchor (anchor : Anchor)
  | sequence (first second : Node)
  | choice (first second : Node)
  | group (number : Option Nat) (added removed : Flags) (body : Node)
  | atomic (body : Node)
  | look (direction : Direction) (negated : Bool) (body : Node)
  | reference (group : Nat)
  | conditional (group : Nat) (matched unmatched : Node)
  | repeated (mode : RepeatMode) (least : Nat) (most : Option Nat) (body : Node)
  deriving Repr, DecidableEq

namespace Node

/-- Nodes one after the other. -/
def ofSequence : List Node → Node
  | [] => .empty
  | [node] => node
  | node :: nodes => .sequence node (ofSequence nodes)

end Node

/-- The least and the greatest number of characters of a match. -/
structure Width where
  least : Nat
  most : Nat
  deriving Repr, DecidableEq

namespace Width

/-- No match is taken to be wider. -/
def limit : Nat := Nat.pow 2 64

/-- A width with both ends cut at the limit. -/
def clamp (width : Width) : Width :=
  ⟨min width.least limit, min width.most limit⟩

end Width

/-- The width of a node; `groups` gives the widths of the groups that are referred to. -/
def Node.width (groups : Nat → Width) : Node → Width
  | .empty | .anchor _ | .look .. => ⟨0, 0⟩
  | .literal .. | .any | .set .. => ⟨1, 1⟩
  | .sequence first second =>
      let first := first.width groups
      let second := second.width groups
      Width.clamp ⟨first.least + second.least, first.most + second.most⟩
  | .choice first second =>
      let first := first.width groups
      let second := second.width groups
      ⟨min first.least second.least, max first.most second.most⟩
  | .group _ _ _ body | .atomic body => body.width groups
  | .reference number => groups number
  | .conditional _ matched unmatched =>
      let matched := matched.width groups
      let unmatched := unmatched.width groups
      ⟨min matched.least unmatched.least, max matched.most unmatched.most⟩
  | .repeated _ least most body =>
      let body := body.width groups
      let widest :=
        match most with
        | some most => body.most * most
        | none => if body.most = 0 then 0 else Width.limit
      Width.clamp ⟨body.least * least, widest⟩

end CodeDeck.Pattern
