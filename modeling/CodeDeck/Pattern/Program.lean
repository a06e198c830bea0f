import CodeDeck.Pattern.CharTest
import CodeDeck.Pattern.Parse

namespace CodeDeck.Pattern

/-!
# Patterns ready to be matched

A pattern with its flags worked out: each test of a character and each place
says by itself what it means. A lookbehind knows how far back it starts, which
its body has to fix.
-/

/-- The places of a text. -/
inductive Place where
  | textStart
  | textEnd
  /-- At the end of the text or before a newline that ends it. -/
  | lastLineEnd
  | lineStart
  | lineEnd
  | boundary (repertoire : Repertoire) (negated : Bool)
  deriving Repr, DecidableEq

/-- A pattern whose flags are worked out. -/
inductive Program where
  | empty
  | test (test : CharTest)
  | place (place : Place)
  | sequence (first second : Program)
  | choice (first second : Program)
  | capture (group : Nat) (body : Program)
  | atomic (body : Program)
  | ahead (negated : Bool) (body : Program)
  | behind (distance : Nat) (negated : Bool) (body : Program)
  | reference (group : Nat) (caseless : Option Repertoire)
  | conditional (group : Nat) (matched unmatched : Program)
  | repeated (mode : RepeatMode) (least : Nat) (most : Option Nat) (body : Program)
  deriving Repr, DecidableEq

namespace Program

/-- The repertoire that flags choose. -/
def repertoireOf (flags : Flags) : Repertoire :=
  if flags.ascii then .ascii else .unicode

/-- The place that an anchor asks for under flags. -/
def placeOf (flags : Flags) : Anchor → Place
  | .lineStart => if flags.multiLine then .lineStart else .textStart
  | .lineEnd => if flags.multiLine then .lineEnd else .lastLineEnd
  | .textStart => .textStart
  | .textEnd => .textEnd
  | .boundary => .boundary (repertoireOf flags) false
  | .noBoundary => .boundary (repertoireOf flags) true

/-- No lookbehind may start further back. -/
def lookbehindLimit : Nat := Nat.pow 2 32 - 1

/-- A fault of a pattern that has no place in its text. -/
def unplaced (fault : Fault) : Failure :=
  .refused ⟨fault, none⟩

/-- Work out the flags of a node. -/
def ofNode (groups : Nat → Width) : Flags → Node → Except Failure Program
  | _, .empty => .ok .empty
  | flags, .literal code negated =>
      .ok (.test (CharTest.ofLiteral flags (repertoireOf flags) code negated))
  | flags, .any => .ok (.test (if flags.dotAll then .any else .notNewline))
  | flags, .set items negated =>
      .ok (.test (CharTest.ofSet flags (repertoireOf flags) items negated))
  | flags, .anchor anchor => .ok (.place (placeOf flags anchor))
  | flags, .sequence first second => do
      let first ← ofNode groups flags first
      let second ← ofNode groups flags second
      return .sequence first second
  | flags, .choice first second => do
      let first ← ofNode groups flags first
      let second ← ofNode groups flags second
      return .choice first second
  | flags, .group number added removed body => do
      let body ← ofNode groups (flags.inGroup added removed) body
      match number with
      | some number => return .capture number body
      | none => return body
  | flags, .atomic body => do
      return .atomic (← ofNode groups flags body)
  | flags, .look .ahead negated body => do
      return .ahead negated (← ofNode groups flags body)
  | flags, .look .behind negated body => do
      let width := body.width groups
      if lookbehindLimit < width.least then
        throw (unplaced .lookbehindTooFar)
      else if width.least ≠ width.most then
        throw (unplaced .lookbehindWidth)
      else
        return .behind width.least negated (← ofNode groups flags body)
  | flags, .reference group =>
      .ok (.reference group (if flags.ignoreCase then some (repertoireOf flags) else none))
  | flags, .conditional group matched unmatched => do
      let matched ← ofNode groups flags matched
      let unmatched ← ofNode groups flags unmatched
      return .conditional group matched unmatched
  | flags, .repeated mode least most body => do
      if flags.template then
        throw (unplaced (.repeatInTemplate mode))
      else
        return .repeated mode least most (← ofNode groups flags body)

/-- The program of a pattern, or why it has none. -/
def compile (pattern : List Char) : Except Failure Program := do
  let parsed ← parse pattern
  ofNode (Read.widthOf parsed.groups) parsed.flags parsed.node

end Program

end CodeDeck.Pattern
