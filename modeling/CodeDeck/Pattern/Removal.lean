import CodeDeck.Pattern.Match

namespace CodeDeck.Pattern

/-!
# Removing matches

The matches of a program in a text are found from left to right without
overlap, and removing them leaves the gaps between them. After an empty match
the next one may start at the same place only if it is not empty.
-/

/-- The part of a text between two positions. -/
structure Span where
  start : Nat
  finish : Nat
  deriving Repr, DecidableEq

/-- The first match that starts at a position or one of the `count` positions behind it. -/
def Program.search?
    (program : Program)
    (text : Array Char) : Nat → Nat → Bool → Option Span
  | 0, position, mayBeEmpty =>
      (program.matchAt? text position mayBeEmpty).map fun finish => ⟨position, finish⟩
  | count + 1, position, mayBeEmpty =>
      match program.matchAt? text position mayBeEmpty with
      | some finish => some ⟨position, finish⟩
      | none => search? program text count (position + 1) true

/-- The matches from a position on, at most `fuel` of them. -/
def Program.spansFrom
    (program : Program)
    (text : Array Char) : Nat → Nat → Bool → List Span
  | 0, _, _ => []
  | fuel + 1, position, mayBeEmpty =>
      match program.search? text (text.size - position) position mayBeEmpty with
      | none => []
      | some span =>
          span :: spansFrom program text fuel span.finish (span.finish != span.start)

/-- The matches in a text; at each position at most one is empty and at most one is not. -/
def Program.spans (program : Program) (text : Array Char) : List Span :=
  program.spansFrom text (2 * text.size + 2) 0 true

/-- What is left of the characters from a position on when spans, in order, are cut out. -/
def gaps (chars : List Char) (position : Nat) : List Span → List Char
  | [] => chars
  | span :: spans =>
      chars.take (span.start - position) ++
        gaps (chars.drop (span.finish - position)) span.finish spans

/-- A text without the matches of a program. -/
def Program.removeAll (program : Program) (text : List Char) : List Char :=
  gaps text 0 (program.spans text.toArray)

end CodeDeck.Pattern
