import CodeDeck.Report

namespace CodeDeck

/-!
# The limits of a machine

A pattern and a settings file are read by calls that nest as deeply as their
brackets do, and the stack of a machine has room for so many calls only. How
much of it a text needs depends on more than the text, such as the calls that
are open when the reading starts, so the machine says for which texts its stack
is too small. What is known is that a text with few opening brackets always has
room, and that one which starts with very many of them never has.

The other limit is that a whole number with more digits than a numeral may have
is not written.
-/

/-- The brackets behind which the calls that read a text may nest one level deeper. -/
def opensLevel (c : Char) : Bool :=
  c == '(' || c == '[' || c == '\x7b'

/-- What a machine has of its stack for reading a text whose levels open with a bracket. -/
structure Stack (bracket : Char) where
  /-- Whether the stack is too small for a text. -/
  overflows : List Char → Bool
  /-- So many opening brackets always have room. -/
  room : Nat
  /-- No more levels than this ever have room. -/
  depth : Nat
  fits : ∀ text, text.countP opensLevel ≤ room → overflows text = false
  nests : ∀ text, depth < (text.takeWhile (· == bracket)).length → overflows text = true

namespace Stack

variable {bracket : Char}

/-- A text for which a stack is too small has more opening brackets than there is room for. -/
theorem room_lt_of_overflows
    {stack : Stack bracket}
    {text : List Char}
    (overflows : stack.overflows text = true) :
    stack.room < text.countP opensLevel := by
  refine Nat.lt_of_not_le fun few => ?_
  rw [stack.fits text few] at overflows
  contradiction

/-- The stack of a machine that keeps a level open for each opening bracket. -/
def counting (bracket : Char) (opens : opensLevel bracket = true) (room : Nat) : Stack bracket where
  overflows text := room < text.countP opensLevel
  room
  depth := room
  fits text few := decide_eq_false (Nat.not_lt.mpr few)
  nests text many := by
    have allOpen : ∀ c ∈ text.takeWhile (· == bracket), opensLevel c = true := by
      intro c member
      have same := List.all_eq_true.mp List.all_takeWhile c member
      rw [eq_of_beq same, opens]
    have counted := (List.takeWhile_prefix (l := text) (· == bracket)).sublist.countP_le
      (p := opensLevel)
    rw [List.countP_eq_length.mpr allOpen] at counted
    exact decide_eq_true (Nat.lt_of_lt_of_le many counted)

end Stack

/-- Why something is not done: a failure of its own, or a limit of the machine. -/
inductive Halt (ε : Type) where
  | failed (cause : ε)
  /-- The stack is too small. -/
  | stackOverflow
  /-- A whole number has more digits than can be written. -/
  | longNumeral
  deriving Repr, DecidableEq

end CodeDeck
