namespace CodeDeck.Digits

/-!
# Digits in a base

What digits up to the sixteenth stand for, and the number that they make up in
a base.
-/

/-- The number that a hexadecimal digit of either case stands for. -/
def value? (c : Char) : Option Nat :=
  if '0' ≤ c ∧ c ≤ '9' then some (c.toNat - 48)
  else if 'A' ≤ c ∧ c ≤ 'F' then some (c.toNat - 55)
  else if 'a' ≤ c ∧ c ≤ 'f' then some (c.toNat - 87)
  else none

/-- A hexadecimal digit. -/
def isHex (c : Char) : Bool :=
  (value? c).isSome

/-- The number that digits stand for in a base; what is no digit counts as zero. -/
def toNat (base : Nat) (digits : List Char) : Nat :=
  digits.foldl (fun n c => n * base + (value? c).getD 0) 0

end CodeDeck.Digits
