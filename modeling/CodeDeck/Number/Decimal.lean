namespace CodeDeck.Decimal

/-!
# Decimal digits

Natural numbers and integers as decimal digits, and digits as numbers. Nothing
here depends on how a number is stored.
-/

/-- The decimal digits of a natural number, at least one. -/
def digits (n : Nat) : List Char :=
  Nat.toDigits 10 n

/-- The decimal form of an integer, with a minus sign when it is negative. -/
def ofInt : Int → List Char
  | .ofNat n => digits n
  | .negSucc n => '-' :: digits (n + 1)

/-- The value of an ASCII digit; zero for another character. -/
def digitValue (c : Char) : Nat :=
  c.toNat - 48

/-- The number that a list of digits stands for. -/
def toNat (chars : List Char) : Nat :=
  chars.foldl (fun n c => n * 10 + digitValue c) 0

/-- An ASCII digit. -/
def isDigit (c : Char) : Bool :=
  '0' ≤ c && c ≤ '9'

/-- How many decimal digits a positive number has; one for zero. -/
def size (n : Nat) : Nat :=
  (digits n).length

end CodeDeck.Decimal
