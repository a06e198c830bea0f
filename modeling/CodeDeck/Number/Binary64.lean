import CodeDeck.Number.Decimal

namespace CodeDeck

/-!
# Double-precision numbers

A number of the 64-bit binary format as exact data: a sign, a significand and
a power of two. All arithmetic on it is exact integer arithmetic, so what a
decimal numeral stands for, what the shortest decimal form of a number is, and
whether a number is integral are ordinary facts about integers.

A significand has at most 53 bits. It has fewer than 53 only at the smallest
exponent, so each value but zero has one representation per sign.

Powers are written as `Nat.pow`, which means the same whatever algebra is in
scope.
-/

/-- A number of the 64-bit binary format. -/
inductive Binary64 where
  | nan
  | infinite (negative : Bool)
  | finite (negative : Bool) (significand : Nat) (exponent : Int)
  deriving Repr, DecidableEq

namespace Binary64

/-- The exponent of the smallest steps between numbers. -/
def minExponent : Int := -1074

/-- The exponent of the largest steps between numbers. -/
def maxExponent : Int := 971

/-- One past the largest significand. -/
def significandBound : Nat := Nat.pow 2 53

/-- Zero with a sign. -/
def zero (negative : Bool) : Binary64 :=
  .finite negative 0 minExponent

/-- Both sides of a positive quotient after division by `2 ^ exponent`. -/
def scaled (numerator denominator : Nat) (exponent : Int) : Nat × Nat :=
  match exponent with
  | .ofNat e => (numerator, denominator * Nat.pow 2 e)
  | .negSucc e => (numerator * Nat.pow 2 (e + 1), denominator)

/-- The integer nearest to a quotient; of two equally near ones, the even one. -/
def roundQuotient (numerator denominator : Nat) : Nat :=
  let quotient := numerator / denominator
  let twice := 2 * (numerator % denominator)
  if twice > denominator ∨ (twice = denominator ∧ quotient % 2 = 1) then
    quotient + 1
  else
    quotient

/-- The exponent at which a positive quotient has a significand of 53 bits, or the smallest one. -/
def exponentFor (numerator denominator : Nat) : Int :=
  let estimate : Int := (numerator.log2 : Int) - (denominator.log2 : Int) - 53
  let (n, d) := scaled numerator denominator estimate
  max minExponent (if significandBound ≤ n / d then estimate + 1 else estimate)

/-- The number nearest to a positive quotient; one that is too large is infinite. -/
def ofQuotient (negative : Bool) (numerator denominator : Nat) : Binary64 :=
  let exponent := exponentFor numerator denominator
  let (n, d) := scaled numerator denominator exponent
  let rounded := roundQuotient n d
  let (significand, exponent) :=
    if rounded = significandBound then (rounded / 2, exponent + 1) else (rounded, exponent)
  if exponent > maxExponent then
    .infinite negative
  else if significand = 0 then
    zero negative
  else
    .finite negative significand exponent

/-- The number nearest to `coefficient · 10 ^ exponent`. -/
def ofDecimal (negative : Bool) (coefficient : Nat) (exponent : Int) : Binary64 :=
  if coefficient = 0 then
    zero negative
  else
    let magnitude := (Decimal.size coefficient : Int) + exponent
    if magnitude > 400 then
      .infinite negative
    else if magnitude < -400 then
      zero negative
    else
      match exponent with
      | .ofNat e => ofQuotient negative (coefficient * Nat.pow 10 e) 1
      | .negSucc e => ofQuotient negative coefficient (Nat.pow 10 (e + 1))

/-- Whether a number is zero of either sign. -/
def isZero : Binary64 → Bool
  | .finite _ significand _ => significand == 0
  | _ => false

/-- The integer that a number equals, when it equals one. -/
def toInt? : Binary64 → Option Int
  | .finite negative significand exponent =>
      let magnitude? : Option Nat :=
        match exponent with
        | .ofNat e => some (significand * Nat.pow 2 e)
        | .negSucc e =>
            if significand % Nat.pow 2 (e + 1) = 0 then
              some (significand / Nat.pow 2 (e + 1))
            else
              none
      magnitude?.map fun magnitude => if negative then -(magnitude : Int) else magnitude
  | _ => none

/-- The integer part of a number: what lies behind the point is dropped. -/
def truncate? : Binary64 → Option Int
  | .finite negative significand exponent =>
      let magnitude : Nat :=
        match exponent with
        | .ofNat e => significand * Nat.pow 2 e
        | .negSucc e => significand / Nat.pow 2 (e + 1)
      some (if negative then -(magnitude : Int) else magnitude)
  | _ => none

end Binary64

end CodeDeck
