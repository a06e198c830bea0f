import CodeDeck.Number.Binary64

namespace CodeDeck

/-!
# Shortest decimal form

The fewest decimal digits that read back as a number, and among these the ones
nearest to it. A decimal reads back when it lies in the interval of reals that
round to the number: half a step to either side, the ends included exactly
when the significand is even.

On the grid of multiples of a power of ten only the two neighbours of the
number itself have to be tried: if any multiple lies in the interval, one of
these does.
-/

namespace Shortest

/-- The interval of reals that round to a number, and the number, over one denominator. -/
structure Interval where
  low : Nat
  value : Nat
  high : Nat
  denominator : Nat
  closed : Bool
  deriving Repr, DecidableEq

/--
The interval of the positive number `significand · 2 ^ exponent`.

Counted in quarter steps, the number is `4 · significand` and its ends lie two
to either side; below a power of two the steps are half as wide, so there the
lower end lies one quarter step away.
-/
def intervalOf (significand : Nat) (exponent : Int) : Interval :=
  let (factor, denominator) := Binary64.scaled 1 1 (2 - exponent)
  let narrow := significand = Binary64.significandBound / 2 ∧ exponent > Binary64.minExponent
  { low := (4 * significand - (if narrow then 1 else 2)) * factor
    value := 4 * significand * factor
    high := (4 * significand + 2) * factor
    denominator
    closed := significand % 2 = 0 }

/-- Whether `multiple · step` lies in the interval, the step being a quotient. -/
def Interval.holds (interval : Interval) (multiple numerator denominator : Nat) : Bool :=
  let point := multiple * numerator * interval.denominator
  if interval.closed then
    interval.low * denominator ≤ point && point ≤ interval.high * denominator
  else
    interval.low * denominator < point && point < interval.high * denominator

/-- A power of ten as a quotient. -/
def powerOfTen : Int → Nat × Nat
  | .ofNat e => (Nat.pow 10 e, 1)
  | .negSucc e => (1, Nat.pow 10 (e + 1))

/-- The exponent of the first decimal digit of a positive quotient. -/
def leadingExponent (numerator denominator : Nat) : Int :=
  let bits : Int := (numerator.log2 : Int) - (denominator.log2 : Int)
  let estimate : Int := Int.fdiv (bits * 30103) 100000 - 1
  let reaches (exponent : Int) : Bool :=
    let (n, d) := powerOfTen exponent
    n * denominator ≤ numerator * d
  if reaches (estimate + 2) then estimate + 2
  else if reaches (estimate + 1) then estimate + 1
  else estimate

/--
The multiple of `10 ^ exponent` that reads back, of two the nearer and of two equally
near the even one.
-/
def onGrid? (interval : Interval) (exponent : Int) : Option Nat :=
  let (numerator, denominator) := powerOfTen exponent
  let step := numerator * interval.denominator
  let below := interval.value * denominator / step
  let rest := interval.value * denominator % step
  let lowFits := interval.holds below numerator denominator
  let highFits := interval.holds (below + 1) numerator denominator
  match lowFits, highFits with
  | true, true =>
      if 2 * rest < step ∨ (2 * rest = step ∧ below % 2 = 0) then some below else some (below + 1)
  | true, false => some below
  | false, true => some (below + 1)
  | false, false => none

/-- Search the grids from coarse to fine, at most `fuel` of them. -/
def search (interval : Interval) : Nat → Int → Nat × Int
  | 0, exponent => (interval.value / interval.denominator, exponent)
  | fuel + 1, exponent =>
      match onGrid? interval exponent with
      | some coefficient => (coefficient, exponent)
      | none => search interval fuel (exponent - 1)

/-- A coefficient without the zeros at its end, which go into the exponent. -/
def dropZeros : Nat → Nat → Int → Nat × Int
  | 0, coefficient, exponent => (coefficient, exponent)
  | fuel + 1, coefficient, exponent =>
      if coefficient ≠ 0 ∧ coefficient % 10 = 0 then
        dropZeros fuel (coefficient / 10) (exponent + 1)
      else
        (coefficient, exponent)

/--
The shortest coefficient and exponent of ten of a positive number; seventeen digits
always suffice.
-/
def decimal (significand : Nat) (exponent : Int) : Nat × Int :=
  let interval := intervalOf significand exponent
  let leading := leadingExponent interval.value interval.denominator
  let (coefficient, exponent) := search interval 18 leading
  dropZeros 18 coefficient exponent

end Shortest

/-- The choices that a decimal text makes beyond its digits. -/
structure NumeralStyle where
  /-- The least exponent of the leading digit that is written without a power of ten. -/
  firstPositional : Int
  /-- One past the greatest such exponent. -/
  positionalEnd : Int
  nanText : String
  infinityText : String
  deriving Repr, DecidableEq

namespace Binary64

/-- The exponent part of a numeral: a sign and at least two digits. -/
def exponentText (exponent : Int) : List Char :=
  let digits := Decimal.digits exponent.natAbs
  'e' :: (if exponent < 0 then '-' else '+') ::
    (if digits.length < 2 then '0' :: digits else digits)

/--
A positive decimal in a style: positional with at least one place behind the point, or
with a power of ten.
-/
def numeral (style : NumeralStyle) (coefficient : Nat) (exponent : Int) : List Char :=
  let digits := Decimal.digits coefficient
  let leading : Int := exponent + (digits.length : Int) - 1
  if style.firstPositional ≤ leading ∧ leading < style.positionalEnd then
    if leading < 0 then
      '0' :: '.' :: List.replicate (leading.natAbs - 1) '0' ++ digits
    else
      let whole := leading.toNat + 1
      let padded := digits ++ List.replicate (whole - digits.length) '0'
      let places := padded.drop whole
      padded.take whole ++ '.' :: (if places.isEmpty then ['0'] else places)
  else
    match digits with
    | [] => []
    | [first] => first :: exponentText leading
    | first :: rest => first :: '.' :: rest ++ exponentText leading

/-- A number as text: the shortest digits that read back, in a style. -/
def toText (style : NumeralStyle) : Binary64 → List Char
  | .nan => style.nanText.toList
  | .infinite negative => (if negative then ['-'] else []) ++ style.infinityText.toList
  | .finite negative significand exponent =>
      let magnitude :=
        if significand = 0 then
          ['0', '.', '0']
        else
          let (coefficient, exponent) := Shortest.decimal significand exponent
          numeral style coefficient exponent
      if negative then '-' :: magnitude else magnitude

end Binary64

end CodeDeck
