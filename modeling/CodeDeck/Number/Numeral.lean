import CodeDeck.Text.Letter
import CodeDeck.Text.Separated
import CodeDeck.Text.Space

namespace CodeDeck.Numeral

/-!
# Numerals

Whole numbers as people write them: a sign, digits of any script with single
underscores between them, and blanks around. A numeral may have only so many
digits, which holds for every numeral that the library reads.
-/

/-- The most digits that a numeral may have. -/
def maxDigits : Nat := 4300

/-- The message about a numeral with too many digits. -/
def tooLongMessage (digits : Nat) : String :=
  "Exceeds the limit (4300 digits) for integer string conversion: value has " ++
    toString digits ++ " digits; use sys.set_int_max_str_digits() to increase the limit"

/-- Why a text is no numeral. -/
inductive Fault where
  | malformed
  | tooLong (digits : Nat)
  deriving Repr, DecidableEq

/-- The blanks that may stand around a numeral: all spaces but the four separators of ASCII. -/
def isBlank (c : Char) : Bool :=
  Text.isSpace c && !(28 ≤ c.toNat && c.toNat ≤ 31)

/-- Whether a numeral may hold a character after its sign. -/
def isPart (c : Char) : Bool :=
  c == '_' || Text.isDigit c

/-- The number that digits of any script stand for. -/
def valueOf (digits : List Char) : Nat :=
  digits.foldl (fun value c => value * 10 + (Text.digitValue? c).getD 0) 0

/-- The whole number that a text stands for. -/
def read (chars : List Char) : Except Fault Int :=
  let chars := chars.dropWhile isBlank
  let (negative, chars) :=
    match chars with
    | '-' :: rest => (true, rest)
    | '+' :: rest => (false, rest)
    | chars => (false, chars)
  let groups := Text.separated '_' (chars.takeWhile isPart)
  let digits := groups.flatten
  if groups.any (·.isEmpty) then
    .error .malformed
  else if maxDigits < digits.length then
    .error (.tooLong digits.length)
  else if (chars.dropWhile isPart).all isBlank then
    let value : Int := valueOf digits
    .ok (if negative then -value else value)
  else
    .error .malformed

end CodeDeck.Numeral
