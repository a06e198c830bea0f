import CodeDeck.Pattern.Program
import Mathlib.Algebra.Group.Nat.Defs
import Mathlib.Data.List.Infix

namespace CodeDeck.Pattern

/-!
# Patterns that ask for too much

Four things in a pattern are not refused but break the library that reads it: a
count of repetitions that is too large, or has too many digits to be read, a
code point of more than 31 bits, and the flags for both kinds of classes. Each
of them can be seen in the text of a pattern.
-/

/-- Decimal digits. -/
def AreDigits (digits : List Char) : Prop :=
  ∀ c ∈ digits, Decimal.isDigit c = true

/-- A repetition in braces with a count, on either side of the comma if there is one. -/
inductive HasCount (pattern digits : List Char) : Prop where
  | only :
      AreDigits digits →
      '\x7b' :: (digits ++ ['\x7d']) <:+: pattern →
      HasCount pattern digits
  | low
      {others : List Char} :
      AreDigits digits →
      AreDigits others →
      '\x7b' :: (digits ++ ',' :: (others ++ ['\x7d'])) <:+: pattern →
      HasCount pattern digits
  | high
      {others : List Char} :
      AreDigits digits →
      AreDigits others →
      '\x7b' :: (others ++ ',' :: (digits ++ ['\x7d'])) <:+: pattern →
      HasCount pattern digits

/-- An escape for a code point by eight hexadecimal digits. -/
structure HasCodePoint (pattern digits : List Char) : Prop where
  eight : digits.length = 8
  areHex : ∀ c ∈ digits, Digits.isHex c = true
  occurs : '\\' :: 'U' :: digits <:+: pattern

/-- A flag among flags for the whole pattern. -/
def HasFlag (pattern : List Char) (letter : Char) : Prop :=
  ∃ letters,
    letter ∈ letters ∧
      (∀ c ∈ letters, (Flags.ofLetter? c).isSome = true) ∧
      '(' :: '?' :: (letters ++ [')']) <:+: pattern

/-- What a pattern asks for too much, for each cause that is not about its form. -/
def Excess (pattern : List Char) : Failure → Prop
  | .refused _ => False
  | .hugeRepeat =>
      ∃ digits,
        HasCount pattern digits ∧ digits.length ≤ Numeral.maxDigits ∧
          Read.repeatLimit ≤ Digits.toNat 10 digits
  | .longNumeral count =>
      ∃ digits, HasCount pattern digits ∧ digits.length = count ∧ Numeral.maxDigits < count
  | .hugeCodePoint =>
      ∃ digits, HasCodePoint pattern digits ∧ Nat.pow 2 31 ≤ Digits.toNat 16 digits
  | .asciiAndUnicode => HasFlag pattern 'a' ∧ HasFlag pattern 'u'

/-- A pattern is refused, or it asks for too much. -/
def Explained (pattern : List Char) (cause : Failure) : Prop :=
  (∃ refusal, cause = .refused refusal) ∨ Excess pattern cause

/-! ## Code points by few digits -/

theorem value_lt (c : Char) : (Digits.value? c).getD 0 < 16 := by
  have upTo {low high : Char} (offset : Nat) (bound : high.toNat < offset + 16)
      (between : low ≤ c ∧ c ≤ high) : c.toNat - offset < 16 := by
    have : c.toNat ≤ high.toNat := between.2
    omega
  rw [Digits.value?]
  split_ifs with decimal upper lower
  · exact upTo 48 (by decide) decimal
  · exact upTo 55 (by decide) upper
  · exact upTo 87 (by decide) lower
  · exact Nat.zero_lt_succ 15

/-- As many hexadecimal digits stand for a number below the power of sixteen. -/
theorem toNat_lt (digits : List Char) : Digits.toNat 16 digits < 16 ^ digits.length := by
  have onward (n : Nat) :
      digits.foldl (fun n c => n * 16 + (Digits.value? c).getD 0) n <
        (n + 1) * 16 ^ digits.length := by
    induction digits generalizing n with
    | nil => simp
    | cons c digits inductionHypothesis =>
        have digit := value_lt c
        have step : n * 16 + (Digits.value? c).getD 0 + 1 ≤ (n + 1) * 16 := by omega
        calc digits.foldl _ (n * 16 + (Digits.value? c).getD 0)
            < (n * 16 + (Digits.value? c).getD 0 + 1) * 16 ^ digits.length :=
              inductionHypothesis _
          _ ≤ (n + 1) * 16 * 16 ^ digits.length := Nat.mul_le_mul_right _ step
          _ = (n + 1) * 16 ^ (digits.length + 1) := by rw [Nat.pow_succ', Nat.mul_assoc]
  simpa [Digits.toNat] using onward 0

/-- Four digits or fewer do not stand for too large a code point. -/
theorem toNat_lt_of_short
    {digits : List Char}
    (short : digits.length ≤ 4) :
    Digits.toNat 16 digits < Nat.pow 2 31 :=
  calc Digits.toNat 16 digits < 16 ^ digits.length := toNat_lt digits
    _ ≤ 16 ^ 4 := Nat.pow_le_pow_right (by decide) short
    _ < Nat.pow 2 31 := by decide

end CodeDeck.Pattern
