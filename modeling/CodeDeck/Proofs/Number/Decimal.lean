import CodeDeck.Number.Decimal
import Mathlib.Algebra.Group.Nat.Defs

namespace CodeDeck.Decimal

/-!
# Decimal digits read back

The digits of a number are digits, start with a zero only for zero itself, and
stand for that number: `toNat_digits`.
-/

/-- How many digits an integer is written with, its sign not counted. -/
def digitCount (value : Int) : Nat :=
  (digits value.natAbs).length

theorem digits_ne_nil (n : Nat) : digits n ≠ [] :=
  Nat.toDigits_ne_nil

theorem isDigit_of_mem_digits
    {n : Nat}
    {c : Char}
    (member : c ∈ digits n) :
    isDigit c = true := by
  have core : c.isDigit = true :=
    Nat.isDigit_of_mem_toDigits (by decide) (by decide) member
  simpa [isDigit, Char.isDigit, Char.le_def] using core

theorem exists_digits (n : Nat) : ∃ c rest, digits n = c :: rest ∧ isDigit c = true := by
  cases shape : digits n with
  | nil => exact absurd shape (digits_ne_nil n)
  | cons c rest =>
      have member : c ∈ digits n := by
        rw [shape]
        exact List.mem_cons_self
      exact ⟨c, rest, rfl, isDigit_of_mem_digits member⟩

theorem digits_of_ten_le
    {n : Nat}
    (large : 10 ≤ n) :
    digits n = digits (n / 10) ++ [(n % 10).digitChar] :=
  Nat.toDigits_of_base_le (by decide) large

theorem digitValue_digitChar
    {n : Nat}
    (small : n < 10) :
    digitValue n.digitChar = n :=
  Nat.toNat_digitChar_sub_48_of_lt_ten small

/-- The numbers below a power of ten have no more digits than that power has zeros. -/
theorem size_le_iff
    {n count : Nat}
    (positive : 0 < count) :
    size n ≤ count ↔ n < 10 ^ count :=
  Nat.length_toDigits_le_iff (by decide) positive

/-- The digits of a number stand for that number. -/
theorem toNat_digits (n : Nat) : toNat (digits n) = n := by
  induction n using Nat.strongRecOn with
  | ind n inductionHypothesis =>
      by_cases small : n < 10
      · rw [digits, Nat.toDigits_of_lt_base small]
        simp [toNat, digitValue_digitChar small]
      · have shorter := inductionHypothesis (n / 10) (by omega)
        rw [toNat] at shorter
        rw [digits_of_ten_le (by omega), toNat, List.foldl_append, shorter]
        simp only [List.foldl_cons, List.foldl_nil]
        rw [digitValue_digitChar (by omega)]
        omega

/-- Only the decimal form of zero starts with a zero. -/
theorem eq_zero_of_digits_zero
    {n : Nat}
    {rest : List Char}
    (shape : digits n = '0' :: rest) :
    n = 0 := by
  induction n using Nat.strongRecOn generalizing rest with
  | ind n inductionHypothesis =>
      by_cases small : n < 10
      · have value := toNat_digits n
        rw [digits, Nat.toDigits_of_lt_base small] at shape
        have first : n.digitChar = '0' := by
          injection shape
        simpa [digitValue, first] using (digitValue_digitChar small).symm
      · rw [digits_of_ten_le (by omega)] at shape
        obtain ⟨c, more, leading, _⟩ := exists_digits (n / 10)
        rw [leading, List.cons_append] at shape
        injection shape with first _
        have none := inductionHypothesis (n / 10) (by omega) (first ▸ leading)
        omega

/-- The digits in front of a text that starts with no digit are all the digits it starts with. -/
theorem takeWhile_digits_append
    (n : Nat)
    {rest : List Char}
    (ended : ∀ c ∈ rest.head?, isDigit c = false) :
    (digits n ++ rest).takeWhile isDigit = digits n := by
  rw [List.takeWhile_append_of_pos fun c member => isDigit_of_mem_digits member]
  cases rest with
  | nil => simp
  | cons c rest => simp [ended c (by simp)]

theorem dropWhile_digits_append
    (n : Nat)
    {rest : List Char}
    (ended : ∀ c ∈ rest.head?, isDigit c = false) :
    (digits n ++ rest).dropWhile isDigit = rest := by
  rw [List.dropWhile_append_of_pos fun c member => isDigit_of_mem_digits member]
  cases rest with
  | nil => simp
  | cons c rest => simp [ended c (by simp)]

end CodeDeck.Decimal
