import CodeDeck.Number.Binary64
import CodeDeck.Number.Numeral
import CodeDeck.Proofs.Number.Decimal
import Mathlib.Algebra.Order.Field.Power
import Mathlib.Data.Rat.Cast.Order
import Mathlib.Tactic.NormNum
import Mathlib.Tactic.Positivity

namespace CodeDeck.Binary64

/-!
# What a number stands for

A finite number stands for a rational number, its significand times a power of
two. The integer that a number is turned into is the one that it stands for,
and the integers that the format holds are short enough for a numeral.
-/

/-- The rational number that a finite number stands for. -/
def value? : Binary64 → Option ℚ
  | .finite negative significand exponent =>
      let magnitude : ℚ := significand * 2 ^ exponent
      some (if negative then -magnitude else magnitude)
  | _ => none

/-- Whether the 64-bit format holds a number: it has 53 bits for the significand. -/
def fits : Binary64 → Bool
  | .finite _ significand exponent =>
      significand < significandBound && minExponent ≤ exponent && exponent ≤ maxExponent
  | _ => true

/-- The natural number that a significand and a power of two make up, when they make up one. -/
def magnitude? (significand : Nat) : Int → Option Nat
  | .ofNat e => some (significand * 2 ^ e)
  | .negSucc e =>
      if significand % 2 ^ (e + 1) = 0 then some (significand / 2 ^ (e + 1)) else none

theorem toInt?_finite
    (negative : Bool)
    (significand : Nat)
    (exponent : Int) :
    toInt? (.finite negative significand exponent) =
      (magnitude? significand exponent).map fun (magnitude : Nat) =>
        if negative then -(magnitude : Int) else magnitude := by
  cases exponent with
  | ofNat e => rfl
  | negSucc e =>
      by_cases divides : significand % 2 ^ (e + 1) = 0
      · simp [toInt?, magnitude?, divides]
      · simp [toInt?, magnitude?, divides]

/-- A magnitude is the value that its significand and exponent have as a rational number. -/
theorem magnitude?_eq_some_iff
    {significand magnitude : Nat}
    {exponent : Int} :
    magnitude? significand exponent = some magnitude ↔
      (significand : ℚ) * 2 ^ exponent = magnitude := by
  cases exponent with
  | ofNat e =>
      rw [magnitude?, Option.some.injEq, Int.ofNat_eq_natCast, zpow_natCast]
      exact_mod_cast Iff.rfl
  | negSucc e =>
      have positive : (0 : ℚ) < 2 ^ (e + 1) := by positivity
      have scaled : (significand : ℚ) * 2 ^ Int.negSucc e = magnitude ↔
          significand = magnitude * 2 ^ (e + 1) := by
        rw [zpow_negSucc, ← div_eq_mul_inv, div_eq_iff positive.ne']
        exact_mod_cast Iff.rfl
      rw [scaled, magnitude?]
      constructor
      · intro found
        split at found
        · rename_i divides
          cases found
          exact (Nat.div_mul_cancel (Nat.dvd_of_mod_eq_zero divides)).symm
        · contradiction
      · rintro rfl
        rw [Nat.mul_mod_left, if_pos rfl, Nat.mul_div_cancel _ (by positivity)]

/-- A signed magnitude that is an integer has that integer's size. -/
theorem natAbs_of_signed
    {negative : Bool}
    {magnitude : ℚ}
    {integer : Int}
    (positive : 0 ≤ magnitude)
    (same : (if negative then -magnitude else magnitude) = (integer : ℚ)) :
    (integer.natAbs : ℚ) = magnitude := by
  rw [Nat.cast_natAbs, Int.cast_abs, ← same]
  cases negative with
  | true => simp [abs_of_nonneg positive]
  | false => simp [abs_of_nonneg positive]

/-- A number is turned into the integer that it stands for, and into none if it stands for none. -/
theorem toInt?_eq_some_iff
    {number : Binary64}
    {integer : Int} :
    number.toInt? = some integer ↔ number.value? = some (integer : ℚ) := by
  cases number with
  | nan => simp [toInt?, value?]
  | infinite negative => simp [toInt?, value?]
  | finite negative significand exponent =>
      rw [toInt?_finite, value?, Option.map_eq_some_iff, Option.some.injEq]
      constructor
      · rintro ⟨magnitude, found, rfl⟩
        rw [magnitude?_eq_some_iff.mp found]
        cases negative with
        | true => simp
        | false => simp
      · intro same
        have size := natAbs_of_signed (by positivity) same
        refine ⟨integer.natAbs, magnitude?_eq_some_iff.mpr size.symm, ?_⟩
        have signed : ((if negative then -(integer.natAbs : Int) else integer.natAbs : Int) : ℚ) =
            integer := by
          rw [← same, ← size]
          cases negative with
          | true => simp
          | false => simp
        exact_mod_cast signed

theorem natAbs_lt_of_fits
    {number : Binary64}
    {integer : Int}
    (held : number.fits = true)
    (same : number.value? = some (integer : ℚ)) :
    integer.natAbs < 10 ^ Numeral.maxDigits := by
  cases number with
  | nan => simp [value?] at same
  | infinite negative => simp [value?] at same
  | finite negative significand exponent =>
      simp only [fits, Bool.and_eq_true, decide_eq_true_eq] at held
      rw [value?, Option.some.injEq] at same
      have size := natAbs_of_signed (by positivity) same
      have small : (significand : ℚ) < 2 ^ 53 := by
        exact_mod_cast held.1.1
      have power : (2 : ℚ) ^ exponent ≤ 2 ^ 971 := by
        have grows : (2 : ℚ) ^ exponent ≤ 2 ^ maxExponent :=
          zpow_le_zpow_right₀ (by norm_num) held.2
        exact grows
      have short : (10 : ℚ) ^ 1024 ≤ 10 ^ Numeral.maxDigits :=
        pow_le_pow_right₀ (by norm_num) (by decide)
      have bound : (integer.natAbs : ℚ) < 10 ^ Numeral.maxDigits := by
        calc
          (integer.natAbs : ℚ) = significand * 2 ^ exponent := size
          _ ≤ significand * 2 ^ 971 := mul_le_mul_of_nonneg_left power (Nat.cast_nonneg _)
          _ < 2 ^ 53 * 2 ^ 971 := mul_lt_mul_of_pos_right small (by positivity)
          _ = 2 ^ 1024 := (pow_add 2 53 971).symm
          _ ≤ 10 ^ 1024 := pow_le_pow_left₀ (by norm_num) (by norm_num) 1024
          _ ≤ 10 ^ Numeral.maxDigits := short
      exact_mod_cast bound

/-- An integer that the format holds has no more digits than a numeral may have. -/
theorem digitCount_of_fits
    {number : Binary64}
    {integer : Int}
    (held : number.fits = true)
    (same : number.value? = some (integer : ℚ)) :
    Decimal.digitCount integer ≤ Numeral.maxDigits :=
  (Decimal.size_le_iff (by decide)).mpr (natAbs_lt_of_fits held same)

end CodeDeck.Binary64
