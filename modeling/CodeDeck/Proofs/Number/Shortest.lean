import CodeDeck.Number.Shortest
import Mathlib.Data.Nat.Log

namespace CodeDeck.Shortest

/-!
# The coefficient of a shortest decimal

A multiple that reads back is never zero, since zero lies outside of the
interval of a number that is not zero. So when a search gives zero, it has run
through its grids, and then the number lies below one and the grid is fine.
-/

/-- Zero does not lie in an interval above zero. -/
theorem holds_zero
    {interval : Interval}
    {denominator : Nat}
    (numerator : Nat)
    (positiveLow : 0 < interval.low)
    (positive : 0 < denominator) :
    interval.holds 0 numerator denominator = false := by
  have above : 0 < interval.low * denominator := Nat.mul_pos positiveLow positive
  have noEnd : ¬ interval.low * denominator ≤ 0 := by omega
  simp only [Interval.holds, Nat.zero_mul]
  split
  · simp only [decide_eq_false noEnd, Bool.false_and]
  · simp

theorem powerOfTen_pos (exponent : Int) : 0 < (powerOfTen exponent).2 := by
  cases exponent with
  | ofNat e => exact Nat.one_pos
  | negSucc e => exact Nat.pow_pos (by decide)

/-- A multiple that reads back is not zero. -/
theorem onGrid?_pos
    {interval : Interval}
    {exponent : Int}
    {coefficient : Nat}
    (positiveLow : 0 < interval.low)
    (found : onGrid? interval exponent = some coefficient) :
    0 < coefficient := by
  have zeroOut (below : Nat)
      (fits : interval.holds below (powerOfTen exponent).1 (powerOfTen exponent).2 = true) :
      0 < below := by
    rcases Nat.eq_zero_or_pos below with rfl | positive
    · rw [holds_zero _ positiveLow (powerOfTen_pos exponent)] at fits
      contradiction
    · exact positive
  simp only [onGrid?] at found
  split at found
  · rename_i lowFits _
    split at found
    · cases found
      exact zeroOut _ lowFits
    · cases found
      exact Nat.succ_pos _
  · rename_i lowFits _
    cases found
    exact zeroOut _ lowFits
  · cases found
    exact Nat.succ_pos _
  · contradiction

/-- A search that gives zero has tried all of its grids, and the number lies below one. -/
theorem search_eq_zero
    {interval : Interval}
    {fuel : Nat}
    {exponent : Int}
    (positiveLow : 0 < interval.low)
    (zero : (search interval fuel exponent).1 = 0) :
    (search interval fuel exponent).2 = exponent - fuel ∧
      interval.value / interval.denominator = 0 := by
  induction fuel generalizing exponent with
  | zero => exact ⟨by simp [search], zero⟩
  | succ fuel inductionHypothesis =>
      rw [search] at zero ⊢
      cases found : onGrid? interval exponent with
      | some coefficient =>
          have positive := onGrid?_pos positiveLow found
          rw [found] at zero
          exact absurd zero (Nat.ne_of_gt positive)
      | none =>
          rw [found] at zero
          obtain ⟨finest, below⟩ := inductionHypothesis zero
          refine ⟨?_, below⟩
          simp only [finest]
          omega

/-- Only zero becomes zero when the zeros at its end are dropped, and it stays as it is. -/
theorem dropZeros_eq_zero
    {fuel coefficient : Nat}
    {exponent : Int}
    (zero : (dropZeros fuel coefficient exponent).1 = 0) :
    coefficient = 0 ∧ dropZeros fuel coefficient exponent = (0, exponent) := by
  induction fuel generalizing coefficient exponent with
  | zero =>
      cases zero
      exact ⟨rfl, rfl⟩
  | succ fuel inductionHypothesis =>
      rw [dropZeros] at zero ⊢
      split
      · rename_i divisible
        rw [if_pos divisible] at zero
        have quotient := (inductionHypothesis zero).1
        omega
      · rename_i whole
        rw [if_neg whole] at zero
        cases zero
        exact ⟨rfl, rfl⟩

/-- A number below one has a leading digit behind the point, or just before it by estimate. -/
theorem leadingExponent_le
    {numerator denominator : Nat}
    (below : numerator ≤ denominator) :
    leadingExponent numerator denominator ≤ 1 := by
  have bits : numerator.log2 ≤ denominator.log2 := by
    simp only [Nat.log2_eq_log_two]
    exact Nat.log_mono_right below
  have estimate :
      Int.fdiv (((numerator.log2 : Int) - (denominator.log2 : Int)) * 30103) 100000 ≤ 0 := by
    rw [Int.fdiv_eq_ediv_of_nonneg _ (by decide)]
    omega
  simp only [leadingExponent]
  split
  · omega
  split
  · omega
  · omega

theorem intervalOf_low_pos
    {significand : Nat}
    (exponent : Int)
    (positive : 0 < significand) :
    0 < (intervalOf significand exponent).low := by
  have factor : 0 < (Binary64.scaled 1 1 (2 - exponent)).1 := by
    cases 2 - exponent with
    | ofNat e => exact Nat.one_pos
    | negSucc e => exact Nat.mul_pos Nat.one_pos (Nat.pow_pos (by decide))
  apply Nat.mul_pos
  · split
    all_goals omega
  · exact factor

theorem intervalOf_denominator_pos
    (significand : Nat)
    (exponent : Int) :
    0 < (intervalOf significand exponent).denominator := by
  show 0 < (Binary64.scaled 1 1 (2 - exponent)).2
  cases 2 - exponent with
  | ofNat e => exact Nat.mul_pos Nat.one_pos (Nat.two_pow_pos e)
  | negSucc e => exact Nat.one_pos

/-- The shortest decimal of a number that is not zero has no digits but a zero on no coarse grid. -/
theorem decimal_eq_zero
    {significand : Nat}
    {exponent : Int}
    (positive : 0 < significand)
    (zero : (decimal significand exponent).1 = 0) :
    (decimal significand exponent).2 ≤ 0 := by
  simp only [decimal] at zero ⊢
  obtain ⟨none, dropped⟩ := dropZeros_eq_zero zero
  obtain ⟨finest, below⟩ := search_eq_zero (intervalOf_low_pos exponent positive) none
  have small := (Nat.div_eq_zero_iff_lt (intervalOf_denominator_pos significand exponent)).mp below
  have leading := leadingExponent_le (Nat.le_of_lt small)
  rw [dropped]
  simp only [finest]
  omega

end CodeDeck.Shortest
