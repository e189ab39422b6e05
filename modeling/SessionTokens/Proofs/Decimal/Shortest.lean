import SessionTokens.Decimal.Shortest
import SessionTokens.Proofs.Decimal.Rounding

/-!
# Shortest decimals are near

The shortest decimal of a number is one of those that round to it, and so it lies
at most half a step above the number.
-/

namespace SessionTokens.Decimal

def Scientific.value (number : Scientific) : ℚ := number.coefficient * 10 ^ number.exponent

namespace Scientific

theorem trim_induction {motive : Scientific → Prop} {number : Scientific} (start : motive number)
    (step : ∀ coefficient exponent, coefficient ≠ 0 → motive ⟨coefficient * 10, exponent⟩ →
      motive ⟨coefficient, exponent + 1⟩) (fuel : Nat) : motive (number.trim fuel) := by
  induction fuel generalizing number with
  | zero => exact start
  | succ fuel ih =>
      rw [trim]
      split
      · next zero =>
          refine ih (step _ _ (by omega) ?_)
          rw [Nat.div_mul_cancel (Nat.dvd_of_mod_eq_zero zero.1)]
          exact start
      · exact start

end Scientific

namespace Interval

variable {interval : Interval} {candidate : Scientific}

def tens (exponent : ℤ) : Nat × Nat :=
  if 0 ≤ exponent then (Nat.pow 10 exponent.toNat, 1) else (1, Nat.pow 10 (-exponent).toNat)

theorem tens_value (exponent : ℤ) :
    ((tens exponent).1 : ℚ) / (tens exponent).2 = 10 ^ exponent ∧ 0 < (tens exponent).2 := by
  rw [tens]
  split
  · next up =>
      obtain ⟨count, rfl⟩ := Int.eq_ofNat_of_zero_le up
      simp
  · next down =>
      obtain ⟨count, same⟩ := Int.eq_ofNat_of_zero_le (show 0 ≤ -exponent by omega)
      rw [show exponent = -(count : ℤ) by omega]
      simp

/-- A decimal that an interval holds lies between its bounds. -/
theorem holds_bounds (held : interval.holds candidate = true) :
    interval.low * (tens candidate.exponent).2 ≤
        candidate.coefficient * (tens candidate.exponent).1 * interval.denominator ∧
      candidate.coefficient * (tens candidate.exponent).1 * interval.denominator ≤
        interval.high * (tens candidate.exponent).2 := by
  generalize low : interval.low * (tens candidate.exponent).2 = least
  generalize high : interval.high * (tens candidate.exponent).2 = greatest
  generalize inside : candidate.coefficient * (tens candidate.exponent).1 *
    interval.denominator = point
  have tested : interval.holds candidate =
      if interval.closed then decide (least ≤ point ∧ point ≤ greatest)
      else decide (least < point ∧ point < greatest) := by
    rw [← low, ← high, ← inside]
    rfl
  rw [tested] at held
  split at held
  · exact decide_eq_true_iff.mp held
  · exact (decide_eq_true_iff.mp held).imp Nat.le_of_lt Nat.le_of_lt

theorem value_le_of_holds (positive : 0 < interval.denominator)
    (held : interval.holds candidate = true) :
    candidate.value ≤ interval.high / interval.denominator := by
  obtain ⟨power, wide⟩ := tens_value candidate.exponent
  have below : (candidate.coefficient * (tens candidate.exponent).1 * interval.denominator : ℚ) ≤
      interval.high * (tens candidate.exponent).2 := by exact_mod_cast (holds_bounds held).2
  have down : (0 : ℚ) < (tens candidate.exponent).2 := by exact_mod_cast wide
  have under : (0 : ℚ) < interval.denominator := by exact_mod_cast positive
  rw [Scientific.value, ← power, ← mul_div_assoc, div_le_div_iff₀ down under]
  exact below

theorem coefficient_ne_zero_of_holds (positive : 0 < interval.low)
    (held : interval.holds candidate = true) : candidate.coefficient ≠ 0 := by
  have above := (holds_bounds held).1
  intro zero
  rw [zero, Nat.zero_mul, Nat.zero_mul] at above
  exact absurd above (Nat.not_le.mpr (Nat.mul_pos positive (tens_value _).2))

theorem holds_of_onGrid? {exponent : ℤ} (found : interval.onGrid? exponent = some candidate) :
    interval.holds candidate = true := by
  rw [onGrid?] at found
  split at found
  next numerator denominator same =>
  dsimp only at found
  split at found
  · next below above =>
      cases found
      rcases Binary64.divideEven_cases numerator denominator with down | up
      · rwa [down]
      · rwa [up]
  · next below above =>
      cases found
      exact below
  · next below above =>
      cases found
      exact above
  · cases found

theorem of_bounds (number : Binary64) (filled : 0 < number.mantissa) :
    0 < (of number).denominator ∧ 0 < (of number).low ∧
      ((of number).high : ℚ) / (of number).denominator =
        (number.mantissa + 1 / 2) * 2 ^ number.exponent := by
  have value := Binary64.scaled_value 1 1 (number.exponent - 2)
  have positive := Binary64.scaled_pos Nat.one_pos 1 (number.exponent - 2)
  have unit := Binary64.scaled_fst_pos Nat.one_pos 1 (number.exponent - 2)
  rw [of]
  generalize Binary64.scaled 1 1 (number.exponent - 2) = parts at value positive unit
  refine ⟨positive, Nat.mul_pos ?_ unit, ?_⟩
  · split <;> omega
  · have quarter : (2 : ℚ) ^ (number.exponent - 2) = 2 ^ number.exponent / 4 := by
      rw [zpow_sub₀ two_ne_zero]
      norm_num
    rw [Nat.cast_one, div_one, one_mul, quarter] at value
    push_cast
    rw [mul_div_assoc, value]
    ring

end Interval

/-- Whether a decimal is one that a positive number may be written as. -/
structure Near (number : Binary64) (decimal : Scientific) : Prop where
  filled : decimal.coefficient = 0 → decimal.exponent = 0
  bounded : decimal.value ≤ (number.mantissa + 1 / 2) * 2 ^ number.exponent

theorem near_shortest {number : Binary64} (filled : number.isZero = false) :
    Near number (shortest number) := by
  have positive : 0 < number.mantissa := by
    rw [Binary64.isZero, decide_eq_false_iff_not] at filled
    omega
  obtain ⟨denominator, low, high⟩ := Interval.of_bounds number positive
  rw [shortest]
  refine Scientific.trim_induction ?_ ?_ 20
  · cases best : (List.range 18).findSome? fun (count : Nat) =>
      (Interval.of number).onGrid?
        (leadingPower (Interval.of number).value (Interval.of number).denominator - count) with
    | none =>
        refine ⟨fun _ => rfl, ?_⟩
        rw [Scientific.value]
        simp only [Option.getD_none, Nat.cast_zero, zero_mul]
        positivity
    | some decimal =>
        obtain ⟨count, -, found⟩ := List.exists_of_findSome?_eq_some best
        have held := Interval.holds_of_onGrid? found
        refine ⟨fun zero => absurd zero (Interval.coefficient_ne_zero_of_holds low held), ?_⟩
        rw [← high]
        exact Interval.value_le_of_holds denominator held
  · intro coefficient exponent nonzero near
    refine ⟨fun zero => absurd zero nonzero, ?_⟩
    refine le_trans (le_of_eq ?_) near.bounded
    simp only [Scientific.value, Nat.cast_mul, Nat.cast_ofNat]
    rw [zpow_add_one₀ (by norm_num)]
    ring

end SessionTokens.Decimal
