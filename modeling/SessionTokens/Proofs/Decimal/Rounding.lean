import Mathlib.Algebra.Order.Field.Power
import Mathlib.Algebra.Order.Field.Rat
import Mathlib.Tactic.FieldSimp
import Mathlib.Tactic.GCongr
import Mathlib.Tactic.Linarith
import Mathlib.Tactic.NormNum
import Mathlib.Tactic.Positivity
import Mathlib.Tactic.Ring
import SessionTokens.Decimal.Binary64

/-!
# Rounding stays in range

A quotient is rounded to a number as long as it lies less than half a step above
the greatest number, and what it is rounded to is at most half a step above it.
Sizes are compared as fractions, in which every scaling is exact.
-/

namespace SessionTokens.Binary64

def magnitude (number : Binary64) : ℚ := number.mantissa * 2 ^ number.exponent

theorem magnitude_nonneg (number : Binary64) : 0 ≤ number.magnitude := by
  rw [magnitude]
  positivity

/-- The least fraction that is too large: half a step above the greatest number. -/
def overflow : ℚ := (2 ^ 54 - 1) * 2 ^ ((970 : Nat) : ℤ)

/-! ## Scaling -/

theorem scaled_value (numerator denominator : Nat) (power : ℤ) :
    ((scaled numerator denominator power).1 : ℚ) / (scaled numerator denominator power).2 =
      numerator / denominator * 2 ^ power := by
  rw [scaled]
  split
  · next up =>
      obtain ⟨count, rfl⟩ := Int.eq_ofNat_of_zero_le up
      simp only [Int.toNat_natCast, Nat.pow_eq, Nat.cast_mul, Nat.cast_pow, Nat.cast_ofNat,
        zpow_natCast]
      ring
  · next down =>
      obtain ⟨count, same⟩ := Int.eq_ofNat_of_zero_le (show 0 ≤ -power by omega)
      rw [show power = -(count : ℤ) by omega]
      simp only [neg_neg, Int.toNat_natCast, Nat.pow_eq, Nat.cast_mul, Nat.cast_pow,
        Nat.cast_ofNat, zpow_neg, zpow_natCast]
      ring

theorem scaled_pos {denominator : Nat} (positive : 0 < denominator) (numerator : Nat)
    (power : ℤ) : 0 < (scaled numerator denominator power).2 := by
  rw [scaled]
  split
  · exact positive
  · exact Nat.mul_pos positive (Nat.pow_pos (by decide))

theorem scaled_fst_pos {numerator : Nat} (positive : 0 < numerator) (denominator : Nat)
    (power : ℤ) : 0 < (scaled numerator denominator power).1 := by
  rw [scaled]
  split
  · exact Nat.mul_pos positive (Nat.pow_pos (by decide))
  · exact positive

theorem ratio_value (number : Binary64) :
    (number.ratio.1 : ℚ) / number.ratio.2 = number.magnitude := by
  rw [ratio, scaled_value, magnitude, Nat.cast_one, div_one]

theorem ratio_pos (number : Binary64) : 0 < number.ratio.2 := scaled_pos Nat.one_pos _ _

/-! ## One rounding -/

/-- A quotient is rounded down or up. -/
theorem divideEven_cases (numerator denominator : Nat) :
    divideEven numerator denominator = numerator / denominator ∨
      divideEven numerator denominator = numerator / denominator + 1 := by
  have parity := Nat.mod_two_eq_zero_or_one (numerator / denominator)
  rw [divideEven]
  split
  · exact .inl rfl
  · split
    · exact .inr rfl
    · exact parity.imp (fun even => by rw [even, Nat.add_zero]) fun odd => by rw [odd]

theorem divideEven_le {numerator denominator : Nat} (positive : 0 < denominator) :
    (divideEven numerator denominator : ℚ) ≤ numerator / denominator + 1 / 2 := by
  have twice : 2 * divideEven numerator denominator * denominator ≤
      2 * numerator + denominator := by
    have parts := Nat.div_add_mod numerator denominator
    have parity := Nat.mod_two_eq_zero_or_one (numerator / denominator)
    rw [divideEven]
    generalize numerator / denominator = quotient at parts parity ⊢
    generalize numerator % denominator = remainder at parts ⊢
    have down : 2 * quotient * denominator = 2 * (denominator * quotient) := by ring
    have up : 2 * (quotient + 1) * denominator =
        2 * (denominator * quotient) + 2 * denominator := by ring
    split
    · omega
    · split
      · omega
      · rcases parity with even | odd
        · rw [even, Nat.add_zero]
          omega
        · rw [odd]
          omega
  have wide : (0 : ℚ) < denominator := by exact_mod_cast positive
  have cast : (2 * divideEven numerator denominator * denominator : ℚ) ≤
      2 * numerator + denominator := by exact_mod_cast twice
  rw [← sub_le_iff_le_add, le_div_iff₀ wide]
  linarith

theorem le_divideEven {numerator denominator : Nat} (positive : 0 < denominator) :
    (numerator / denominator - 1 : ℚ) ≤ divideEven numerator denominator := by
  have wide : (0 : ℚ) < denominator := by exact_mod_cast positive
  have next : numerator ≤ (divideEven numerator denominator + 1) * denominator := by
    have below := Nat.lt_mul_div_succ numerator positive
    have least : numerator / denominator ≤ divideEven numerator denominator := by
      have cases := divideEven_cases numerator denominator
      omega
    calc numerator
        ≤ (numerator / denominator + 1) * denominator := by
          rw [Nat.mul_comm]
          exact below.le
      _ ≤ (divideEven numerator denominator + 1) * denominator := by gcongr
  have cast : (numerator : ℚ) ≤ (divideEven numerator denominator + 1) * denominator := by
    exact_mod_cast next
  rw [sub_le_iff_le_add, div_le_iff₀ wide]
  exact cast

/-- The power of two below a quotient. -/
theorem floorLog2_le {numerator denominator : Nat} (filled : 0 < numerator)
    (positive : 0 < denominator) :
    (2 : ℚ) ^ floorLog2 numerator denominator ≤ numerator / denominator := by
  have wide : (0 : ℚ) < denominator := by exact_mod_cast positive
  have low : (2 : ℚ) ^ (numerator.log2 : ℤ) ≤ numerator := by
    rw [zpow_natCast]
    exact_mod_cast Nat.log2_self_le filled.ne'
  have high : (denominator : ℚ) ≤ 2 ^ ((denominator.log2 : ℤ) + 1) := by
    rw [← Nat.cast_succ, zpow_natCast]
    exact_mod_cast Nat.lt_log2_self.le
  rw [floorLog2]
  generalize same : (numerator.log2 : ℤ) - denominator.log2 = estimate
  have value := scaled_value numerator denominator (-estimate)
  have below := scaled_pos positive numerator (-estimate)
  generalize scaled numerator denominator (-estimate) = parts at value below
  obtain ⟨above, under⟩ := parts
  dsimp only at value below ⊢
  split
  · calc (2 : ℚ) ^ (estimate - 1)
        = 2 ^ (numerator.log2 : ℤ) / 2 ^ ((denominator.log2 : ℤ) + 1) := by
          rw [← zpow_sub₀ two_ne_zero]
          congr 1
          omega
      _ ≤ numerator / denominator := by gcongr
  · next reaches =>
      have whole : (1 : ℚ) ≤ above / under := by
        rw [le_div_iff₀ (by exact_mod_cast below), one_mul]
        exact_mod_cast Nat.le_of_not_lt reaches
      rw [value, zpow_neg, ← div_eq_mul_inv, le_div_iff₀ (by positivity), one_mul] at whole
      exact whole

def lastPlace (numerator denominator : Nat) : ℤ :=
  max (floorLog2 numerator denominator - 52) (-1074)

def rounded (numerator denominator : Nat) : Nat :=
  divideEven (scaled numerator denominator (-lastPlace numerator denominator)).1
    (scaled numerator denominator (-lastPlace numerator denominator)).2

theorem ofRatio_of_pos {negative : Bool} {numerator denominator : Nat} (filled : 0 < numerator) :
    ofRatio negative numerator denominator =
      if rounded numerator denominator = Nat.pow 2 53 then
        if 971 < lastPlace numerator denominator + 1 then none
        else some ⟨negative, Nat.pow 2 52, lastPlace numerator denominator + 1⟩
      else if 971 < lastPlace numerator denominator then none
      else some ⟨negative, rounded numerator denominator, lastPlace numerator denominator⟩ := by
  rw [ofRatio, if_neg filled.ne']
  by_cases full : rounded numerator denominator = Nat.pow 2 53
  · rw [if_pos full]
    rw [rounded, lastPlace] at full
    simp only [full, if_true]
    rfl
  · rw [if_neg full]
    rw [rounded, lastPlace] at full
    simp only [full, if_false]
    rfl

theorem rounded_le {numerator denominator : Nat} (positive : 0 < denominator) :
    (rounded numerator denominator : ℚ) * 2 ^ lastPlace numerator denominator ≤
      numerator / denominator + 2 ^ (lastPlace numerator denominator - 1) := by
  have step := @divideEven_le (scaled numerator denominator (-lastPlace numerator denominator)).1 _
    (scaled_pos positive numerator (-lastPlace numerator denominator))
  rw [scaled_value, zpow_neg] at step
  have scale : (0 : ℚ) < 2 ^ lastPlace numerator denominator := by positivity
  calc (rounded numerator denominator : ℚ) * 2 ^ lastPlace numerator denominator
      ≤ (numerator / denominator * (2 ^ lastPlace numerator denominator)⁻¹ + 1 / 2) *
          2 ^ lastPlace numerator denominator := by gcongr; exact step
    _ = numerator / denominator + 2 ^ (lastPlace numerator denominator - 1) := by
        rw [zpow_sub_one₀ two_ne_zero]
        field_simp

theorem le_rounded {numerator denominator : Nat} (positive : 0 < denominator) :
    numerator / denominator - 2 ^ lastPlace numerator denominator ≤
      (rounded numerator denominator : ℚ) * 2 ^ lastPlace numerator denominator := by
  have step := @le_divideEven (scaled numerator denominator (-lastPlace numerator denominator)).1 _
    (scaled_pos positive numerator (-lastPlace numerator denominator))
  rw [scaled_value, zpow_neg] at step
  have scale : (0 : ℚ) < 2 ^ lastPlace numerator denominator := by positivity
  calc (numerator / denominator - 2 ^ lastPlace numerator denominator : ℚ)
      = (numerator / denominator * (2 ^ lastPlace numerator denominator)⁻¹ - 1) *
          2 ^ lastPlace numerator denominator := by field_simp
    _ ≤ (rounded numerator denominator : ℚ) * 2 ^ lastPlace numerator denominator := by
        gcongr
        exact step

theorem ofRatio_ne_none {negative : Bool} {numerator denominator : Nat}
    (positive : 0 < denominator) (small : (numerator : ℚ) / denominator < overflow) :
    ofRatio negative numerator denominator ≠ none := by
  rcases Nat.eq_zero_or_pos numerator with rfl | filled
  · simp [ofRatio]
  rw [ofRatio_of_pos filled]
  split
  · next carried =>
      rw [if_neg]
      · nofun
      intro large
      have near := @rounded_le numerator _ positive
      have place : (2 : ℚ) ^ lastPlace numerator denominator =
          2 * 2 ^ (lastPlace numerator denominator - 1) := by
        rw [mul_comm, ← zpow_add_one₀ two_ne_zero, Int.sub_add_cancel]
      rw [carried, place, Nat.pow_eq, Nat.cast_pow] at near
      have least : (2 : ℚ) ^ ((970 : Nat) : ℤ) ≤ 2 ^ (lastPlace numerator denominator - 1) :=
        zpow_le_zpow_right₀ one_le_two (by omega)
      rw [overflow] at small
      generalize (2 : ℚ) ^ ((970 : Nat) : ℤ) = half at small least
      norm_num at near small
      linarith
  · rw [if_neg]
    · nofun
    intro large
    have wide : 1024 ≤ floorLog2 numerator denominator := by
      rw [lastPlace] at large
      omega
    have least : (2 : ℚ) ^ (54 + (970 : Nat) : ℤ) ≤ 2 ^ floorLog2 numerator denominator :=
      zpow_le_zpow_right₀ one_le_two wide
    have reached := least.trans (floorLog2_le filled positive)
    have half : (0 : ℚ) < 2 ^ ((970 : Nat) : ℤ) := by positivity
    rw [overflow] at small
    rw [zpow_add₀ two_ne_zero] at reached
    generalize (2 : ℚ) ^ ((970 : Nat) : ℤ) = step at small reached half
    norm_num at small reached
    linarith

theorem magnitude_ofRatio {negative : Bool} {numerator denominator : Nat} {number : Binary64}
    (filled : 0 < numerator) (made : ofRatio negative numerator denominator = some number) :
    number.magnitude =
      rounded numerator denominator * 2 ^ lastPlace numerator denominator := by
  rw [ofRatio_of_pos filled] at made
  split at made
  · next carried =>
      split at made
      · cases made
      · cases made
        rw [magnitude, carried, zpow_add_one₀ two_ne_zero]
        norm_num
        ring
  · split at made
    · cases made
    · cases made
      rfl

/-- A coarse bound that holds for quotients of every size. -/
theorem magnitude_ofRatio_le_two_mul {negative : Bool} {numerator denominator : Nat}
    {number : Binary64} (positive : 0 < denominator)
    (made : ofRatio negative numerator denominator = some number) :
    number.magnitude ≤ 2 * (numerator / denominator) + 1 := by
  rcases Nat.eq_zero_or_pos numerator with rfl | filled
  · cases made
    simp [magnitude, zero]
  have near := @rounded_le numerator _ positive
  rw [← magnitude_ofRatio filled made] at near
  have below := floorLog2_le filled positive
  rcases le_total (floorLog2 numerator denominator - 52) (-1074) with low | high
  · rw [lastPlace, max_eq_right low] at near
    have tiny : (2 : ℚ) ^ (-1074 - 1 : ℤ) ≤ 1 := zpow_le_one_of_nonpos₀ one_le_two (by decide)
    have nonneg : (0 : ℚ) ≤ numerator / denominator := by positivity
    generalize (2 : ℚ) ^ (-1074 - 1 : ℤ) = step at near tiny
    linarith
  · rw [lastPlace, max_eq_left high] at near
    have step : (2 : ℚ) ^ (floorLog2 numerator denominator - 52 - 1) ≤
        2 ^ floorLog2 numerator denominator := zpow_le_zpow_right₀ one_le_two (by omega)
    linarith

/-! ## Whole numbers -/

/-- A whole number is rounded to the left or to the right by less than its last place. -/
theorem magnitude_ofInt {value : Nat} {number : Binary64} (made : ofInt value = some number) :
    (value / 2 : ℚ) ≤ number.magnitude ∧ number.magnitude ≤ value * (1 + 2 ^ (-53 : ℤ)) := by
  rw [ofInt, Int.natAbs_natCast] at made
  rcases Nat.eq_zero_or_pos value with rfl | filled
  · cases made
    simp [magnitude, zero]
  have high : -1074 ≤ floorLog2 value 1 - 52 := by
    have none : Nat.log2 1 = 0 := rfl
    rw [floorLog2, none]
    dsimp only
    split <;> omega
  have place : lastPlace value 1 = floorLog2 value 1 - 52 := max_eq_left high
  have below := floorLog2_le filled Nat.one_pos
  have least := @le_rounded value 1 Nat.one_pos
  have greatest := @rounded_le value 1 Nat.one_pos
  rw [← magnitude_ofRatio filled made, place, zpow_sub₀ two_ne_zero] at least
  rw [← magnitude_ofRatio filled made, place, sub_sub, zpow_sub₀ two_ne_zero] at greatest
  rw [Nat.cast_one, div_one] at below least greatest
  generalize (2 : ℚ) ^ floorLog2 value 1 = power at below least greatest
  norm_num at least greatest ⊢
  constructor <;> linarith

/-! ## Products and quotients -/

theorem mul_ne_none {left right : Binary64} (small : left.magnitude * right.magnitude < overflow) :
    left.mul right ≠ none := by
  change ofRatio _ (left.ratio.1 * right.ratio.1) (left.ratio.2 * right.ratio.2) ≠ none
  refine ofRatio_ne_none (Nat.mul_pos left.ratio_pos right.ratio_pos) ?_
  rw [Nat.cast_mul, Nat.cast_mul, ← div_mul_div_comm, ratio_value, ratio_value]
  exact small

/-- A quotient by a number that is not below one. -/
theorem exists_div {left right : Binary64} (whole : 1 ≤ right.magnitude)
    (small : left.magnitude < overflow) :
    ∃ quotient, left.div right = some quotient ∧
      quotient.magnitude ≤ 2 * (left.magnitude / right.magnitude) + 1 := by
  have filled : 0 < right.ratio.1 := by
    refine Nat.pos_of_ne_zero fun empty => ?_
    rw [← ratio_value, empty, Nat.cast_zero, zero_div] at whole
    exact absurd whole (by norm_num)
  have positive := Nat.mul_pos left.ratio_pos filled
  have value : ((left.ratio.1 * right.ratio.2 : Nat) : ℚ) / (left.ratio.2 * right.ratio.1 : Nat) =
      left.magnitude / right.magnitude := by
    rw [Nat.cast_mul, Nat.cast_mul, ← div_div_div_eq, ratio_value, ratio_value]
  have bounded : left.magnitude / right.magnitude < overflow :=
    (div_le_self left.magnitude_nonneg whole).trans_lt small
  have made := @ofRatio_ne_none (left.negative != right.negative) _ _ positive
    (value.trans_lt bounded)
  obtain ⟨quotient, made⟩ := Option.ne_none_iff_exists'.mp made
  exact ⟨quotient, made, value ▸ magnitude_ofRatio_le_two_mul positive made⟩

end SessionTokens.Binary64
