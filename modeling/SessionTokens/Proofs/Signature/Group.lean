import Mathlib.Algebra.Field.ZMod
import Mathlib.AlgebraicGeometry.EllipticCurve.Affine.Point
import Mathlib.FieldTheory.Finite.Basic
import SessionTokens.Proofs.Number.Certificate
import SessionTokens.Signature.Scaled

/-!
# Points of a curve form a group

The points over the residues modulo the prime of a curve are a group.  The
computations with numbers below the prime are those of the group: sums and
multiples, with and without quotients.
-/

namespace SessionTokens.Curve

def equation (curve : Curve) : WeierstrassCurve.Affine (ZMod curve.prime) where
  a₁ := 0
  a₂ := 0
  a₃ := 0
  a₄ := -3
  a₆ := curve.constant

class Smooth (curve : Curve) : Prop where
  prime : curve.prime.Prime
  large : 3 < curve.prime
  discriminant : curve.equation.Δ ≠ 0

instance (curve : Curve) [smooth : Smooth curve] : Fact curve.prime.Prime := ⟨smooth.prime⟩

inductive Represents (curve : Curve) [Smooth curve] : Point → curve.equation.Point → Prop
  | neutral : Represents curve .neutral 0
  | at {x y : Nat} (smallX : x < curve.prime) (smallY : y < curve.prime)
      (on : curve.equation.Nonsingular x y) : Represents curve (.at x y) (.some _ _ on)

/-! ## Residues -/

variable {curve : Curve}

theorem natCast_subMod {left right : Nat} (small : right ≤ curve.prime) :
    (subMod curve.prime left right : ZMod curve.prime) = left - right := by
  rw [subMod, ZMod.natCast_mod, Nat.cast_sub (by omega), Nat.cast_add, ZMod.natCast_self, add_zero]

theorem natCast_inverseMod {prime : Nat} [Fact prime.Prime] (large : 2 < prime) (number : Nat) :
    (inverseMod prime number : ZMod prime) = (number : ZMod prime)⁻¹ := by
  rw [inverseMod, natCast_powerMod]
  by_cases zero : (number : ZMod prime) = 0
  · rw [zero, inv_zero, zero_pow (by omega)]
  · refine eq_inv_of_mul_eq_one_left ?_
    rw [← pow_succ, show prime - 2 + 1 = prime - 1 by omega, ZMod.pow_card_sub_one_eq_one zero]

theorem natCast_inj {left right : Nat} (smallLeft : left < curve.prime)
    (smallRight : right < curve.prime) :
    (left : ZMod curve.prime) = right ↔ left = right := by
  rw [ZMod.natCast_eq_natCast_iff', Nat.mod_eq_of_lt smallLeft, Nat.mod_eq_of_lt smallRight]

theorem natCast_ne_zero {number : Nat} (positive : 0 < number) (small : number < curve.prime) :
    (number : ZMod curve.prime) ≠ 0 := by
  rw [Ne, ZMod.natCast_eq_zero_iff]
  exact Nat.not_dvd_of_pos_of_lt positive small

section Smooth

variable [smooth : Smooth curve]

theorem prime_pos : 0 < curve.prime := smooth.prime.pos

variable (curve) in
theorem subMod_lt (left right : Nat) : subMod curve.prime left right < curve.prime :=
  Nat.mod_lt _ prime_pos

theorem two_ne_zero : (2 : ZMod curve.prime) ≠ 0 := by
  have large := smooth.large
  have nonzero : ((2 : Nat) : ZMod curve.prime) ≠ 0 := natCast_ne_zero (by omega) (by omega)
  exact_mod_cast nonzero

end Smooth

/-! ## The equation -/

theorem equation_iff {x y : ZMod curve.prime} :
    curve.equation.Equation x y ↔ y ^ 2 = x ^ 3 - 3 * x + curve.constant := by
  rw [WeierstrassCurve.Affine.equation_iff]
  simp only [equation]
  constructor <;> intro holds <;> linear_combination holds

theorem negY_eq (x y : ZMod curve.prime) : curve.equation.negY x y = -y := by
  simp [WeierstrassCurve.Affine.negY, equation]

theorem addX_eq (x1 x2 slope : ZMod curve.prime) :
    curve.equation.addX x1 x2 slope = slope ^ 2 - x1 - x2 := by
  simp [WeierstrassCurve.Affine.addX, equation]

theorem addY_eq (x1 x2 y1 slope : ZMod curve.prime) :
    curve.equation.addY x1 x2 y1 slope =
      slope * (x1 - curve.equation.addX x1 x2 slope) - y1 := by
  rw [WeierstrassCurve.Affine.addY, negY_eq, WeierstrassCurve.Affine.negAddY]
  ring

variable [smooth : Smooth curve]

theorem nonsingular_iff {x y : ZMod curve.prime} :
    curve.equation.Nonsingular x y ↔ y ^ 2 = x ^ 3 - 3 * x + curve.constant := by
  rw [← equation_iff]
  exact (curve.equation.equation_iff_nonsingular_of_Δ_ne_zero smooth.discriminant).symm

theorem natCast_cubic (x : Nat) :
    (curve.cubic x : ZMod curve.prime) = x ^ 3 - 3 * x + curve.constant := by
  have large := smooth.large
  rw [cubic, ZMod.natCast_mod, Nat.cast_add, Nat.cast_add, Nat.cast_mul, ZMod.natCast_mod,
    Nat.cast_mul, Nat.cast_mul, Nat.cast_sub (by omega), ZMod.natCast_self]
  push_cast
  ring

/-- Coordinates that are on the curve stand for a point. -/
theorem exists_represents {x y : Nat} (inside : curve.contains x y = true) :
    ∃ point, Represents curve (.at x y) point := by
  simp only [contains, Bool.and_eq_true, decide_eq_true_eq] at inside
  obtain ⟨⟨smallX, smallY⟩, same⟩ := inside
  refine ⟨_, .at smallX smallY (nonsingular_iff.mpr ?_)⟩
  rw [← natCast_cubic, ← same, ZMod.natCast_mod, Nat.cast_mul, sq]

theorem Represents.of_eq {x y : Nat} {pointX pointY : ZMod curve.prime}
    (smallX : x < curve.prime) (smallY : y < curve.prime) (sameX : (x : ZMod curve.prime) = pointX)
    (sameY : (y : ZMod curve.prime) = pointY) (on : curve.equation.Nonsingular pointX pointY) :
    Represents curve (.at x y) (.some _ _ on) := by
  subst sameX sameY
  exact .at smallX smallY on

theorem Represents.unique {first second : Point} {point : curve.equation.Point}
    (one : Represents curve first point) (other : Represents curve second point) :
    first = second := by
  cases one with
  | neutral =>
      generalize zero : (0 : curve.equation.Point) = point at other
      cases other with
      | neutral => rfl
      | «at» => cases zero
  | @«at» x y smallX smallY on =>
      generalize same : WeierstrassCurve.Affine.Point.some _ _ on = point at other
      cases other with
      | neutral => cases same
      | «at» otherX otherY =>
          simp only [WeierstrassCurve.Affine.Point.some.injEq] at same
          rw [(natCast_inj smallX otherX).mp same.1, (natCast_inj smallY otherY).mp same.2]

/-! ## Sums -/

/-- The line through two points meets the curve where the computation says. -/
theorem represents_chord {slope x1 y1 x2 : Nat} {x y : ZMod curve.prime}
    (small1 : x1 < curve.prime) (smallY : y1 < curve.prime) (small2 : x2 < curve.prime)
    (sameX : x = (slope : ZMod curve.prime) ^ 2 - x1 - x2)
    (sameY : y = slope * (x1 - x) - y1) (on : curve.equation.Nonsingular x y) :
    Represents curve (curve.chord slope x1 y1 x2) (.some _ _ on) := by
  have castX : (subMod curve.prime (subMod curve.prime (slope * slope % curve.prime) x1) x2 :
      ZMod curve.prime) = x := by
    rw [natCast_subMod small2.le, natCast_subMod small1.le, ZMod.natCast_mod, Nat.cast_mul, sameX, sq]
  refine .of_eq (subMod_lt _ _ _) (subMod_lt _ _ _) castX ?_ on
  rw [natCast_subMod smallY.le, ZMod.natCast_mod, Nat.cast_mul, natCast_subMod (subMod_lt _ _ _).le,
    castX, sameY]

theorem slope_of_same {x y : ZMod curve.prime} (different : y ≠ -y) :
    curve.equation.slope x x y y = (3 * x ^ 2 - 3) / (2 * y) := by
  rw [WeierstrassCurve.Affine.slope_of_Y_ne rfl (by rwa [negY_eq]), negY_eq]
  simp only [equation]
  congr 1 <;> ring

theorem ne_neg_self {y : ZMod curve.prime} (nonzero : y ≠ 0) : y ≠ -y := by
  intro same
  have double : 2 * y = 0 := by linear_combination same
  exact nonzero ((mul_eq_zero.mp double).resolve_left two_ne_zero)

/-- The sum of a point with itself, off the line on which the tangents stand upright. -/
theorem represents_tangent {x y : Nat} (smallX : x < curve.prime) (smallY : y < curve.prime)
    (nonzero : y ≠ 0) (on : curve.equation.Nonsingular x y) :
    Represents curve
      (curve.chord (subMod curve.prime (3 * x * x % curve.prime) 3 *
        inverseMod curve.prime (2 * y) % curve.prime) x y x)
      (.some _ _ on + .some _ _ on) := by
  have large := smooth.large
  have different := ne_neg_self (natCast_ne_zero (Nat.pos_of_ne_zero nonzero) smallY)
  rw [WeierstrassCurve.Affine.Point.add_self_of_Y_ne (by rwa [negY_eq])]
  have slope : ((subMod curve.prime (3 * x * x % curve.prime) 3 *
      inverseMod curve.prime (2 * y) % curve.prime : Nat) : ZMod curve.prime) =
        curve.equation.slope x x y y := by
    rw [slope_of_same different, ZMod.natCast_mod, Nat.cast_mul, natCast_inverseMod (by omega),
      natCast_subMod (by omega), ZMod.natCast_mod]
    push_cast
    rw [div_eq_mul_inv]
    ring
  exact represents_chord smallX smallY smallX (by rw [addX_eq, slope]) (by rw [addY_eq, slope]) _

/-- The sum of two points that are not above one another. -/
theorem represents_secant {x1 y1 x2 y2 : Nat} (small1 : x1 < curve.prime)
    (smallY1 : y1 < curve.prime) (small2 : x2 < curve.prime) (differs : x1 ≠ x2)
    (on1 : curve.equation.Nonsingular x1 y1) (on2 : curve.equation.Nonsingular x2 y2) :
    Represents curve
      (curve.chord (subMod curve.prime y2 y1 *
        inverseMod curve.prime (subMod curve.prime x2 x1) % curve.prime) x1 y1 x2)
      (.some _ _ on1 + .some _ _ on2) := by
  have large := smooth.large
  have different : (x1 : ZMod curve.prime) ≠ x2 := fun same =>
    differs ((natCast_inj small1 small2).mp same)
  rw [WeierstrassCurve.Affine.Point.add_of_X_ne different]
  have slope : ((subMod curve.prime y2 y1 *
      inverseMod curve.prime (subMod curve.prime x2 x1) % curve.prime : Nat) :
        ZMod curve.prime) = curve.equation.slope x1 x2 y1 y2 := by
    rw [WeierstrassCurve.Affine.slope_of_X_ne different, ZMod.natCast_mod, Nat.cast_mul,
      natCast_inverseMod (by omega), natCast_subMod smallY1.le, natCast_subMod small1.le,
      ← div_eq_mul_inv, ← neg_sub, ← neg_sub (x1 : ZMod curve.prime), neg_div_neg_eq]
  exact represents_chord small1 smallY1 small2 (by rw [addX_eq, slope]) (by rw [addY_eq, slope]) _

/-- Points above one another that are not doubled are opposite. -/
theorem opposite_of_apart {x y1 y2 : Nat} (small1 : y1 < curve.prime) (small2 : y2 < curve.prime)
    (apart : ¬ (y1 = y2 ∧ y1 ≠ 0)) (on1 : curve.equation.Nonsingular x y1)
    (on2 : curve.equation.Nonsingular x y2) :
    (y1 : ZMod curve.prime) = curve.equation.negY x y2 := by
  rcases WeierstrassCurve.Affine.Y_eq_of_X_eq on1.left on2.left rfl with same | opposite
  · have same := (natCast_inj small1 small2).mp same
    subst same
    have zero : y1 = 0 := by tauto
    rw [negY_eq, zero, Nat.cast_zero, neg_zero]
  · exact opposite

/-- The sum of two points that coordinates stand for. -/
theorem Represents.add {left right : Point} {first second : curve.equation.Point}
    (one : Represents curve left first) (other : Represents curve right second) :
    Represents curve (curve.add left right) (first + second) := by
  cases one with
  | neutral =>
      rw [zero_add]
      exact other
  | @«at» x1 y1 small1 smallY1 on1 =>
      cases other with
      | neutral =>
          rw [add_zero]
          exact .at small1 smallY1 on1
      | @«at» x2 y2 small2 smallY2 on2 =>
          rw [Curve.add]
          split
          · next above =>
              subst above
              split
              · next doubled =>
                  obtain ⟨rfl, nonzero⟩ := doubled
                  exact represents_tangent small1 smallY1 nonzero on1
              · next apart =>
                  rw [WeierstrassCurve.Affine.Point.add_of_Y_eq rfl
                    (opposite_of_apart smallY1 smallY2 apart on1 on2)]
                  exact .neutral
          · next differs => exact represents_secant small1 smallY1 small2 differs on1 on2

/-! ## Multiples -/

section Halves

variable {group : Type*} [AddCommMonoid group] {factor : Nat}

theorem half_nsmul_of_even (even : factor % 2 ≠ 1) (value : group) :
    (factor / 2) • (value + value) = factor • value := by
  have parts : factor / 2 * 2 = factor := by omega
  rw [← two_nsmul, smul_smul, parts]

theorem add_half_nsmul_of_odd (odd : factor % 2 = 1) (value : group) :
    value + (factor / 2) • (value + value) = factor • value := by
  have parts : factor / 2 * 2 + 1 = factor := by omega
  rw [← two_nsmul, smul_smul, ← succ_nsmul', parts]

end Halves

theorem Represents.multiply {bits factor : Nat} (fits : factor < 2 ^ bits) {point : Point}
    {value : curve.equation.Point} (one : Represents curve point value) :
    Represents curve (curve.multiply bits factor point) (factor • value) := by
  induction bits generalizing factor point value with
  | zero =>
      have zero : factor = 0 := by simpa using fits
      rw [zero, zero_nsmul]
      exact .neutral
  | succ bits ih =>
      have half : factor / 2 < 2 ^ bits := by
        rw [pow_succ] at fits
        omega
      have rest := ih half (one.add one)
      rw [Curve.multiply]
      split
      · next zero =>
          rw [zero, zero_nsmul]
          exact .neutral
      · dsimp only
        split
        · next odd =>
            rw [← add_half_nsmul_of_odd odd]
            exact one.add rest
        · next even =>
            rw [← half_nsmul_of_even even]
            exact rest

/-- The multiple of a point that coordinates stand for. -/
theorem Represents.times {point : Point} {value : curve.equation.Point}
    (one : Represents curve point value) (factor : Nat) :
    Represents curve (curve.times factor point) (factor • value) :=
  one.multiply Nat.lt_log2_self

end SessionTokens.Curve
