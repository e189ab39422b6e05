import SessionTokens.Proofs.Signature.Group

/-!
# Sums without quotients

Scaled coordinates stand for points of the group, and their sums and multiples
for the sums and multiples there.  So a number annihilates the base point when
the computation without quotients ends in the neutral point.
-/

namespace SessionTokens.Curve

namespace Scaled

variable {curve : Curve} [smooth : Smooth curve]

inductive Represents (curve : Curve) [Smooth curve] : Scaled → curve.equation.Point → Prop
  | neutral (x y : Nat) : Represents curve ⟨x, y, 0⟩ 0
  | at {x y scale : Nat} {pointX pointY : ZMod curve.prime}
      (nonzero : (scale : ZMod curve.prime) ≠ 0)
      (smallX : x ≤ curve.prime) (smallY : y ≤ curve.prime)
      (sameX : (x : ZMod curve.prime) = pointX * scale ^ 2)
      (sameY : (y : ZMod curve.prime) = pointY * scale ^ 3)
      (on : curve.equation.Nonsingular pointX pointY) :
      Represents curve ⟨x, y, scale⟩ (.some _ _ on)

theorem mod_le (number : Nat) : number % curve.prime ≤ curve.prime :=
  (Nat.mod_lt _ prime_pos).le

/-- The third point on a line, when numbers hold its slope and its first point in the new scale. -/
theorem represents_line {square rise product tail scale : Nat}
    {slope x1 y1 x2 pointX pointY : ZMod curve.prime}
    (nonzero : (scale : ZMod curve.prime) ≠ 0) (small : tail ≤ curve.prime)
    (castSquare : (square : ZMod curve.prime) = (slope ^ 2 + x1 - x2) * scale ^ 2)
    (castRise : (rise : ZMod curve.prime) = slope * scale)
    (castProduct : (product : ZMod curve.prime) = x1 * scale ^ 2)
    (castTail : (tail : ZMod curve.prime) = y1 * scale ^ 3)
    (sumX : pointX = slope ^ 2 - x1 - x2) (sumY : pointY = slope * (x1 - pointX) - y1)
    (on : curve.equation.Nonsingular pointX pointY) :
    let newX := subMod curve.prime square (2 * product % curve.prime)
    Represents curve
      ⟨newX, subMod curve.prime (rise * subMod curve.prime product newX % curve.prime) tail, scale⟩
      (.some _ _ on) := by
  have castX : (subMod curve.prime square (2 * product % curve.prime) : ZMod curve.prime) =
      pointX * scale ^ 2 := by
    rw [natCast_subMod (mod_le _), ZMod.natCast_mod, Nat.cast_mul, castSquare, castProduct, sumX,
      Nat.cast_ofNat]
    ring
  refine .at nonzero (subMod_lt _ _ _).le (subMod_lt _ _ _).le castX ?_ on
  rw [natCast_subMod small, ZMod.natCast_mod, Nat.cast_mul, natCast_subMod (subMod_lt _ _ _).le, castX,
    castRise, castProduct, castTail, sumY]
  ring

/-- The sum of a point with itself, off the line on which the tangents stand upright. -/
theorem represents_tangent {x y scale : Nat} {pointX pointY : ZMod curve.prime}
    (nonzero : (scale : ZMod curve.prime) ≠ 0)
    (sameX : (x : ZMod curve.prime) = pointX * scale ^ 2)
    (sameY : (y : ZMod curve.prime) = pointY * scale ^ 3)
    (on : curve.equation.Nonsingular pointX pointY) (steep : pointY ≠ 0) :
    Represents curve (double curve ⟨x, y, scale⟩) (.some _ _ on + .some _ _ on) := by
  have different := ne_neg_self steep
  rw [WeierstrassCurve.Affine.Point.add_self_of_Y_ne (by rwa [negY_eq])]
  have slope : curve.equation.slope pointX pointX pointY pointY = _ := slope_of_same different
  rw [eq_div_iff (mul_ne_zero two_ne_zero steep)] at slope
  have castScale : ((2 * y * scale % curve.prime : Nat) : ZMod curve.prime) =
      2 * pointY * scale ^ 4 := by
    rw [ZMod.natCast_mod, Nat.cast_mul, Nat.cast_mul, sameY, Nat.cast_ofNat]
    ring
  have castRise : ((3 * (subMod curve.prime x (scale * scale % curve.prime) *
      (x + scale * scale % curve.prime)) % curve.prime : Nat) : ZMod curve.prime) =
        curve.equation.slope pointX pointX pointY pointY *
          (2 * y * scale % curve.prime : Nat) := by
    simp only [castScale, ZMod.natCast_mod, Nat.cast_mul, natCast_subMod (mod_le _),
      Nat.cast_add, Nat.cast_ofNat, sameX]
    linear_combination -(scale : ZMod curve.prime) ^ 4 * slope
  have castProduct : ((4 * x * (y * y % curve.prime) % curve.prime : Nat) : ZMod curve.prime) =
      pointX * (2 * y * scale % curve.prime : Nat) ^ 2 := by
    simp only [castScale, ZMod.natCast_mod, Nat.cast_mul, Nat.cast_ofNat, sameX, sameY]
    ring
  have castTail : ((8 * (y * y % curve.prime) * (y * y % curve.prime) % curve.prime : Nat) :
      ZMod curve.prime) = pointY * (2 * y * scale % curve.prime : Nat) ^ 3 := by
    simp only [castScale, ZMod.natCast_mod, Nat.cast_mul, Nat.cast_ofNat, sameY]
    ring
  refine represents_line ?_ (mod_le _) ?_ castRise castProduct castTail (addX_eq _ _ _)
    (addY_eq _ _ _ _) _
  · rw [castScale]
    exact mul_ne_zero (mul_ne_zero two_ne_zero steep) (pow_ne_zero _ nonzero)
  · rw [ZMod.natCast_mod, Nat.cast_mul, castRise]
    ring

/-- The sum of two points that are not above one another, by the run and the rise between them. -/
theorem represents_secant {x y scale x2 y2 run rise : Nat} {pointX pointY : ZMod curve.prime}
    (nonzero : (scale : ZMod curve.prime) ≠ 0)
    (sameX : (x : ZMod curve.prime) = pointX * scale ^ 2)
    (sameY : (y : ZMod curve.prime) = pointY * scale ^ 3)
    (castRun : (run : ZMod curve.prime) = (x2 - pointX) * scale ^ 2)
    (castRise : (rise : ZMod curve.prime) = (y2 - pointY) * scale ^ 3)
    (on : curve.equation.Nonsingular pointX pointY) (on2 : curve.equation.Nonsingular x2 y2)
    (differs : (x2 : ZMod curve.prime) ≠ pointX) :
    let cube := run * (run * run % curve.prime) % curve.prime
    let product := x * (run * run % curve.prime) % curve.prime
    let newX := subMod curve.prime (subMod curve.prime (rise * rise % curve.prime) cube)
      (2 * product % curve.prime)
    Represents curve
      ⟨newX, subMod curve.prime (rise * subMod curve.prime product newX % curve.prime)
        (y * cube % curve.prime), scale * run % curve.prime⟩
      (.some _ _ on + .some _ _ on2) := by
  have different : pointX ≠ x2 := Ne.symm differs
  rw [WeierstrassCurve.Affine.Point.add_of_X_ne different]
  have slope : curve.equation.slope pointX x2 pointY y2 = _ :=
    WeierstrassCurve.Affine.slope_of_X_ne different
  rw [eq_div_iff (sub_ne_zero.mpr different)] at slope
  have castScale : ((scale * run % curve.prime : Nat) : ZMod curve.prime) =
      (x2 - pointX) * scale ^ 3 := by
    rw [ZMod.natCast_mod, Nat.cast_mul, castRun]
    ring
  have onLine : (rise : ZMod curve.prime) =
      curve.equation.slope pointX x2 pointY y2 * (scale * run % curve.prime : Nat) := by
    rw [castScale, castRise]
    linear_combination (scale : ZMod curve.prime) ^ 3 * slope
  refine represents_line ?_ (mod_le _) ?_ onLine ?_ ?_ (addX_eq _ _ _) (addY_eq _ _ _ _) _
  · rw [castScale]
    exact mul_ne_zero (sub_ne_zero.mpr differs) (pow_ne_zero _ nonzero)
  · rw [natCast_subMod (mod_le _), ZMod.natCast_mod, Nat.cast_mul, onLine, castScale]
    simp only [ZMod.natCast_mod, Nat.cast_mul, castRun]
    ring
  · simp only [castScale, ZMod.natCast_mod, Nat.cast_mul, castRun, sameX]
    ring
  · simp only [castScale, ZMod.natCast_mod, Nat.cast_mul, castRun, sameY]
    ring

theorem Represents.double {scaled : Scaled} {point : curve.equation.Point}
    (one : Represents curve scaled point) :
    Represents curve (scaled.double curve) (point + point) := by
  cases one with
  | neutral x y =>
      rw [add_zero, Scaled.double, Nat.mul_zero, Nat.zero_mod]
      exact .neutral _ _
  | @«at» x y scale pointX pointY nonzero smallX smallY sameX sameY on =>
      by_cases flat : pointY = 0
      · have zero : 2 * y * scale % curve.prime = 0 := by
          have divides : ((2 * y * scale : Nat) : ZMod curve.prime) = 0 := by
            rw [Nat.cast_mul, Nat.cast_mul, sameY, flat]
            ring
          exact Nat.mod_eq_zero_of_dvd ((ZMod.natCast_eq_zero_iff _ _).mp divides)
        rw [Scaled.double, zero,
          WeierstrassCurve.Affine.Point.add_of_Y_eq rfl (by rw [negY_eq, flat, neg_zero])]
        exact .neutral _ _
      · exact represents_tangent nonzero sameX sameY on flat

/-- A difference in some scale vanishes when it does without the scale. -/
theorem eq_zero_iff_of_scaled {scale number exponent : Nat} {difference : ZMod curve.prime}
    (nonzero : (scale : ZMod curve.prime) ≠ 0) (small : number < curve.prime)
    (cast : (number : ZMod curve.prime) = difference * scale ^ exponent) :
    number = 0 ↔ difference = 0 := by
  rw [← natCast_inj small prime_pos, cast, Nat.cast_zero, mul_eq_zero_iff_right]
  exact pow_ne_zero _ nonzero

/-- The sum with a point that coordinates stand for. -/
theorem Represents.add {scaled : Scaled} {x2 y2 : Nat} {first second : curve.equation.Point}
    (one : Represents curve scaled first) (other : Curve.Represents curve (.at x2 y2) second) :
    Represents curve (scaled.add curve x2 y2) (first + second) := by
  cases other with
  | «at» small2 smallY2 on2 =>
  cases one with
  | neutral x y =>
      rw [zero_add, Scaled.add, if_pos rfl]
      exact .at (by simp) small2.le smallY2.le (by simp) (by simp) on2
  | @«at» x y scale pointX pointY nonzero smallX smallY sameX sameY on =>
      have castRun : (subMod curve.prime (x2 * (scale * scale % curve.prime) % curve.prime) x :
          ZMod curve.prime) = (x2 - pointX) * scale ^ 2 := by
        simp only [natCast_subMod smallX, ZMod.natCast_mod, Nat.cast_mul, sameX]
        ring
      have castRise : (subMod curve.prime
          (y2 * (scale * scale % curve.prime * scale % curve.prime) % curve.prime) y :
            ZMod curve.prime) = (y2 - pointY) * scale ^ 3 := by
        simp only [natCast_subMod smallY, ZMod.natCast_mod, Nat.cast_mul, sameY]
        ring
      have above := eq_zero_iff_of_scaled nonzero (subMod_lt _ _ _) castRun
      have equal := eq_zero_iff_of_scaled nonzero (subMod_lt _ _ _) castRise
      rw [sub_eq_zero] at above equal
      rw [Scaled.add, if_neg (by rintro rfl; exact nonzero Nat.cast_zero)]
      split
      · next noRun =>
          have alike := above.mp noRun
          subst alike
          split
          · next noRise =>
              have same := equal.mp noRise
              subst same
              exact Represents.double (.at nonzero smallX smallY sameX sameY on)
          · next rises =>
              have opposite := (WeierstrassCurve.Affine.Y_eq_of_X_eq on.left on2.left
                rfl).resolve_left fun same => rises (equal.mpr same.symm)
              rw [WeierstrassCurve.Affine.Point.add_of_Y_eq rfl opposite]
              exact .neutral _ _
      · next runs =>
          exact represents_secant nonzero sameX sameY castRun castRise on on2
            fun same => runs (above.mpr same)

theorem Represents.multiply {x y bits factor : Nat} (fits : factor < 2 ^ bits)
    {value : curve.equation.Point} (one : Curve.Represents curve (.at x y) value) :
    Represents curve (Scaled.multiply curve x y bits factor) (factor • value) := by
  induction bits generalizing factor with
  | zero =>
      have zero : factor = 0 := by simpa using fits
      rw [zero, zero_nsmul]
      exact .neutral _ _
  | succ bits ih =>
      have half : factor / 2 < 2 ^ bits := by
        rw [pow_succ] at fits
        omega
      have twice := (ih half).double
      rw [← nsmul_add] at twice
      rw [Scaled.multiply]
      split
      · next zero =>
          rw [zero, zero_nsmul]
          exact .neutral _ _
      · dsimp only
        split
        · next odd =>
            rw [← add_half_nsmul_of_odd odd, add_comm]
            exact twice.add one
        · next even =>
            rw [← half_nsmul_of_even even]
            exact twice

end Scaled

variable {curve : Curve} [smooth : Smooth curve]

/-- Numbers that annihilate the base point do so in the group. -/
theorem annihilates {factor : Nat} {value : curve.equation.Point}
    (checked : curve.annihilatesBase factor = true) (one : Represents curve curve.base value) :
    factor • value = 0 := by
  have fits : factor < 2 ^ (factor.log2 + 1) := Nat.lt_log2_self
  have multiple := Scaled.Represents.multiply fits one
  rw [annihilatesBase, decide_eq_true_eq] at checked
  generalize Scaled.multiply curve curve.baseX curve.baseY (factor.log2 + 1) factor = scaled
    at checked multiple
  generalize factor • value = point at multiple
  cases multiple with
  | neutral => rfl
  | «at» nonzero => exact absurd ((congrArg Nat.cast checked).trans Nat.cast_zero) nonzero

end SessionTokens.Curve
