import SessionTokens.Signature.Curve

/-!
# Points without quotients

A point with a third number by whose square and cube its coordinates are scaled.
Sums of such points take no inverse, so that large multiples are quick to find.
-/

namespace SessionTokens.Curve

/-- Coordinates scaled by the square and the cube of a third number; it is 0 for the neutral point. -/
structure Scaled where
  x : Nat
  y : Nat
  scale : Nat
  deriving DecidableEq, Repr

namespace Scaled

def neutral : Scaled := ⟨1, 1, 0⟩

def double (curve : Curve) : Scaled → Scaled
  | ⟨x, y, scale⟩ =>
      let p := curve.prime
      let square := scale * scale % p
      let slope := 3 * (subMod p x square * (x + square)) % p
      let product := 4 * x * (y * y % p) % p
      let newX := subMod p (slope * slope % p) (2 * product % p)
      ⟨newX, subMod p (slope * subMod p product newX % p) (8 * (y * y % p) * (y * y % p) % p),
        2 * y * scale % p⟩

def add (curve : Curve) (x2 y2 : Nat) : Scaled → Scaled
  | ⟨x, y, scale⟩ =>
      let p := curve.prime
      let square := scale * scale % p
      let run := subMod p (x2 * square % p) x
      let rise := subMod p (y2 * (square * scale % p) % p) y
      if scale = 0 then ⟨x2, y2, 1⟩
      else if run = 0 then if rise = 0 then double curve ⟨x, y, scale⟩ else neutral
      else
        let cube := run * (run * run % p) % p
        let product := x * (run * run % p) % p
        let newX := subMod p (subMod p (rise * rise % p) cube) (2 * product % p)
        ⟨newX, subMod p (rise * subMod p product newX % p) (y * cube % p), scale * run % p⟩

/-- A multiple of a point with given coordinates; `bits` is at least the factor's number of bits. -/
def multiply (curve : Curve) (x y : Nat) : (bits factor : Nat) → Scaled
  | 0, _ => neutral
  | bits + 1, factor =>
      if factor = 0 then neutral
      else
        let even := double curve (multiply curve x y bits (factor / 2))
        if factor % 2 = 1 then add curve x y even else even

end Scaled

/-- Whether the order of the base point divides a number, found without quotients. -/
def annihilatesBase (curve : Curve) (factor : Nat) : Bool :=
  (Scaled.multiply curve curve.baseX curve.baseY (factor.log2 + 1) factor).scale = 0

end SessionTokens.Curve
