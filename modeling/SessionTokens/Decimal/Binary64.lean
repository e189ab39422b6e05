/-!
# Binary floating-point numbers of 64 bits

A finite number is a sign, a mantissa below `2 ^ 53` and a power of two.  All
arithmetic is exact on natural numbers with one rounding at the end, to the
nearest number and to an even mantissa in a tie.
-/

namespace SessionTokens

/--
The number `± mantissa · 2 ^ exponent`.  Rounding produces mantissas below
`2 ^ 53`, exponents from `-1074` to `971`, and the largest mantissa that the
exponent allows.
-/
structure Binary64 where
  negative : Bool
  mantissa : Nat
  exponent : Int
  deriving DecidableEq, Repr

namespace Binary64

def zero (negative : Bool) : Binary64 := ⟨negative, 0, -1074⟩

/-- The quotient rounded to the nearest whole number, a tie to the even one. -/
def divideEven (numerator denominator : Nat) : Nat :=
  let quotient := numerator / denominator
  let remainder := numerator % denominator
  if 2 * remainder < denominator then quotient
  else if denominator < 2 * remainder then quotient + 1
  else quotient + quotient % 2

/-- The quotient of two numbers after both were scaled by a power of two. -/
def scaled (numerator denominator : Nat) (power : Int) : Nat × Nat :=
  if 0 ≤ power then (numerator * Nat.pow 2 power.toNat, denominator)
  else (numerator, denominator * Nat.pow 2 (-power).toNat)

/-- The greatest power of two that is at most a positive quotient. -/
def floorLog2 (numerator denominator : Nat) : Int :=
  let estimate : Int := (numerator.log2 : Int) - denominator.log2
  let (high, low) := scaled numerator denominator (-estimate)
  if high < low then estimate - 1 else estimate

/-- The number nearest to a quotient; `none` when it is too large. -/
def ofRatio (negative : Bool) (numerator denominator : Nat) : Option Binary64 :=
  if numerator = 0 then some (zero negative)
  else
    let exponent := max (floorLog2 numerator denominator - 52) (-1074)
    let (high, low) := scaled numerator denominator (-exponent)
    let mantissa := divideEven high low
    let (mantissa, exponent) :=
      if mantissa = Nat.pow 2 53 then (Nat.pow 2 52, exponent + 1) else (mantissa, exponent)
    if 971 < exponent then none else some ⟨negative, mantissa, exponent⟩

def ratio (number : Binary64) : Nat × Nat :=
  scaled number.mantissa 1 number.exponent

def isZero (number : Binary64) : Bool := number.mantissa = 0

/-- The whole number nearest to a whole number; `none` when it is too large. -/
def ofInt (value : Int) : Option Binary64 :=
  ofRatio (value < 0) value.natAbs 1

def mul (left right : Binary64) : Option Binary64 :=
  let (leftHigh, leftLow) := left.ratio
  let (rightHigh, rightLow) := right.ratio
  ofRatio (left.negative != right.negative) (leftHigh * rightHigh) (leftLow * rightLow)

/-- The quotient by a non-zero number, rounded once. -/
def div (left right : Binary64) : Option Binary64 :=
  let (leftHigh, leftLow) := left.ratio
  let (rightHigh, rightLow) := right.ratio
  ofRatio (left.negative != right.negative) (leftHigh * rightLow) (leftLow * rightHigh)

def signed (negative : Bool) (magnitude : Nat) : Int :=
  if negative then -(magnitude : Int) else magnitude

def truncate (number : Binary64) : Int :=
  let (high, low) := number.ratio
  signed number.negative (high / low)

/-- The nearest whole number, a half going away from zero. -/
def round (number : Binary64) : Int :=
  let (high, low) := number.ratio
  signed number.negative ((2 * high + low) / (2 * low))

end Binary64

inductive Extended64 where
  | finite (number : Binary64)
  | infinite (negative : Bool)
  | notANumber
  deriving DecidableEq, Repr

end SessionTokens
