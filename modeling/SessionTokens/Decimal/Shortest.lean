import SessionTokens.Decimal.Binary64

/-!
# Shortest decimal text

The fewest decimal digits that read back as the same 64-bit number, and, among
those, the digits nearest to it.  `Notation` says how the digits are laid out.
-/

namespace SessionTokens.Decimal

def digits (number : Nat) : List Char := Nat.toDigits 10 number

/-- The number `coefficient · 10 ^ exponent`. -/
structure Scientific where
  coefficient : Nat
  exponent : Int
  deriving DecidableEq, Repr

/-- A positive quotient, and the quotients between which all numbers round to it. -/
structure Interval where
  denominator : Nat
  low : Nat
  value : Nat
  high : Nat
  closed : Bool

def Interval.of (number : Binary64) : Interval :=
  let lowStep := if number.mantissa = Nat.pow 2 52 ∧ -1074 < number.exponent then 1 else 2
  let (unit, denominator) := Binary64.scaled 1 1 (number.exponent - 2)
  { denominator
    low := (4 * number.mantissa - lowStep) * unit
    value := 4 * number.mantissa * unit
    high := (4 * number.mantissa + 2) * unit
    closed := number.mantissa % 2 = 0 }

def Interval.holds (interval : Interval) (candidate : Scientific) : Bool :=
  let (up, down) :=
    if 0 ≤ candidate.exponent then (Nat.pow 10 candidate.exponent.toNat, 1)
    else (1, Nat.pow 10 (-candidate.exponent).toNat)
  let point := candidate.coefficient * up * interval.denominator
  let low := interval.low * down
  let high := interval.high * down
  if interval.closed then low ≤ point ∧ point ≤ high else low < point ∧ point < high

def leadingPower (numerator denominator : Nat) : Int :=
  ((digits (numerator * Nat.pow 10 400 / denominator)).length : Int) - 401

/-- The better of the two neighbours of the interval's value on the grid of `10 ^ exponent`. -/
def Interval.onGrid? (interval : Interval) (exponent : Int) : Option Scientific :=
  let (numerator, denominator) :=
    if 0 ≤ exponent then (interval.value, interval.denominator * Nat.pow 10 exponent.toNat)
    else (interval.value * Nat.pow 10 (-exponent).toNat, interval.denominator)
  let below : Scientific := ⟨numerator / denominator, exponent⟩
  let above : Scientific := ⟨numerator / denominator + 1, exponent⟩
  let nearest := Binary64.divideEven numerator denominator
  match interval.holds below, interval.holds above with
  | true, true => some ⟨nearest, exponent⟩
  | true, false => some below
  | false, true => some above
  | false, false => none

def Scientific.trim (fuel : Nat) (number : Scientific) : Scientific :=
  match fuel with
  | 0 => number
  | fuel + 1 =>
      if number.coefficient % 10 = 0 ∧ number.coefficient ≠ 0 then
        Scientific.trim fuel ⟨number.coefficient / 10, number.exponent + 1⟩
      else number

/-- The fewest digits that read back as a positive number, and the nearest of those. -/
def shortest (number : Binary64) : Scientific :=
  let interval := Interval.of number
  let leading := leadingPower interval.value interval.denominator
  let best := (List.range 18).findSome? fun (count : Nat) =>
    interval.onGrid? (leading - (count : Int))
  (best.getD ⟨0, 0⟩).trim 20

structure Layout where
  /-- The least power of ten of a leading digit that is written positionally. -/
  leastPositional : Int
  /-- The greatest power of ten of a leading digit that is written positionally. -/
  greatestPositional : Int
  /-- Whether a whole number is written with `.0`. -/
  pointZero : Bool

/-- Writes a coefficient with its decimal point, padding with zeros. -/
def positional (layout : Layout) (number : Scientific) : List Char :=
  let text := digits number.coefficient
  if 0 ≤ number.exponent then
    text ++ List.replicate number.exponent.toNat '0'
      ++ (if layout.pointZero then ['.', '0'] else [])
  else
    let places := (-number.exponent).toNat
    let padded := List.replicate (places + 1 - text.length) '0' ++ text
    let whole := padded.take (padded.length - places)
    whole ++ '.' :: padded.drop (padded.length - places)

/-- Writes one digit before the point and a signed power of ten. -/
def exponential (number : Scientific) : List Char :=
  let text := digits number.coefficient
  let power := number.exponent + text.length - 1
  let fraction := text.drop 1
  text.take 1 ++ (if fraction.isEmpty then [] else '.' :: fraction)
    ++ 'e' :: (if power < 0 then '-' else '+') :: digits power.natAbs

def Layout.write (layout : Layout) (number : Binary64) : List Char :=
  let sign := if number.negative then ['-'] else []
  if number.isZero then sign ++ '0' :: (if layout.pointZero then ['.', '0'] else [])
  else
    let decimal := shortest number
    let power := decimal.exponent + (digits decimal.coefficient).length - 1
    sign ++
      if layout.leastPositional ≤ power ∧ power ≤ layout.greatestPositional then
        positional layout decimal
      else exponential decimal

end SessionTokens.Decimal
