import SessionTokens.Signature.Rsa

/-!
# Certificates of primality

A certificate lists numbers one after the other.  Each is small enough to look
for its divisors, or comes with known primes below it: if their product divides
the number less one and exceeds its root, two powers of 2 show that the number
is prime as well.
-/

namespace SessionTokens

/-- Numbers in order, each with some of the numbers before it. -/
abbrev PrimeCertificate := List (Nat × List Nat)

namespace PrimeCertificate

/-- Whether a number below a million has no divisor below a thousand. -/
def isSmallPrime (number : Nat) : Bool :=
  1 < number && number < 1000000
    && (List.range 1000).all fun divisor =>
      divisor < 2 || number ≤ divisor || number % divisor ≠ 0

def product (factors : List Nat) : Nat := factors.foldr (· * ·) 1

/-- Whether powers of 2 show that a number is prime, given primes that divide the number less one. -/
def powersShow (number : Nat) (factors : List Nat) : Bool :=
  1 < number && decide factors.Nodup && (number - 1) % product factors = 0
    && number < product factors * product factors
    && powerMod 2 (number - 1) number = 1
    && factors.all fun factor =>
      Nat.gcd (powerMod 2 ((number - 1) / factor) number + (number - 1)) number = 1

/-- Whether each number follows from those that are known before it. -/
def holds : (known : List Nat) → PrimeCertificate → Bool
  | _, [] => true
  | known, (number, factors) :: rest =>
      (isSmallPrime number || factors.all known.contains && powersShow number factors)
        && holds (number :: known) rest

end PrimeCertificate

end SessionTokens
