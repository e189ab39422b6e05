import SessionTokens.Decimal.Binary64

/-!
# Reading decimal text

Digits, whole numbers and decimal fractions.  A fraction is read to the nearest
64-bit number; one rounding, ties to even.
-/

namespace SessionTokens.Decimal

def isDigit (char : Char) : Bool := '0' ≤ char ∧ char ≤ '9'

/-- The number that decimal digits stand for, continuing a number already read. -/
def ofDigits (start : Nat) (text : List Char) : Nat :=
  text.foldl (fun number char => number * 10 + (char.toNat - 48)) start

def natural? (text : List Char) : Option Nat :=
  if text ≠ [] ∧ text.all isDigit then some (ofDigits 0 text) else none

def splitSign : List Char → Bool × List Char
  | '-' :: rest => (true, rest)
  | '+' :: rest => (false, rest)
  | text => (false, text)

/-- Reads decimal digits after an optional sign, within bounds. -/
def integer? (least greatest : Int) (text : List Char) : Option Int := do
  let (negative, rest) := splitSign text
  let magnitude ← natural? rest
  let value := Binary64.signed negative magnitude
  if least ≤ value ∧ value ≤ greatest then some value else none

def minInt64 : Int := -9223372036854775808

def maxInt64 : Int := 9223372036854775807

def maxWord64 : Nat := 18446744073709551615

/-- The 64-bit number nearest to `± coefficient · 10 ^ exponent`. -/
def nearest (negative : Bool) (coefficient : Nat) (exponent : Int) : Extended64 :=
  if coefficient = 0 then .finite (Binary64.zero negative)
  else
    let power := exponent + (Nat.toDigits 10 coefficient).length
    if 400 < power then .infinite negative
    else if power < -400 then .finite (Binary64.zero negative)
    else
      let (numerator, denominator) :=
        if 0 ≤ exponent then (coefficient * Nat.pow 10 exponent.toNat, 1)
        else (coefficient, Nat.pow 10 (-exponent).toNat)
      match Binary64.ofRatio negative numerator denominator with
      | some number => .finite number
      | none => .infinite negative

/-- Whether two texts agree up to the case of ASCII letters. -/
def sameLetters (left right : List Char) : Bool :=
  left.map Char.toLower = right.map Char.toLower

/--
Reads a decimal number: an optional sign, then digits with at most one point
and at least one digit, then an optional power of ten; or the words for
infinity and for no number, in any case.
-/
def number? (text : List Char) : Option Extended64 :=
  let (negative, rest) := splitSign text
  if sameLetters rest "inf".toList || sameLetters rest "infinity".toList then
    some (.infinite negative)
  else if sameLetters rest "nan".toList then some .notANumber
  else
    let whole := rest.takeWhile isDigit
    let (fraction, tail) :=
      match rest.dropWhile isDigit with
      | '.' :: after => (after.takeWhile isDigit, after.dropWhile isDigit)
      | after => ([], after)
    if whole.isEmpty && fraction.isEmpty then none
    else
      let coefficient := ofDigits (ofDigits 0 whole) fraction
      match tail with
      | [] => some (nearest negative coefficient (-fraction.length))
      | mark :: power =>
          if mark = 'e' ∨ mark = 'E' then
            let (down, power) := splitSign power
            (natural? power).map fun power =>
              nearest negative coefficient (Binary64.signed down power - fraction.length)
          else none

end SessionTokens.Decimal
