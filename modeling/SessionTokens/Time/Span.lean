import SessionTokens.Decimal.Shortest

/-!
# Lengths of time

A span is a whole number of nanoseconds.  A text of a span uses the largest of
the units second, millisecond, microsecond and nanosecond that is not longer
than it.
-/

namespace SessionTokens

structure Span where
  nanos : Nat
  deriving DecidableEq, Repr

namespace Span

def nanosPerSecond : Nat := 1000000000

def ofSeconds (seconds : Nat) : Span := ⟨seconds * nanosPerSecond⟩

def ofParts (seconds nanos : Nat) : Span := ⟨seconds * nanosPerSecond + nanos⟩

def seconds (span : Span) : Nat := span.nanos / nanosPerSecond

def subsecond (span : Span) : Nat := span.nanos % nanosPerSecond

def isZero (span : Span) : Bool := span.nanos = 0

/-- The longest span by which an instant can be moved. -/
def longestMove : Span := ⟨9223372036854775807 * 1000000⟩

@[simp] theorem seconds_ofSeconds (count : Nat) : (ofSeconds count).seconds = count := by
  simp [ofSeconds, seconds, nanosPerSecond]

/-- A quotient with as many decimals as it needs; the unit is a power of ten. -/
def writeDecimal (nanos unit : Nat) : List Char :=
  let places := (Decimal.digits unit).length - 1
  let fraction := Decimal.digits (nanos % unit)
  let padded := List.replicate (places - fraction.length) '0' ++ fraction
  let trimmed := (padded.reverse.dropWhile (· = '0')).reverse
  Decimal.digits (nanos / unit) ++
    if nanos % unit = 0 then [] else '.' :: trimmed

/-- The text of a span, such as `1.5s` or `20ns`. -/
def describe (span : Span) : String :=
  let (unit, name) :=
    if nanosPerSecond ≤ span.nanos then (nanosPerSecond, "s")
    else if 1000000 ≤ span.nanos then (1000000, "ms")
    else if 1000 ≤ span.nanos then (1000, "µs")
    else (1, "ns")
  String.ofList (writeDecimal span.nanos unit) ++ name

end Span

end SessionTokens
