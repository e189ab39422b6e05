import SessionTokens.Decimal.Reading
import SessionTokens.Json.Members

/-!
# Values that text keeps

How deep a value is nested, and whether it holds neither floating-point numbers
nor whole numbers beyond a 64-bit word, and no object with a repeated name.

Every value that a program holds is made of whole numbers of a signed or an
unsigned word and of finite floating-point numbers.
-/

namespace SessionTokens

namespace Json

mutual

/-- The number of arrays and objects around the innermost part of a value. -/
def nesting : Json → Nat
  | .array items => nestingItems items + 1
  | .object members => nestingMembers members + 1
  | _ => 0

def nestingItems : List Json → Nat
  | [] => 0
  | item :: rest => max (nesting item) (nestingItems rest)

def nestingMembers : List (String × Json) → Nat
  | [] => 0
  | (_, value) :: rest => max (nesting value) (nestingMembers rest)

end

mutual

/-- Whether a value is made of what text keeps as it is. -/
def isExact : Json → Bool
  | .int value => Decimal.minInt64 ≤ value ∧ value ≤ Decimal.maxWord64
  | .float _ => false
  | .array items => exactItems items
  | .object members => decide (Members.Distinct members) && exactMembers members
  | _ => true

def exactItems : List Json → Bool
  | [] => true
  | item :: rest => isExact item && exactItems rest

def exactMembers : List (String × Json) → Bool
  | [] => true
  | (_, value) :: rest => isExact value && exactMembers rest

end

end Json

/-! ## Numbers of 64 bits -/

def Binary64.isSized (number : Binary64) : Bool :=
  number.mantissa < Nat.pow 2 53 ∧ -1074 ≤ number.exponent ∧ number.exponent ≤ 971

namespace Json

mutual

def isSized : Json → Bool
  | .int value => Decimal.minInt64 ≤ value ∧ value ≤ Decimal.maxWord64
  | .float value => value.isSized
  | .array items => sizedItems items
  | .object members => sizedMembers members
  | _ => true

def sizedItems : List Json → Bool
  | [] => true
  | item :: rest => isSized item && sizedItems rest

def sizedMembers : List (String × Json) → Bool
  | [] => true
  | (_, value) :: rest => isSized value && sizedMembers rest

end

end Json

end SessionTokens
