/-!
# Byte strings

A byte string is a list of octets.  This module gives its two readings as
text, hexadecimal and big-endian numbers.
-/

namespace SessionTokens

abbrev Bytes := List UInt8

namespace Bytes

/-- The number whose base-256 digits, most significant first, are the octets. -/
def toNat (bytes : Bytes) : Nat :=
  bytes.foldl (fun number octet => number * 256 + octet.toNat) 0

/-- The `width` low base-256 digits of a number, most significant first. -/
def ofNat : (width number : Nat) → Bytes
  | 0, _ => []
  | width + 1, number => ofNat width (number / 256) ++ [UInt8.ofNat number]

@[simp] theorem length_ofNat (width number : Nat) :
    (ofNat width number).length = width := by
  induction width generalizing number with
  | zero => rfl
  | succ width ih => simp [ofNat, ih]

/-- The octetwise exclusive or, cut to the shorter operand. -/
def xor (left right : Bytes) : Bytes :=
  List.zipWith (· ^^^ ·) left right

/-- The lower-case hexadecimal digit of a number below sixteen. -/
def hexDigit (value : Nat) : Char :=
  if value < 10 then Char.ofNat (48 + value) else Char.ofNat (87 + value)

def hexValue? (digit : Char) : Option Nat :=
  if '0' ≤ digit ∧ digit ≤ '9' then some (digit.toNat - 48)
  else if 'a' ≤ digit ∧ digit ≤ 'f' then some (digit.toNat - 87)
  else if 'A' ≤ digit ∧ digit ≤ 'F' then some (digit.toNat - 55)
  else none

/-- Two lower-case hexadecimal digits for each octet. -/
def toHex (bytes : Bytes) : List Char :=
  bytes.flatMap fun octet => [hexDigit (octet.toNat / 16), hexDigit (octet.toNat % 16)]

def ofHex? : List Char → Option Bytes
  | [] => some []
  | [_] => none
  | high :: low :: rest => do
      let highValue ← hexValue? high
      let lowValue ← hexValue? low
      let tail ← ofHex? rest
      return UInt8.ofNat (highValue * 16 + lowValue) :: tail

end Bytes

end SessionTokens
