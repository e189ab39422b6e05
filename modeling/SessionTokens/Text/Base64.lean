import SessionTokens.Bytes

/-!
# Base64

Three octets are written as four digits of base 64.  The URL-safe form has no
padding; the standard form pads with `=`.  Reading accepts exactly what writing
produces: unused low bits of a last digit must be zero.
-/

namespace SessionTokens.Base64

/-- The two digits in which the alphabets differ. -/
structure Alphabet where
  digit62 : Char
  digit63 : Char

def urlSafe : Alphabet := ⟨'-', '_'⟩

def standard : Alphabet := ⟨'+', '/'⟩

def Alphabet.digit (alphabet : Alphabet) (value : Nat) : Char :=
  if value < 26 then Char.ofNat (65 + value)
  else if value < 52 then Char.ofNat (71 + value)
  else if value < 62 then Char.ofNat (value - 4)
  else if value = 62 then alphabet.digit62
  else alphabet.digit63

def Alphabet.value? (alphabet : Alphabet) (digit : Char) : Option Nat :=
  if 'A' ≤ digit ∧ digit ≤ 'Z' then some (digit.toNat - 65)
  else if 'a' ≤ digit ∧ digit ≤ 'z' then some (digit.toNat - 71)
  else if '0' ≤ digit ∧ digit ≤ '9' then some (digit.toNat + 4)
  else if digit = alphabet.digit62 then some 62
  else if digit = alphabet.digit63 then some 63
  else none

/-- Writes octets without padding. -/
def encode (alphabet : Alphabet) : Bytes → List Char
  | [] => []
  | [a] =>
      [alphabet.digit (a.toNat / 4), alphabet.digit (a.toNat % 4 * 16)]
  | [a, b] =>
      [alphabet.digit (a.toNat / 4), alphabet.digit (a.toNat % 4 * 16 + b.toNat / 16),
        alphabet.digit (b.toNat % 16 * 4)]
  | a :: b :: c :: rest =>
      alphabet.digit (a.toNat / 4)
        :: alphabet.digit (a.toNat % 4 * 16 + b.toNat / 16)
        :: alphabet.digit (b.toNat % 16 * 4 + c.toNat / 64)
        :: alphabet.digit (c.toNat % 64)
        :: encode alphabet rest

/-- Reads digits without padding; a last digit with unused bits set is refused. -/
def decode? (alphabet : Alphabet) : List Char → Option Bytes
  | [] => some []
  | [_] => none
  | [w, x] => do
      let w ← alphabet.value? w
      let x ← alphabet.value? x
      if x % 16 = 0 then return [UInt8.ofNat (w * 4 + x / 16)] else none
  | [w, x, y] => do
      let w ← alphabet.value? w
      let x ← alphabet.value? x
      let y ← alphabet.value? y
      if y % 4 = 0 then
        return [UInt8.ofNat (w * 4 + x / 16), UInt8.ofNat (x % 16 * 16 + y / 4)]
      else none
  | w :: x :: y :: z :: rest => do
      let w ← alphabet.value? w
      let x ← alphabet.value? x
      let y ← alphabet.value? y
      let z ← alphabet.value? z
      let tail ← decode? alphabet rest
      return UInt8.ofNat (w * 4 + x / 16) :: UInt8.ofNat (x % 16 * 16 + y / 4)
        :: UInt8.ofNat (y % 4 * 64 + z) :: tail

def decodePadded? (alphabet : Alphabet) (text : List Char) : Option Bytes :=
  if text.length % 4 = 0 then
    match text.reverse with
    | '=' :: '=' :: rest => decode? alphabet rest.reverse
    | '=' :: rest => decode? alphabet rest.reverse
    | _ => decode? alphabet text
  else none

end SessionTokens.Base64
