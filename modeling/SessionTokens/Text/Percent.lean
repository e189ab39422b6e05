import SessionTokens.Text.Split
import SessionTokens.Text.Utf8

/-!
# Percent encoding

An octet is written as `%` and two hexadecimal digits.  A form body or a query
is a list of pairs between `&`, names and values percent-encoded and blanks
written as `+`.
-/

namespace SessionTokens.Percent

/-- The upper-case hexadecimal digit of a number below sixteen. -/
def digit (value : Nat) : Char :=
  if value < 10 then Char.ofNat (48 + value) else Char.ofNat (55 + value)

def escape (octet : UInt8) : List Char :=
  ['%', digit (octet.toNat / 16), digit (octet.toNat % 16)]

/-- A text with the UTF-8 octets of some characters escaped. -/
def encode (escaped : Char → Bool) (text : List Char) : List Char :=
  text.flatMap fun char =>
    if escaped char then (String.utf8EncodeChar char).flatMap escape else [char]

/-- Octets with escapes replaced; a `%` without two digits stands for itself. -/
def decode : Bytes → Bytes
  | 37 :: high :: low :: rest =>
      match Bytes.hexValue? (Char.ofNat high.toNat), Bytes.hexValue? (Char.ofNat low.toNat) with
      | some highValue, some lowValue => UInt8.ofNat (highValue * 16 + lowValue) :: decode rest
      | _, _ => 37 :: decode (high :: low :: rest)
  | octet :: rest => octet :: decode rest
  | [] => []

def splitAll (separator : UInt8) : Bytes → List Bytes
  | [] => [[]]
  | octet :: rest =>
      if octet = separator then [] :: splitAll separator rest
      else
        match splitAll separator rest with
        | [] => [[octet]]
        | part :: parts => (octet :: part) :: parts

/-- A name or value of a form: `+` is a blank, escapes are replaced, ill-formed text is mended. -/
def decodeFormPart (part : Bytes) : String :=
  let spaced := part.map fun octet => if octet = 43 then 32 else octet
  String.ofList (Utf8.decodeLossy (decode spaced))

/-- The pairs of a form body or a query; empty pieces are dropped, a missing value is empty. -/
def decodeForm (body : Bytes) : List (String × String) :=
  (splitAll 38 body).filterMap fun piece =>
    if piece.isEmpty then none
    else
      let name := piece.takeWhile (· ≠ 61)
      some (decodeFormPart name, decodeFormPart (piece.drop (name.length + 1)))

end SessionTokens.Percent
