import SessionTokens.Bytes

/-!
# UTF-8

Encoding of text as octets, and the reading of octets as text.  The reading
runs one machine over the octets: each result is either a character or one
maximal ill-formed stretch.  Strict decoding refuses a stretch, lossy decoding
replaces it by U+FFFD.
-/

namespace SessionTokens.Utf8

def encode (text : List Char) : Bytes :=
  text.flatMap String.utf8EncodeChar

def ofString (text : String) : Bytes :=
  encode text.toList

/--
Where the machine stands between octets: at the start of a character, or
inside one that still needs `owed + 1` octets, the next of them between `low`
and `high`, with the bits read so far in `bits`.
-/
inductive State where
  | start
  | inside (owed low high bits : Nat)
  deriving DecidableEq, Repr

/-- What the first octet of a character says about the octets to come. -/
inductive Lead where
  | whole (char : Char)
  | more (state : State)
  | bad

def lead (octet : Nat) : Lead :=
  if octet < 0x80 then .whole (Char.ofNat octet)
  else if octet < 0xC2 then .bad
  else if octet < 0xE0 then .more (.inside 0 0x80 0xBF (octet - 0xC0))
  else if octet = 0xE0 then .more (.inside 1 0xA0 0xBF 0)
  else if octet = 0xED then .more (.inside 1 0x80 0x9F 13)
  else if octet < 0xF0 then .more (.inside 1 0x80 0xBF (octet - 0xE0))
  else if octet = 0xF0 then .more (.inside 2 0x90 0xBF 0)
  else if octet < 0xF4 then .more (.inside 2 0x80 0xBF (octet - 0xF0))
  else if octet = 0xF4 then .more (.inside 2 0x80 0x8F 4)
  else .bad

/--
The characters of an octet sequence, read from the given state; `none` stands
for one maximal ill-formed stretch.
-/
def read : State → Bytes → List (Option Char)
  | .start, [] => []
  | .inside .., [] => [none]
  | .start, octet :: rest =>
      match lead octet.toNat with
      | .whole char => some char :: read .start rest
      | .more state => read state rest
      | .bad => none :: read .start rest
  | .inside owed low high bits, octet :: rest =>
      if low ≤ octet.toNat ∧ octet.toNat ≤ high then
        let value := bits * 64 + (octet.toNat - 0x80)
        match owed with
        | 0 => some (Char.ofNat value) :: read .start rest
        | owed + 1 => read (.inside owed 0x80 0xBF value) rest
      else
        match lead octet.toNat with
        | .whole char => none :: some char :: read .start rest
        | .more state => none :: read state rest
        | .bad => none :: none :: read .start rest

def decode? (bytes : Bytes) : Option (List Char) :=
  (read .start bytes).mapM id

/-- The text of an octet sequence, U+FFFD standing for each ill-formed stretch. -/
def decodeLossy (bytes : Bytes) : List Char :=
  (read .start bytes).map (·.getD '\uFFFD')

end SessionTokens.Utf8
