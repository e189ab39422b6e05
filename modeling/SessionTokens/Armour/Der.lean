import SessionTokens.Decimal.Reading
import SessionTokens.Text.Utf8

/-!
# Tagged binary structures

The distinguished encoding of structured values: a tag, a length and contents.
Only the structures that keys are made of are told apart; every other block is
opaque.  A sequence or a set has at least one block.
-/

namespace SessionTokens.Der

inductive Block where
  | sequence (items : List Block)
  | integer (octets : Bytes)
  | identifier (arcs : List Nat)
  | bitString (octets : Bytes)
  | octetString (octets : Bytes)
  | null
  | tagged (number : Nat) (inner : Block)
  | opaqueBlock

/-- A number in base 128, the high bit of an octet saying that more follow. -/
def base128? : (value : Nat) → Bytes → Option (Nat × Bytes)
  | _, [] => none
  | value, octet :: rest =>
      let value := value * 128 + octet.toNat % 128
      if octet.toNat < 128 then some (value, rest) else base128? value rest

/-- A length: one octet below 128, or as many octets as the first one says, at most eight. -/
def length? : Bytes → Option (Nat × Bytes)
  | [] => none
  | first :: rest =>
      let count := first.toNat - 128
      if first.toNat < 128 then some (first.toNat, rest)
      else if 8 < count ∨ rest.length < count then none
      else some (Bytes.toNat (rest.take count), rest.drop count)

def arcs? : (fuel : Nat) → Bytes → Option (List Nat)
  | _, [] => some []
  | 0, _ => none
  | fuel + 1, octets => do
      let (arc, rest) ← base128? 0 octets
      let arcs ← arcs? fuel rest
      return arc :: arcs

/-- An object identifier; its first octet holds two arcs. -/
def identifier? : Bytes → Option (List Nat)
  | [] => none
  | first :: rest => do
      let arcs ← arcs? rest.length rest
      let (top, second) :=
        if first.toNat < 40 then (0, first.toNat)
        else if first.toNat < 80 then (1, first.toNat - 40)
        else (2, first.toNat - 80)
      return top :: second :: arcs

/-- Whether the contents suit a text or time tag; other tags hold anything. -/
def contentsSuit (tag : Nat) (body : Bytes) : Bool :=
  let chars := body.map fun octet => Char.ofNat octet.toNat
  if tag = 0x0C then (Utf8.decode? body).isSome
  else if tag = 0x13 then
    chars.all fun char => char.isAlphanum || " '()+,-./:=?".toList.contains char
  else if tag = 0x16 then body.all (·.toNat < 128)
  else if tag = 0x17 then
    chars.length = 13 && (chars.take 12).all Decimal.isDigit && chars.getLast? = some 'Z'
  else true

/-- All blocks of an octet sequence; `fuel` is at least its length. -/
def blocks? : (fuel : Nat) → Bytes → Option (List Block)
  | _, [] => some []
  | 0, _ => none
  | fuel + 1, head :: afterHead => do
      let low := head.toNat % 32
      let (tag, afterTag) ← if low = 31 then base128? 0 afterHead else some (low, afterHead)
      let (length, afterLength) ← length? afterTag
      if afterLength.length < length then none
      else
        let body := afterLength.take length
        let nested := (blocks? fuel body).bind fun items =>
          if items.isEmpty then none else some items
        let block ←
          if 64 ≤ head.toNat then
            match head.toNat / 32 % 2, nested with
            | 1, some [inner] => some (.tagged tag inner)
            | _, _ => some .opaqueBlock
          else
            match tag with
            | 0x01 => if length = 1 then some .opaqueBlock else none
            | 0x02 => some (.integer body)
            | 0x03 => some (.bitString (body.drop 1))
            | 0x04 => some (.octetString body)
            | 0x05 => some .null
            | 0x06 => (identifier? body).map .identifier
            | 0x10 => nested.map .sequence
            | 0x11 => nested.map fun _ => .opaqueBlock
            | tag => if contentsSuit tag body then some .opaqueBlock else none
        let rest ← blocks? fuel (afterLength.drop length)
        return block :: rest

def parse? (octets : Bytes) : Option (List Block) :=
  (blocks? octets.length octets).bind fun items => if items.isEmpty then none else some items

def parseOne? (octets : Bytes) : Option Block :=
  match parse? octets with
  | some [block] => some block
  | _ => none

mutual

/-- The first bit or octet string at any depth of sequences, in reading order. -/
def Block.firstString? : Block → Option Bytes
  | .sequence items => firstStringOf? items
  | .bitString octets => some octets
  | .octetString octets => some octets
  | _ => none

def firstStringOf? : List Block → Option Bytes
  | [] => none
  | block :: rest => (block.firstString?).or (firstStringOf? rest)

end

mutual

/-- The first identifier of a class at any depth of sequences, in reading order. -/
def Block.firstKnown? {α : Type} (known : List Nat → Option α) : Block → Option α
  | .sequence items => firstKnownOf? known items
  | .identifier arcs => known arcs
  | _ => none

def firstKnownOf? {α : Type} (known : List Nat → Option α) : List Block → Option α
  | [] => none
  | block :: rest => (block.firstKnown? known).or (firstKnownOf? known rest)

end

def Block.natural? : Block → Option Nat
  | .integer octets => if (octets.headD 0).toNat < 128 then some (Bytes.toNat octets) else none
  | _ => none

end SessionTokens.Der
