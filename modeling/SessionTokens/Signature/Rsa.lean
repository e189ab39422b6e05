import SessionTokens.Armour.Der
import SessionTokens.Hash.Keyed

/-!
# Signatures with a pair of exponents

A signature is a power of an encoded message modulo a public number, and the
other exponent of the pair undoes it.  Two encodings are given: a fixed padding
with the name of the hash, and a padding masked by a salt.
-/

namespace SessionTokens

/-- A power modulo a number; `bits` is at least the number of bits of the exponent. -/
def powMod : (bits : Nat) → (base exponent modulus : Nat) → Nat
  | 0, _, _, modulus => 1 % modulus
  | bits + 1, base, exponent, modulus =>
      if exponent = 0 then 1 % modulus
      else
        let rest := powMod bits (base * base % modulus) (exponent / 2) modulus
        if exponent % 2 = 1 then base * rest % modulus else rest

def powerMod (base exponent modulus : Nat) : Nat :=
  powMod (exponent.log2 + 1) base exponent modulus

namespace Rsa

structure PublicKey where
  modulus : Nat
  exponent : Nat
  deriving DecidableEq, Repr

structure PrivateKey where
  publicKey : PublicKey
  exponent : Nat
  prime1 : Nat
  prime2 : Nat
  deriving DecidableEq, Repr

def bitLength (number : Nat) : Nat := if number = 0 then 0 else number.log2 + 1

def PublicKey.size (key : PublicKey) : Nat := (bitLength key.modulus + 7) / 8

def PublicKey.sizeSuits (key : PublicKey) : Bool :=
  2048 ≤ bitLength key.modulus && bitLength key.modulus ≤ 8192

/-- Reads a public key: its two numbers, alone or below the name of the key type. -/
def PublicKey.ofDer? (octets : Bytes) : Option PublicKey := do
  let numbers (block : Der.Block) : Option PublicKey :=
    match block with
    | .sequence [modulus, exponent] => do
        return ⟨← modulus.natural?, ← exponent.natural?⟩
    | _ => none
  let block ← Der.parseOne? octets
  (numbers block).or <|
    match block with
    | .sequence [.sequence (.identifier [1, 2, 840, 113549, 1, 1, 1] :: _), .bitString inner] =>
        (Der.parseOne? inner).bind numbers
    | _ => none

def PrivateKey.consistent (key : PrivateKey) : Bool :=
  let undone := key.exponent * key.publicKey.exponent
  1 < key.prime1 && 1 < key.prime2
    && key.prime1 * key.prime2 = key.publicKey.modulus
    && undone % (key.prime1 - 1) = 1 && undone % (key.prime2 - 1) = 1

def PrivateKey.ofDer? (octets : Bytes) : Option PrivateKey := do
  match ← Der.parseOne? octets with
  | .sequence [version, modulus, exponent, secret, prime1, prime2, _, _, _] =>
      let key : PrivateKey :=
        { publicKey := ⟨← modulus.natural?, ← exponent.natural?⟩
          exponent := ← secret.natural?
          prime1 := ← prime1.natural?
          prime2 := ← prime2.natural? }
      if (← version.natural?) = 0 ∧ key.consistent then return key else none
  | _ => none

def hashName : Hash → Bytes
  | .sha224 => name 0x04 0x1c
  | .sha256 => name 0x01 0x20
  | .sha384 => name 0x02 0x30
  | .sha512 => name 0x03 0x40
where
  name (arc size : UInt8) : Bytes :=
    [0x30, 0x11 + size, 0x30, 0x0d, 0x06, 0x09, 0x60, 0x86, 0x48, 0x01, 0x65, 0x03, 0x04, 0x02,
      arc, 0x05, 0x00, 0x04, size]

/-- The fixed padding of a message, as long as the modulus. -/
def encodeFixed (hash : Hash) (size : Nat) (message : Bytes) : Bytes :=
  let tail := hashName hash ++ hash.digest message
  [0x00, 0x01] ++ List.replicate (size - 3 - tail.length) 0xff ++ 0x00 :: tail

def mask (hash : Hash) (seed : Bytes) (length : Nat) : Bytes :=
  let count := (length + hash.size - 1) / hash.size
  ((List.range count).flatMap fun index =>
    hash.digest (seed ++ Bytes.ofNat 4 index)).take length

def keepLow (count : Nat) (octet : UInt8) : UInt8 := UInt8.ofNat (octet.toNat % Nat.pow 2 count)

def saltedHash (hash : Hash) (salt message : Bytes) : Bytes :=
  hash.digest (List.replicate 8 0 ++ hash.digest message ++ salt)

/-- The masked padding of a message with a salt, for a modulus of `bits` bits. -/
def encodeMasked (hash : Hash) (bits : Nat) (salt message : Bytes) : Bytes :=
  let size := (bits - 1 + 7) / 8
  let value := saltedHash hash salt message
  let block := List.replicate (size - hash.size - salt.length - 2) 0 ++ 0x01 :: salt
  let masked := Bytes.xor block (mask hash value (size - hash.size - 1))
  match masked with
  | [] => []
  | first :: rest => keepLow (8 - (8 * size - (bits - 1))) first :: rest ++ value ++ [0xbc]

/-- Whether octets are a masked padding of a message with a salt as long as the hash. -/
def checkMasked (hash : Hash) (bits : Nat) (encoded message : Bytes) : Bool :=
  let size := (bits - 1 + 7) / 8
  let value := (encoded.drop (size - hash.size - 1)).take hash.size
  let masked := encoded.take (size - hash.size - 1)
  let block := Bytes.xor masked (mask hash value (size - hash.size - 1))
  let salt := block.drop (size - 2 * hash.size - 1)
  2 * hash.size + 2 ≤ size && encoded = encodeMasked hash bits salt message

def PrivateKey.apply (key : PrivateKey) (encoded : Bytes) : Bytes :=
  Bytes.ofNat key.publicKey.size
    (powerMod (Bytes.toNat encoded) key.exponent key.publicKey.modulus)

/-- The encoded message of a signature that is below the modulus and as long as it. -/
def PublicKey.undo? (key : PublicKey) (length : Nat) (signature : Bytes) : Option Bytes :=
  let number := Bytes.toNat signature
  if key.sizeSuits ∧ signature.length = key.size ∧ number < key.modulus then
    let encoded := powerMod number key.exponent key.modulus
    if encoded < Nat.pow 256 length then some (Bytes.ofNat length encoded) else none
  else none

/-- Signs with the fixed padding; the modulus must have a suitable size. -/
def signFixed? (hash : Hash) (key : PrivateKey) (message : Bytes) : Option Bytes :=
  if key.publicKey.sizeSuits then
    some (key.apply (encodeFixed hash key.publicKey.size message))
  else none

def verifyFixed (hash : Hash) (key : PublicKey) (message signature : Bytes) : Bool :=
  key.undo? key.size signature = some (encodeFixed hash key.size message)

/-- Signs with the masked padding; the salt is as long as the hash. -/
def signMasked? (hash : Hash) (key : PrivateKey) (salt message : Bytes) : Option Bytes :=
  if key.publicKey.sizeSuits then
    some (key.apply (encodeMasked hash (bitLength key.publicKey.modulus) salt message))
  else none

def verifyMasked (hash : Hash) (key : PublicKey) (message signature : Bytes) : Bool :=
  let bits := bitLength key.modulus
  match key.undo? ((bits - 1 + 7) / 8) signature with
  | some encoded => checkMasked hash bits encoded message
  | none => false

end Rsa

end SessionTokens
