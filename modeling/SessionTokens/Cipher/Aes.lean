import SessionTokens.Bytes

/-!
# Block cipher

The decryption of the AES block cipher in chaining mode, with the padding that
says its own length.
-/

namespace SessionTokens.Cipher

def double (element : UInt8) : UInt8 :=
  (element <<< 1) ^^^ (if element &&& 0x80 = 0 then 0 else 0x1b)

/-- The product in the field; `bits` bits of the second factor count. -/
def product : (bits : Nat) → UInt8 → UInt8 → UInt8
  | 0, _, _ => 0
  | bits + 1, left, right =>
      (if right &&& 1 = 0 then 0 else left) ^^^ product bits (double left) (right >>> 1)

def power (element : UInt8) : Nat → UInt8
  | 0 => 1
  | exponent + 1 => product 8 element (power element exponent)

def rotate (octet places : UInt8) : UInt8 :=
  (octet <<< places) ||| (octet >>> (8 - places))

/-- The substitution: the inverse in the field, then an affine map. -/
def substitute (element : UInt8) : UInt8 :=
  let inverse := power element 254
  inverse ^^^ rotate inverse 1 ^^^ rotate inverse 2 ^^^ rotate inverse 3
    ^^^ rotate inverse 4 ^^^ 0x63

def substitution : Array UInt8 :=
  (Array.range 256).map fun value => substitute (UInt8.ofNat value)

def inverseSubstitution : Array UInt8 :=
  (Array.range 256).foldl
    (fun table value => table.setIfInBounds (substitution.getD value 0).toNat (UInt8.ofNat value))
    (Array.replicate 256 0)

def sub (octet : UInt8) : UInt8 := substitution.getD octet.toNat 0

def unsub (octet : UInt8) : UInt8 := inverseSubstitution.getD octet.toNat 0

def nextWord (keyWords index : Nat) (words : Array Bytes) : Bytes :=
  let previous := words.getD (index - 1) []
  let changed :=
    if index % keyWords = 0 then
      match previous with
      | [a, b, c, d] => [sub b ^^^ power 2 (index / keyWords - 1), sub c, sub d, sub a]
      | other => other
    else if 6 < keyWords ∧ index % keyWords = 4 then previous.map sub
    else previous
  Bytes.xor (words.getD (index - keyWords) []) changed

def quads : Bytes → List Bytes
  | a :: b :: c :: d :: rest => [a, b, c, d] :: quads rest
  | _ => []

def roundKeys (key : Bytes) : Array Bytes :=
  let keyWords := key.length / 4
  let rounds := keyWords + 6
  let words := (List.range (4 * (rounds + 1) - keyWords)).foldl
    (fun words step => words.push (nextWord keyWords (keyWords + step) words))
    (quads key).toArray
  (Array.range (rounds + 1)).map fun round =>
    (words.extract (4 * round) (4 * round + 4)).toList.flatten

/-- Rows shifted to the right by their index; a state is written column by column. -/
def unshiftRows (state : Bytes) : Bytes :=
  let octets := state.toArray
  (List.range 16).map fun index => octets.getD ((16 + index - 4 * (index % 4)) % 16) 0

def unmixColumn : Bytes → Bytes
  | [a, b, c, d] =>
      let row (w x y z : UInt8) : UInt8 :=
        product 8 w 14 ^^^ product 8 x 11 ^^^ product 8 y 13 ^^^ product 8 z 9
      [row a b c d, row b c d a, row c d a b, row d a b c]
  | other => other

def decryptBlock (keys : Array Bytes) (block : Bytes) : Bytes :=
  let rounds := keys.size - 1
  let start := Bytes.xor block (keys.getD rounds [])
  let middle := (List.range (rounds - 1)).foldl
    (fun state step =>
      let keyed := Bytes.xor ((unshiftRows state).map unsub) (keys.getD (rounds - 1 - step) [])
      (quads keyed).flatMap unmixColumn)
    start
  Bytes.xor ((unshiftRows middle).map unsub) (keys.getD 0 [])

/-- The plain octets of whole blocks, each chained to the block before it. -/
def decryptChained (keys : Array Bytes) (before : Bytes) : (fuel : Nat) → Bytes → Bytes
  | 0, _ => []
  | _, [] => []
  | fuel + 1, text =>
      let block := text.take 16
      Bytes.xor (decryptBlock keys block) before
        ++ decryptChained keys block fuel (text.drop 16)

/-- A text without its padding of `n` octets of value `n`, `n` from 1 to 16. -/
def unpad? (text : Bytes) : Option Bytes := do
  let last ← text.getLast?
  let count := last.toNat
  if 1 ≤ count ∧ count ≤ 16 ∧ count ≤ text.length
      ∧ (text.drop (text.length - count)).all (· = last) then
    return text.take (text.length - count)
  else none

def decrypt? (key initial text : Bytes) : Option Bytes :=
  if text.length % 16 = 0 ∧ initial.length = 16 then
    unpad? (decryptChained (roundKeys key) initial text.length text)
  else none

end SessionTokens.Cipher
