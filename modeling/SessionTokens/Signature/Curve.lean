import SessionTokens.Signature.Rsa

/-!
# Signatures on elliptic curves

Points of a curve `y² = x³ - 3x + b` modulo a prime form a group.  A signature
is a pair of numbers that ties a hash to a multiple of the base point.
-/

namespace SessionTokens

structure Curve where
  prime : Nat
  constant : Nat
  order : Nat
  baseX : Nat
  baseY : Nat
  /-- The number of octets of a coordinate. -/
  size : Nat
  /-- The object identifier. -/
  name : List Nat

namespace Curve

def p256 : Curve where
  prime := 0xffffffff00000001000000000000000000000000ffffffffffffffffffffffff
  constant := 0x5ac635d8aa3a93e7b3ebbd55769886bc651d06b0cc53b0f63bce3c3e27d2604b
  order := 0xffffffff00000000ffffffffffffffffbce6faada7179e84f3b9cac2fc632551
  baseX := 0x6b17d1f2e12c4247f8bce6e563a440f277037d812deb33a0f4a13945d898c296
  baseY := 0x4fe342e2fe1a7f9b8ee7eb4a7c0f9e162bce33576b315ececbb6406837bf51f5
  size := 32
  name := [1, 2, 840, 10045, 3, 1, 7]

def p384 : Curve where
  prime := 0xfffffffffffffffffffffffffffffffffffffffffffffffffffffffffffffffeffffffff0000000000000000ffffffff
  constant := 0xb3312fa7e23ee7e4988e056be3f82d19181d9c6efe8141120314088f5013875ac656398d8a2ed19d2a85c8edd3ec2aef
  order := 0xffffffffffffffffffffffffffffffffffffffffffffffffc7634d81f4372ddf581a0db248b0a77aecec196accc52973
  baseX := 0xaa87ca22be8b05378eb1c71ef320ad746e1d3b628ba79b9859f741e082542a385502f25dbf55296c3a545e3872760ab7
  baseY := 0x3617de4a96262c6f5d9e98bf9292dc29f8f41dbd289a147ce9da3113b5f0b8c00a60b1ce1d7e819d7a431d7c90ea0e5f
  size := 48
  name := [1, 3, 132, 0, 34]

inductive Point where
  | neutral
  | at (x y : Nat)
  deriving DecidableEq, Repr

/-- The difference modulo a number, for operands below it. -/
def subMod (modulus left right : Nat) : Nat := (left + modulus - right) % modulus

def inverseMod (modulus number : Nat) : Nat := powerMod number (modulus - 2) modulus

/-- The third point on the line of a slope through two points, reflected. -/
def chord (curve : Curve) (slope x1 y1 x2 : Nat) : Point :=
  let p := curve.prime
  let x3 := subMod p (subMod p (slope * slope % p) x1) x2
  .at x3 (subMod p (slope * subMod p x1 x3 % p) y1)

def add (curve : Curve) : Point → Point → Point
  | .neutral, right => right
  | left, .neutral => left
  | .at x1 y1, .at x2 y2 =>
      let p := curve.prime
      if x1 = x2 then
        if y1 = y2 ∧ y1 ≠ 0 then
          let slope := subMod p (3 * x1 * x1 % p) 3 * inverseMod p (2 * y1) % p
          chord curve slope x1 y1 x2
        else .neutral
      else
        let slope := subMod p y2 y1 * inverseMod p (subMod p x2 x1) % p
        chord curve slope x1 y1 x2

/-- A multiple of a point; `bits` is at least the number of bits of the factor. -/
def multiply (curve : Curve) : (bits factor : Nat) → Point → Point
  | 0, _, _ => .neutral
  | bits + 1, factor, point =>
      if factor = 0 then .neutral
      else
        let rest := multiply curve bits (factor / 2) (add curve point point)
        if factor % 2 = 1 then add curve point rest else rest

def times (curve : Curve) (factor : Nat) (point : Point) : Point :=
  multiply curve (factor.log2 + 1) factor point

def base (curve : Curve) : Point := .at curve.baseX curve.baseY

def cubic (curve : Curve) (x : Nat) : Nat :=
  (x * x % curve.prime * x + (curve.prime - 3) * x + curve.constant) % curve.prime

/-- Whether coordinates are below the prime and satisfy the equation. -/
def contains (curve : Curve) (x y : Nat) : Bool :=
  x < curve.prime && y < curve.prime && y * y % curve.prime = curve.cubic x

/-- Reads a point: both coordinates after 4, or one after 2 or 3 for an even or odd other one. -/
def point? (curve : Curve) : Bytes → Option Point
  | [] => none
  | mark :: rest =>
      let p := curve.prime
      if mark = 4 ∧ rest.length = 2 * curve.size then
        let x := Bytes.toNat (rest.take curve.size)
        let y := Bytes.toNat (rest.drop curve.size)
        if curve.contains x y then some (.at x y) else none
      else if (mark = 2 ∨ mark = 3) ∧ rest.length = curve.size then
        let x := Bytes.toNat rest
        let root := powerMod (curve.cubic x) ((p + 1) / 4) p
        let y := if root % 2 = mark.toNat % 2 then root else p - root
        if curve.contains x y then some (.at x y) else none
      else none

/-- The leading bits of a hash as a number below the order's number of bits. -/
def hashNumber (curve : Curve) (hash : Hash) (message : Bytes) : Nat :=
  Bytes.toNat ((hash.digest message).take curve.size)

/-- The nonces from a start on: numbers from 1 to the order less one, one after the other. -/
def nonce (curve : Curve) (start attempt : Nat) : Nat :=
  (start + attempt) % (curve.order - 1) + 1

/-- The two numbers of a signature made with one nonce, neither of them zero. -/
def signWith? (curve : Curve) (secret number nonce : Nat) : Option (Nat × Nat) :=
  match curve.times nonce curve.base with
  | .neutral => none
  | .at x _ =>
      let n := curve.order
      let first := x % n
      let second := inverseMod n nonce * ((number + first * secret) % n) % n
      if first = 0 ∨ second = 0 then none else some (first, second)

/-- How many nonces are tried; at most eight do not work. -/
def attempts : Nat := 9

/--
Signs a message: two numbers of fixed length, made with the first nonce that
works from the number of drawn octets on.
-/
def sign? (curve : Curve) (hash : Hash) (secret : Nat) (seed message : Bytes) : Option Bytes := do
  let number := curve.hashNumber hash message
  let (first, second) ← (List.range attempts).findSome? fun attempt =>
    curve.signWith? secret number (curve.nonce (Bytes.toNat seed) attempt)
  return Bytes.ofNat curve.size first ++ Bytes.ofNat curve.size second

def verify (curve : Curve) (hash : Hash) (point : Point) (message signature : Bytes) : Bool :=
  let n := curve.order
  let first := Bytes.toNat (signature.take curve.size)
  let second := Bytes.toNat (signature.drop curve.size)
  if signature.length = 2 * curve.size ∧ 0 < first ∧ first < n ∧ 0 < second ∧ second < n then
    let inverse := inverseMod n second
    let fromBase := curve.times (curve.hashNumber hash message * inverse % n) curve.base
    let fromPoint := curve.times (first * inverse % n) point
    match curve.add fromBase fromPoint with
    | .neutral => false
    | .at x _ => x % n = first
  else false

def keyName : List Nat := [1, 2, 840, 10045, 2, 1]

/-- Reads the secret number of a private key; it must name this curve and suit a public point. -/
def secret? (curve : Curve) (octets : Bytes) : Option Nat := do
  match ← Der.parseOne? octets with
  | .sequence (version :: .sequence [.identifier kind, .identifier name] :: .octetString inner :: _) =>
      if (← version.natural?) ≠ 0 ∨ kind ≠ keyName ∨ name ≠ curve.name then none
      else
        match ← Der.parseOne? inner with
        | .sequence (version :: .octetString number :: others) =>
            let secret := Bytes.toNat number
            let suits := others.all fun
              | .tagged 1 (.bitString point) =>
                  curve.point? point = some (curve.times secret curve.base)
              | _ => true
            if (← version.natural?) = 1 ∧ 0 < secret ∧ secret < curve.order ∧ suits then
              return secret
            else none
        | _ => none
  | _ => none

end Curve

end SessionTokens
