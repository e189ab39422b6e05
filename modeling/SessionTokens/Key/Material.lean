import SessionTokens.Algorithm
import SessionTokens.Signature.Curve

/-!
# Key material

What signs and what verifies.  Asymmetric keys are kept in binary form and read
when they are used, so that a key of the wrong size or curve is found then.
-/

namespace SessionTokens

inductive SigningMaterial where
  | secret (octets : Bytes)
  | rsa (octets : Bytes)
  | curve (octets : Bytes)
  deriving DecidableEq

inductive VerificationMaterial where
  | secret (octets : Bytes)
  | rsa (octets : Bytes)
  | curve (octets : Bytes)
  deriving DecidableEq

inductive SigningRefusal where
  /-- The key is of another family than the algorithm. -/
  | family
  /-- The key is no key on the algorithm's curve. -/
  | curve
  /-- The key is unreadable or has an unsuitable size. -/
  | key
  deriving DecidableEq, Repr

namespace Algorithm

def curve? : Algorithm → Option Curve
  | .es256 => some Curve.p256
  | .es384 => some Curve.p384
  | _ => none

def isMasked : Algorithm → Bool
  | .ps256 | .ps384 | .ps512 => true
  | _ => false

/-- The salt of a masked signature: as many of the drawn octets as the hash has. -/
def salt (algorithm : Algorithm) (seed : Bytes) : Bytes :=
  Bytes.ofNat algorithm.hash.size (Bytes.toNat seed)

/-- Signs a message; `seed` are octets drawn for a salt or a nonce. -/
def sign (algorithm : Algorithm) (seed : Bytes) (material : SigningMaterial) (message : Bytes) :
    Except SigningRefusal Bytes :=
  match algorithm.family, material with
  | .hmac, .secret octets => .ok (algorithm.hash.hmac octets message)
  | .rsa, .rsa octets =>
      let signature := (Rsa.PrivateKey.ofDer? octets).bind fun key =>
        if algorithm.isMasked then
          Rsa.signMasked? algorithm.hash key (algorithm.salt seed) message
        else Rsa.signFixed? algorithm.hash key message
      match signature with
      | some signature => .ok signature
      | none => .error .key
  | .curve, .curve octets =>
      let signature := do
        let curve ← algorithm.curve?
        let secret ← curve.secret? octets
        curve.sign? algorithm.hash secret seed message
      match signature with
      | some signature => .ok signature
      | none => .error .curve
  | _, _ => .error .family

def suits (algorithm : Algorithm) : VerificationMaterial → Bool
  | .secret _ => algorithm.family = .hmac
  | .rsa _ => algorithm.family = .rsa
  | .curve _ => algorithm.family = .curve

def verify (algorithm : Algorithm) (material : VerificationMaterial) (message signature : Bytes) :
    Bool :=
  match algorithm.family, material with
  | .hmac, .secret octets => signature = algorithm.hash.hmac octets message
  | .rsa, .rsa octets =>
      match Rsa.PublicKey.ofDer? octets with
      | none => false
      | some key =>
          if algorithm.isMasked then Rsa.verifyMasked algorithm.hash key message signature
          else Rsa.verifyFixed algorithm.hash key message signature
  | .curve, .curve octets =>
      match algorithm.curve? with
      | none => false
      | some curve =>
          match curve.point? octets with
          | none => false
          | some point => curve.verify algorithm.hash point message signature
  | _, _ => false

end Algorithm

end SessionTokens
