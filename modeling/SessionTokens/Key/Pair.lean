import Mathlib.Data.Nat.Prime.Defs
import SessionTokens.Key.Effective
import SessionTokens.Number.Certificate

/-!
# Halves of key pairs

When a private half signs, when a public half verifies anything, and when the
two belong together.  Loading looks at none of this: it takes every pair of
texts of which each has the form of a key of its family.
-/

namespace SessionTokens

/-- Whether the numbers of a key are what they should be: two primes and what goes with them. -/
structure Rsa.PrivateKey.IsGenuine (key : Rsa.PrivateKey) : Prop where
  consistent : key.consistent = true
  prime1 : key.prime1.Prime
  prime2 : key.prime2.Prime
  different : key.prime1 ≠ key.prime2

namespace Algorithm

/-- Whether a private half signs for an algorithm, and a public half is the one that goes with it. -/
inductive Pairs (algorithm : Algorithm) : SigningMaterial → VerificationMaterial → Prop
  | rsa {secret shown : Bytes} {key : Rsa.PrivateKey} (family : algorithm.family = .rsa)
      (read : Rsa.PrivateKey.ofDer? secret = some key) (suits : key.publicKey.sizeSuits = true)
      (genuine : key.IsGenuine) (same : Rsa.PublicKey.ofDer? shown = some key.publicKey) :
      Pairs algorithm (.rsa secret) (.rsa shown)
  | curve {secret shown : Bytes} {curve : Curve} {number : Nat}
      (chosen : algorithm.curve? = some curve) (read : curve.secret? secret = some number)
      (same : curve.point? shown = some (curve.times number curve.base)) :
      Pairs algorithm (.curve secret) (.curve shown)

end Algorithm

namespace KeyManager

/-- How a manager comes from the texts of a private and a public key. -/
inductive FromPair (manager : KeyManager) (algorithm : Algorithm) (privateKey : Bytes)
    (passphrase : Option String) (publicKey : Bytes) : Prop
  | armour (accepted : ofArmour algorithm privateKey passphrase publicKey = .ok manager)
  | config {read : FileReader} {config : KeyConfig}
      (signs : config.Provides read .privateHalf privateKey)
      (verifies : config.Provides read .publicHalf publicKey)
      (opens : config.passphrase? = passphrase) (accepted : load read algorithm config = .ok manager)

end KeyManager

end SessionTokens
