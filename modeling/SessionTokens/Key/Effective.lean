import SessionTokens.Key.Manager

/-!
# Key material in effect

Which part of the key settings counts.  An algorithm with a shared secret looks
at the secret alone.  For a key pair each half comes from its file when there is
a path, and else from its inline text; the private half is looked for first.
-/

namespace SessionTokens

inductive KeyHalf where
  | privateHalf
  | publicHalf
  deriving DecidableEq, Repr

namespace KeyHalf

def unreadable : KeyHalf → String → FileFault → KeyError
  | .privateHalf => .privateKeyUnreadable
  | .publicHalf => .publicKeyUnreadable

def missing : KeyHalf → KeyError
  | .privateHalf => .missingPrivateKey
  | .publicHalf => .missingPublicKey

end KeyHalf

namespace KeyConfig

def file? (config : KeyConfig) : KeyHalf → Option String
  | .privateHalf => config.privateKeyFile
  | .publicHalf => config.publicKeyFile

def text? (config : KeyConfig) : KeyHalf → Option String
  | .privateHalf => config.privateKey
  | .publicHalf => config.publicKey

/-- The passphrase, unless it is empty. -/
def passphrase? (config : KeyConfig) : Option String := config.privateKeyPassphrase.filter (· ≠ "")

inductive Provides (config : KeyConfig) (read : FileReader) (half : KeyHalf) : Bytes → Prop
  | file {path : String} {octets : Bytes} (set : config.file? half = some path)
      (found : read path = .ok octets) : Provides config read half octets
  | inline {text : String} (unset : config.file? half = none)
      (given : config.text? half = some text) : Provides config read half (Utf8.ofString text)

/-- Why there are no octets to read a half from. -/
inductive Lacks (config : KeyConfig) (read : FileReader) (half : KeyHalf) : KeyError → Prop
  | unreadable {path : String} {fault : FileFault} (set : config.file? half = some path)
      (failed : read path = .error fault) : Lacks config read half (half.unreadable path fault)
  | missing (unset : config.file? half = none) (ungiven : config.text? half = none) :
      Lacks config read half half.missing

/-- What keys come to for an algorithm. -/
inductive Loads (config : KeyConfig) (read : FileReader) (algorithm : Algorithm) :
    Except KeyError KeyManager → Prop
  | noSecret (symmetric : algorithm.isSymmetric = true)
      (unset : config.secret = none ∨ config.secret = some "") :
      Loads config read algorithm (.error .missingSecret)
  | secret {text : String} (symmetric : algorithm.isSymmetric = true)
      (set : config.secret = some text) (filled : text ≠ "") :
      Loads config read algorithm
        (.ok ⟨algorithm, .fixed (.secret (Utf8.ofString text)) (.secret (Utf8.ofString text))⟩)
  | noPrivate {error : KeyError} (paired : algorithm.isSymmetric = false)
      (lacks : config.Lacks read .privateHalf error) : Loads config read algorithm (.error error)
  | noPublic {privateKey : Bytes} {error : KeyError} (paired : algorithm.isSymmetric = false)
      (provides : config.Provides read .privateHalf privateKey)
      (lacks : config.Lacks read .publicHalf error) : Loads config read algorithm (.error error)
  | pair {privateKey publicKey : Bytes} (paired : algorithm.isSymmetric = false)
      (signs : config.Provides read .privateHalf privateKey)
      (verifies : config.Provides read .publicHalf publicKey) :
      Loads config read algorithm
        (KeyManager.ofArmour algorithm privateKey config.passphrase? publicKey)

/--
The key files in effect.  There is none beside a shared secret, and the file of
the public half is in effect only after the private half was found: where that is
missing or cannot be read, nothing looks at the public file.
-/
inductive FileInEffect (config : KeyConfig) (read : FileReader) (algorithm : Algorithm) :
    String → Prop
  | ofPrivate {path : String} (paired : algorithm.isSymmetric = false)
      (set : config.file? .privateHalf = some path) : FileInEffect config read algorithm path
  | ofPublic {path : String} {privateKey : Bytes} (paired : algorithm.isSymmetric = false)
      (provides : config.Provides read .privateHalf privateKey)
      (set : config.file? .publicHalf = some path) : FileInEffect config read algorithm path

/--
Two configurations that agree in what an algorithm looks at.  Inline texts may
differ where there is a file, and an empty passphrase is like none.
-/
inductive SameMaterial (config other : KeyConfig) (algorithm : Algorithm) : Prop
  | secret (symmetric : algorithm.isSymmetric = true) (same : other.secret = config.secret)
  | pair (paired : algorithm.isSymmetric = false)
      (files : ∀ half, other.file? half = config.file? half)
      (texts : ∀ half, config.file? half = none → other.text? half = config.text? half)
      (passphrase : other.passphrase? = config.passphrase?)

end KeyConfig

end SessionTokens
