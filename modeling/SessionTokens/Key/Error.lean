import SessionTokens.Algorithm

/-!
# Key errors

What can be wrong with key material: its absence, a file, its contents, or the
answer of a resolver.
-/

namespace SessionTokens

inductive FileFault where
  | missing
  | directory
  | stated (reason : String)
  deriving DecidableEq, Repr

def FileFault.message : FileFault → String
  | .missing => "No such file or directory (os error 2)"
  | .directory => "Is a directory (os error 21)"
  | .stated reason => reason

inductive AlgorithmFault where
  | unknown (text : String)
  | needsKeyPair (algorithm : Algorithm)
  | needsSecret (algorithm : Algorithm)
  deriving DecidableEq, Repr

def AlgorithmFault.message : AlgorithmFault → String
  | .unknown text => text
  | .needsKeyPair algorithm => algorithm.name ++ " requires a key pair, not a shared secret"
  | .needsSecret algorithm => algorithm.name ++ " uses a shared secret, not a key pair"

inductive KeyFault where
  /-- No block of a known kind, or a block for another family. -/
  | format
  /-- A block of the right kind that holds no octets. -/
  | hollow
  | encryptedCurve
  | notUtf8
  | undecryptable
  | stated (reason : String)
  deriving DecidableEq, Repr

def KeyFault.message : KeyFault → String
  | .format => "InvalidKeyFormat"
  | .hollow => "InvalidEcdsaKey"
  | .encryptedCurve => "encrypted private keys are supported for RSA algorithms only"
  | .notUtf8 => "private key PEM is not valid UTF-8"
  | .undecryptable => "failed to decrypt private key"
  | .stated reason => reason

inductive KeyError where
  | missingSecret
  | invalidAlgorithm (fault : AlgorithmFault)
  | missingPrivateKey
  | missingPublicKey
  | privateKeyUnreadable (path : String) (fault : FileFault)
  | invalidPrivateKey (fault : KeyFault)
  | publicKeyUnreadable (path : String) (fault : FileFault)
  | invalidPublicKey (fault : KeyFault)
  | resolution (reason : String)
  deriving DecidableEq, Repr

namespace KeyError

def message : KeyError → String
  | .missingSecret => "secret key is required"
  | .invalidAlgorithm fault => "invalid signing algorithm: " ++ fault.message
  | .missingPrivateKey => "private key is required"
  | .missingPublicKey => "public key is required"
  | .privateKeyUnreadable path fault =>
      "private key file unreadable: " ++ path ++ ": " ++ fault.message
  | .invalidPrivateKey fault => "private key invalid: " ++ fault.message
  | .publicKeyUnreadable path fault =>
      "public key file unreadable: " ++ path ++ ": " ++ fault.message
  | .invalidPublicKey fault => "public key invalid: " ++ fault.message
  | .resolution reason => "key resolution failed: " ++ reason

def code : KeyError → String
  | .missingSecret => "MissingSecretKey"
  | .invalidAlgorithm _ => "InvalidSigningAlgorithm"
  | .missingPrivateKey => "MissingPrivateKey"
  | .missingPublicKey => "MissingPublicKey"
  | .privateKeyUnreadable .. => "PrivateKeyUnreadable"
  | .invalidPrivateKey _ => "InvalidPrivateKey"
  | .publicKeyUnreadable .. => "PublicKeyUnreadable"
  | .invalidPublicKey _ => "InvalidPublicKey"
  | .resolution _ => "Resolution"

def isFileError : KeyError → Bool
  | .privateKeyUnreadable .. | .publicKeyUnreadable .. => true
  | _ => false

end KeyError

def Algorithm.read (text : String) : Except KeyError Algorithm :=
  match Algorithm.ofText? text with
  | some algorithm => .ok algorithm
  | none => .error (.invalidAlgorithm (.unknown text))

end SessionTokens
