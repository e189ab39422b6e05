import SessionTokens.Claims
import SessionTokens.Key.Armoured
import SessionTokens.Key.Encrypted
import SessionTokens.Key.Material
import SessionTokens.Token.Header

/-!
# Key managers

One algorithm and the keys for it: fixed keys, or a resolver that is asked for
a key each time.  Fixed keys come from configuration; key files count before
inline keys, and the private key is looked at before the public key.
-/

namespace SessionTokens

/-- A key that signs one token, and the name it is known by. -/
structure SigningKey where
  material : SigningMaterial
  keyId : Option String
  deriving DecidableEq

/-- Selection of keys by the claims to sign or by the header to verify. -/
structure KeyResolver where
  signingKey : Claims → Except KeyError SigningKey
  verificationKey : Token.Header → Except KeyError VerificationMaterial

/-- A resolver with one secret per tenant; the claim `identity.tenant` names the tenant. -/
def KeyResolver.byTenant (secrets : List (String × Bytes)) : KeyResolver where
  signingKey claims :=
    let tenant := do
      let identity ← claims.get? "identity"
      let members ← identity.asObject?
      let tenant ← Members.get? members "tenant"
      tenant.asString?
    match tenant with
    | none => .error (.resolution "no tenant claim")
    | some tenant =>
        match secrets.lookup tenant with
        | none => .error (.resolution ("unknown tenant " ++ tenant))
        | some secret => .ok ⟨.secret secret, some tenant⟩
  verificationKey header :=
    match header.keyId with
    | none => .error (.resolution "token has no kid")
    | some tenant =>
        match secrets.lookup tenant with
        | none => .error (.resolution ("unknown kid " ++ tenant))
        | some secret => .ok (.secret secret)

inductive KeySource where
  | fixed (signing : SigningMaterial) (verification : VerificationMaterial)
  | resolver (resolver : KeyResolver)

structure KeyManager where
  algorithm : Algorithm
  source : KeySource

structure KeyConfig where
  secret : Option String := none
  privateKeyFile : Option String := none
  privateKey : Option String := none
  privateKeyPassphrase : Option String := none
  publicKeyFile : Option String := none
  publicKey : Option String := none
  deriving DecidableEq, Repr

abbrev FileReader := String → Except FileFault Bytes

namespace KeyManager

/-- Keys from a shared secret, which must not be empty. -/
def ofSecret (algorithm : Algorithm) (secret : Bytes) : Except KeyError KeyManager :=
  if ¬ algorithm.isSymmetric then .error (.invalidAlgorithm (.needsKeyPair algorithm))
  else if secret.isEmpty then .error .missingSecret
  else .ok ⟨algorithm, .fixed (.secret secret) (.secret secret)⟩

def signingOfArmour (algorithm : Algorithm) (octets : Bytes) (passphrase : Option String) :
    Except KeyFault SigningMaterial :=
  match algorithm.family, passphrase with
  | .curve, some _ => .error .encryptedCurve
  | .curve, none => (ArmouredKey.curvePrivate octets).map .curve
  | _, some passphrase => (EncryptedKey.rsa octets passphrase).map .rsa
  | _, none => (ArmouredKey.rsa octets).map .rsa

def verificationOfArmour (algorithm : Algorithm) (octets : Bytes) :
    Except KeyFault VerificationMaterial :=
  match algorithm.family with
  | .curve => (ArmouredKey.curvePublic octets).map .curve
  | _ => (ArmouredKey.rsa octets).map .rsa

/-- Keys from an armoured key pair, the private key optionally under a passphrase. -/
def ofArmour (algorithm : Algorithm) (privateKey : Bytes) (passphrase : Option String)
    (publicKey : Bytes) : Except KeyError KeyManager :=
  if algorithm.isSymmetric then .error (.invalidAlgorithm (.needsSecret algorithm))
  else do
    let signing ← (signingOfArmour algorithm privateKey passphrase).mapError .invalidPrivateKey
    let verification ← (verificationOfArmour algorithm publicKey).mapError .invalidPublicKey
    return ⟨algorithm, .fixed signing verification⟩

def ofResolver (algorithm : Algorithm) (resolver : KeyResolver) : KeyManager :=
  ⟨algorithm, .resolver resolver⟩

/-- The text of a key: from its file when there is a path, else the inline text. -/
def effectiveText (read : FileReader) (path text : Option String)
    (unreadable : String → FileFault → KeyError) (missing : KeyError) : Except KeyError Bytes :=
  match path, text with
  | some path, _ => (read path).mapError (unreadable path)
  | none, some text => .ok (Utf8.ofString text)
  | none, none => .error missing

/-- Keys from configuration; an empty passphrase counts as none. -/
def load (read : FileReader) (algorithm : Algorithm) (config : KeyConfig) :
    Except KeyError KeyManager :=
  if algorithm.isSymmetric then
    ofSecret algorithm ((config.secret.map Utf8.ofString).getD [])
  else do
    let privateKey ← effectiveText read config.privateKeyFile config.privateKey
      .privateKeyUnreadable .missingPrivateKey
    let publicKey ← effectiveText read config.publicKeyFile config.publicKey
      .publicKeyUnreadable .missingPublicKey
    ofArmour algorithm privateKey (config.privateKeyPassphrase.filter (· ≠ "")) publicKey

def usesResolver (manager : KeyManager) : Bool :=
  match manager.source with
  | .fixed .. => false
  | .resolver _ => true

def signingKey (manager : KeyManager) (claims : Claims) : Except KeyError SigningKey :=
  match manager.source with
  | .fixed signing _ => .ok ⟨signing, none⟩
  | .resolver resolver => resolver.signingKey claims

def verificationKey (manager : KeyManager) (header : Token.Header) :
    Except KeyError VerificationMaterial :=
  match manager.source with
  | .fixed _ verification => .ok verification
  | .resolver resolver => resolver.verificationKey header

end KeyManager

end SessionTokens
