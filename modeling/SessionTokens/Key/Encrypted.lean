import SessionTokens.Armour.Pem
import SessionTokens.Cipher.Aes
import SessionTokens.Hash.Keyed
import SessionTokens.Key.Error
import SessionTokens.Signature.Rsa

/-!
# Encrypted private keys

A private key under a passphrase: the passphrase is stretched to a cipher key
by one of two schemes, and the deciphered block must be a private key with
exponents whose numbers belong together.
-/

namespace SessionTokens.EncryptedKey

inductive Stretching where
  | iterated (hash : Hash) (salt : Bytes) (iterations : Nat)
  | table (salt : Bytes) (cost blockSize lanes : Nat)

def Stretching.derive (stretching : Stretching) (passphrase : Bytes) (length : Nat) : Bytes :=
  match stretching with
  | .iterated hash salt iterations => hash.pbkdf2 passphrase salt iterations length
  | .table salt cost blockSize lanes =>
      Hash.Scrypt.derive passphrase salt cost blockSize lanes length

def hash? (arcs : List Nat) : Option Hash :=
  match arcs with
  | [1, 2, 840, 113549, 2, 8] => some .sha224
  | [1, 2, 840, 113549, 2, 9] => some .sha256
  | [1, 2, 840, 113549, 2, 10] => some .sha384
  | [1, 2, 840, 113549, 2, 11] => some .sha512
  | _ => none

def keyLength? (arcs : List Nat) : Option Nat :=
  match arcs with
  | [2, 16, 840, 1, 101, 3, 4, 1, 2] => some 16
  | [2, 16, 840, 1, 101, 3, 4, 1, 22] => some 24
  | [2, 16, 840, 1, 101, 3, 4, 1, 42] => some 32
  | _ => none

def stretching? (length : Nat) : Der.Block → Option Stretching
  | .sequence [.identifier [1, 2, 840, 113549, 1, 5, 12],
      .sequence (.octetString salt :: iterations :: others)] => do
      let iterations ← iterations.natural?
      let (lengthSuits, others) :=
        match others with
        | .integer octets :: rest => (decide (Bytes.toNat octets = length), rest)
        | rest => (true, rest)
      match others with
      | [.sequence [.identifier arcs, .null]] =>
          let hash ← hash? arcs
          if lengthSuits ∧ 0 < iterations then return .iterated hash salt iterations else none
      | _ => none
  | .sequence [.identifier [1, 3, 6, 1, 4, 1, 11591, 4, 11],
      .sequence [.octetString salt, cost, blockSize, lanes]] => do
      let cost ← cost.natural?
      let blockSize ← blockSize.natural?
      let lanes ← lanes.natural?
      if 1 < cost ∧ cost = Nat.pow 2 cost.log2 ∧ 0 < blockSize ∧ 0 < lanes then
        return .table salt cost blockSize lanes
      else none
  | _ => none

def decipher? (octets passphrase : Bytes) : Option Bytes := do
  match ← Der.parseOne? octets with
  | .sequence [.sequence [.identifier [1, 2, 840, 113549, 1, 5, 13],
      .sequence [scheme, .sequence [.identifier cipher, .octetString initial]]],
      .octetString text] =>
      let length ← keyLength? cipher
      let stretching ← stretching? length scheme
      Cipher.decrypt? (stretching.derive passphrase length) initial text
  | _ => none

def rsaNumbers? (octets : Bytes) : Option Bytes := do
  match ← Der.parseOne? octets with
  | .sequence (version :: .sequence (.identifier [1, 2, 840, 113549, 1, 1, 1] :: _)
      :: .octetString inner :: _) =>
      let version ← version.natural?
      if version ≤ 1 ∧ (Rsa.PrivateKey.ofDer? inner).isSome then return inner else none
  | _ => none

def rsa (octets : Bytes) (passphrase : String) : Except KeyFault Bytes :=
  match Utf8.decode? octets with
  | none => .error .notUtf8
  | some text =>
      let plain := do
        let contents ← Pem.parseStrict? "ENCRYPTED PRIVATE KEY" text
        let block ← decipher? contents (Utf8.ofString passphrase)
        rsaNumbers? block
      match plain with
      | some numbers => .ok numbers
      | none => .error .undecryptable

end SessionTokens.EncryptedKey
