import Mathlib.FieldTheory.Finite.Basic
import SessionTokens.Key.Pair
import SessionTokens.Proofs.Bytes
import SessionTokens.Proofs.Number.Certificate

/-!
# Both exponents undo each other

With two different primes whose product is the modulus, raising to both exponents
changes no number below the modulus.  So a signature leads back to the encoded
message, and either encoding is a number below the modulus.
-/

namespace SessionTokens

/-! ## Lengths of hashes -/

namespace Hash

theorem length_words_octets (state : State UInt32) :
    (state.words.flatMap Sha256.octets).length = 32 := rfl

theorem length_words_octets_wide (state : State UInt64) :
    (state.words.flatMap Sha512.octets).length = 64 := rfl

theorem length_digest (hash : Hash) (message : Bytes) : (hash.digest message).length = hash.size := by
  cases hash with
  | sha224 => rw [digest, List.length_take, Sha256.digestFrom, length_words_octets]; rfl
  | sha256 => exact length_words_octets _
  | sha384 => rw [digest, List.length_take, Sha512.digestFrom, length_words_octets_wide]; rfl
  | sha512 => exact length_words_octets_wide _

theorem size_bounds (hash : Hash) : 28 ≤ hash.size ∧ hash.size ≤ 64 := by
  cases hash <;> decide

end Hash

namespace Rsa

/-! ## Exponents -/

/-- Raising to an exponent that is 1 beyond a multiple changes nothing modulo a prime. -/
theorem pow_modEq_self {prime undone number : Nat} (isPrime : prime.Prime)
    (one : undone % (prime - 1) = 1) : number ^ undone ≡ number [MOD prime] := by
  have : Fact prime.Prime := ⟨isPrime⟩
  rw [← ZMod.natCast_eq_natCast_iff, Nat.cast_pow]
  have split := Nat.div_add_mod undone (prime - 1)
  rw [one] at split
  by_cases zero : (number : ZMod prime) = 0
  · rw [zero, zero_pow (by omega)]
  · rw [← split, pow_succ, pow_mul, ZMod.pow_card_sub_one_eq_one zero, one_pow, one_mul]

namespace PrivateKey

variable {key : PrivateKey}

theorem IsGenuine.parts (genuine : key.IsGenuine) :
    key.prime1 * key.prime2 = key.publicKey.modulus ∧
      key.exponent * key.publicKey.exponent % (key.prime1 - 1) = 1 ∧
      key.exponent * key.publicKey.exponent % (key.prime2 - 1) = 1 := by
  have consistent := genuine.consistent
  simp only [PrivateKey.consistent, Bool.and_eq_true, decide_eq_true_eq] at consistent
  obtain ⟨⟨⟨-, product⟩, first⟩, second⟩ := consistent
  exact ⟨product, first, second⟩

theorem IsGenuine.powerMod_powerMod (genuine : key.IsGenuine) {number : Nat}
    (small : number < key.publicKey.modulus) :
    powerMod (powerMod number key.exponent key.publicKey.modulus) key.publicKey.exponent
      key.publicKey.modulus = number := by
  obtain ⟨product, first, second⟩ := genuine.parts
  have coprime : key.prime1.Coprime key.prime2 :=
    (Nat.coprime_primes genuine.prime1 genuine.prime2).mpr genuine.different
  have undone : number ^ (key.exponent * key.publicKey.exponent) ≡ number
      [MOD key.publicKey.modulus] := by
    rw [← product]
    exact (Nat.modEq_and_modEq_iff_modEq_mul coprime).mp
      ⟨pow_modEq_self genuine.prime1 first, pow_modEq_self genuine.prime2 second⟩
  rw [powerMod_eq, powerMod_eq, ← Nat.pow_mod, ← pow_mul, undone, Nat.mod_eq_of_lt small]

end PrivateKey

/-! ## Lengths of numbers -/

theorem lt_two_pow_bitLength (number : Nat) : number < 2 ^ bitLength number := by
  rw [bitLength]
  split
  · next zero => rw [zero]; decide
  · exact Nat.lt_log2_self

theorem two_pow_le {number bits : Nat} (length : bitLength number = bits + 1) :
    2 ^ bits ≤ number := by
  rw [bitLength] at length
  split at length
  · cases length
  · next nonzero =>
      rw [← Nat.succ.inj length]
      exact Nat.log2_self_le nonzero

theorem pow_256_eq (width : Nat) : 256 ^ width = 2 ^ (8 * width) := by
  rw [pow_mul]
  norm_num

variable {key : PrivateKey}

/-- A modulus of a suitable size: its number of bits and of octets. -/
theorem PublicKey.exists_bits {key : PublicKey} (suits : key.sizeSuits = true) :
    ∃ bits, bitLength key.modulus = bits + 1 ∧ 2047 ≤ bits ∧ key.size = (bits + 8) / 8 := by
  rw [sizeSuits, Bool.and_eq_true, decide_eq_true_eq, decide_eq_true_eq] at suits
  refine ⟨bitLength key.modulus - 1, by omega, by omega, ?_⟩
  rw [size]
  congr 1
  omega

theorem PublicKey.modulus_lt {key : PublicKey} (suits : key.sizeSuits = true) :
    key.modulus < 256 ^ key.size := by
  obtain ⟨bits, length, -, size⟩ := exists_bits suits
  rw [pow_256_eq]
  refine lt_of_lt_of_le (lt_two_pow_bitLength _) (Nat.pow_le_pow_right (by decide) ?_)
  rw [length, size]
  omega

/-- The signature of an encoded message below the modulus leads back to it. -/
theorem undo?_apply (genuine : key.IsGenuine) (suits : key.publicKey.sizeSuits = true)
    {encoded : Bytes} (small : Bytes.toNat encoded < key.publicKey.modulus) :
    key.publicKey.undo? encoded.length (key.apply encoded) = some encoded := by
  have positive : 0 < key.publicKey.modulus := Nat.zero_lt_of_lt small
  have below := powerMod_lt positive (Bytes.toNat encoded) key.exponent
  have number : Bytes.toNat (key.apply encoded) =
      powerMod (Bytes.toNat encoded) key.exponent key.publicKey.modulus :=
    Bytes.toNat_ofNat_of_lt (below.trans (PublicKey.modulus_lt suits))
  have length : (key.apply encoded).length = key.publicKey.size := Bytes.length_ofNat _ _
  have fits : Bytes.toNat encoded < Nat.pow 256 encoded.length := Bytes.toNat_lt encoded
  simp only [PublicKey.undo?, number, length, suits, below, and_self, if_true,
    genuine.powerMod_powerMod small, fits, Bytes.ofNat_toNat]

/-! ## The fixed padding -/

theorem length_hashName (hash : Hash) : (hashName hash).length = 19 := by
  cases hash <;> rfl

theorem length_encodeFixed (hash : Hash) {size : Nat} (long : 128 ≤ size) (message : Bytes) :
    (encodeFixed hash size message).length = size := by
  have := hash.size_bounds
  simp only [encodeFixed, List.length_append, List.length_cons, List.length_nil,
    List.length_replicate, length_hashName, Hash.length_digest]
  omega

theorem toNat_encodeFixed_lt (hash : Hash) {key : PublicKey} (suits : key.sizeSuits = true)
    (message : Bytes) : Bytes.toNat (encodeFixed hash key.size message) < key.modulus := by
  obtain ⟨bits, length, long, size⟩ := PublicKey.exists_bits suits
  have whole := length_encodeFixed hash (show 128 ≤ key.size by omega) message
  have front : encodeFixed hash key.size message =
      0 :: (encodeFixed hash key.size message).tail := rfl
  have tail : (encodeFixed hash key.size message).tail.length = key.size - 1 := by
    rw [List.length_tail, whole]
  calc Bytes.toNat (encodeFixed hash key.size message)
      = Bytes.toNat (encodeFixed hash key.size message).tail := by
        rw [front, Bytes.toNat_cons]
        simp
    _ < 256 ^ (key.size - 1) := tail ▸ Bytes.toNat_lt _
    _ ≤ 2 ^ bits := by
        rw [pow_256_eq]
        exact Nat.pow_le_pow_right (by decide) (by omega)
    _ ≤ key.modulus := two_pow_le length

theorem verifyFixed_apply (genuine : key.IsGenuine) {hash : Hash} {message signature : Bytes}
    (signed : signFixed? hash key message = some signature) :
    verifyFixed hash key.publicKey message signature = true := by
  rw [signFixed?] at signed
  split at signed
  · next suits =>
      cases signed
      obtain ⟨bits, -, long, size⟩ := PublicKey.exists_bits suits
      have undone := undo?_apply genuine suits (toNat_encodeFixed_lt hash suits message)
      rw [length_encodeFixed hash (by omega)] at undone
      rw [verifyFixed, undone, decide_eq_true_eq]
  · cases signed

/-! ## The masked padding -/

theorem length_mask (hash : Hash) (seed : Bytes) (length : Nat) :
    (mask hash seed length).length = length := by
  have positive := hash.size_bounds.1
  have parts (count : Nat) : ((List.range count).flatMap fun index =>
      hash.digest (seed ++ Bytes.ofNat 4 index)).length = count * hash.size := by
    simp [List.length_flatMap, Hash.length_digest]
  have enough : length ≤ (length + hash.size - 1) / hash.size * hash.size := by
    have rest := Nat.div_add_mod (length + hash.size - 1) hash.size
    have small := Nat.mod_lt (length + hash.size - 1) (show 0 < hash.size by omega)
    rw [Nat.mul_comm] at rest
    omega
  rw [mask, List.length_take, parts]
  omega

theorem toNat_keepLow_lt (count : Nat) (octet : UInt8) : (keepLow count octet).toNat < 2 ^ count := by
  have small : octet.toNat % 2 ^ count < 2 ^ count := Nat.mod_lt _ (by positivity)
  have value : (keepLow count octet).toNat = octet.toNat % 2 ^ count % 256 := UInt8.toNat_ofNat'
  rw [value]
  exact lt_of_le_of_lt (Nat.mod_le _ _) small

/-- What a masked padding is made of: a masked block of which some leading bits are cleared. -/
structure MaskedParts (hash : Hash) (bits : Nat) (salt message : Bytes) (first : UInt8)
    (rest : Bytes) : Prop where
  masked : Bytes.xor
      (List.replicate ((bits - 1 + 7) / 8 - hash.size - salt.length - 2) 0 ++ 0x01 :: salt)
      (mask hash (saltedHash hash salt message) ((bits - 1 + 7) / 8 - hash.size - 1)) = first :: rest
  length : rest.length + hash.size + 2 = (bits - 1 + 7) / 8
  encoded : encodeMasked hash bits salt message =
    (keepLow (8 - (8 * ((bits - 1 + 7) / 8) - (bits - 1))) first :: rest) ++
      (saltedHash hash salt message ++ [0xbc])

section Masked

variable {hash : Hash} {bits : Nat} {salt message : Bytes} {first : UInt8} {rest : Bytes}

theorem exists_maskedParts (long : 2048 ≤ bits) (full : salt.length = hash.size)
    (message : Bytes) : ∃ first rest, MaskedParts hash bits salt message first rest := by
  have bounds := hash.size_bounds
  have length : (Bytes.xor
      (List.replicate ((bits - 1 + 7) / 8 - hash.size - salt.length - 2) 0 ++ 0x01 :: salt)
      (mask hash (saltedHash hash salt message) ((bits - 1 + 7) / 8 - hash.size - 1))).length =
        (bits - 1 + 7) / 8 - hash.size - 1 := by
    rw [Bytes.length_xor, length_mask, List.length_append, List.length_replicate, List.length_cons]
    omega
  obtain ⟨first, rest, masked⟩ := List.exists_cons_of_length_pos (l := Bytes.xor
      (List.replicate ((bits - 1 + 7) / 8 - hash.size - salt.length - 2) 0 ++ 0x01 :: salt)
      (mask hash (saltedHash hash salt message) ((bits - 1 + 7) / 8 - hash.size - 1))) (by omega)
  refine ⟨first, rest, masked, ?_, ?_⟩
  · rw [masked, List.length_cons] at length
    omega
  · simp only [encodeMasked, masked, List.append_assoc]

namespace MaskedParts

variable (parts : MaskedParts hash bits salt message first rest)

include parts

theorem length_encoded : (encodeMasked hash bits salt message).length = (bits - 1 + 7) / 8 := by
  have length := parts.length
  rw [parts.encoded, List.length_append, List.length_cons, List.length_append, List.length_singleton,
    saltedHash, Hash.length_digest]
  omega

theorem toNat_lt : Bytes.toNat (encodeMasked hash bits salt message) < 2 ^ (bits - 1) := by
  have length := parts.length_encoded
  rw [parts.encoded, List.cons_append, List.length_cons] at length
  rw [parts.encoded, List.cons_append, Bytes.toNat_cons]
  generalize rest ++ (saltedHash hash salt message ++ [0xbc]) = tail at length ⊢
  have low := toNat_keepLow_lt (8 - (8 * ((bits - 1 + 7) / 8) - (bits - 1))) first
  generalize (keepLow (8 - (8 * ((bits - 1 + 7) / 8) - (bits - 1))) first).toNat = head at low ⊢
  calc head * 256 ^ tail.length + Bytes.toNat tail
      < head * 256 ^ tail.length + 256 ^ tail.length := Nat.add_lt_add_left (Bytes.toNat_lt tail) _
    _ = (head + 1) * 256 ^ tail.length := by ring
    _ ≤ 2 ^ (8 - (8 * ((bits - 1 + 7) / 8) - (bits - 1))) * 256 ^ tail.length :=
        Nat.mul_le_mul_right _ low
    _ = 2 ^ (bits - 1) := by
        rw [pow_256_eq, ← pow_add]
        congr 1
        omega

/-- The salt of a masked padding comes back from it: no leading bit is part of it. -/
theorem checkMasked_encoded (long : 2048 ≤ bits) (full : salt.length = hash.size) :
    checkMasked hash bits (encodeMasked hash bits salt message) message = true := by
  have length := parts.length
  have bounds := hash.size_bounds
  have valueLength : (saltedHash hash salt message).length = hash.size := Hash.length_digest _ _
  have front (head : UInt8) : (head :: rest).length = (bits - 1 + 7) / 8 - hash.size - 1 := by
    rw [List.length_cons]
    omega
  have salted : (Bytes.xor
      (keepLow (8 - (8 * ((bits - 1 + 7) / 8) - (bits - 1))) first :: rest)
      (mask hash (saltedHash hash salt message) ((bits - 1 + 7) / 8 - hash.size - 1))).drop
        ((bits - 1 + 7) / 8 - 2 * hash.size - 1) = salt := by
    obtain ⟨places, same⟩ : ∃ places, (bits - 1 + 7) / 8 - 2 * hash.size - 1 = places + 1 :=
      ⟨(bits - 1 + 7) / 8 - 2 * hash.size - 2, by omega⟩
    rw [same, Bytes.drop_xor, List.drop_succ_cons, ← List.drop_succ_cons, ← parts.masked,
      ← Bytes.drop_xor, Bytes.xor_xor, ← same]
    · rw [List.append_cons, List.drop_left']
      rw [List.length_append, List.length_replicate, List.length_singleton]
      omega
    · rw [length_mask, List.length_append, List.length_replicate, List.length_cons]
      omega
  have value : ((encodeMasked hash bits salt message).drop
      ((bits - 1 + 7) / 8 - hash.size - 1)).take hash.size = saltedHash hash salt message := by
    rw [parts.encoded, List.drop_left' (front _), List.take_left' valueLength]
  have masked : (encodeMasked hash bits salt message).take ((bits - 1 + 7) / 8 - hash.size - 1) =
      keepLow (8 - (8 * ((bits - 1 + 7) / 8) - (bits - 1))) first :: rest := by
    rw [parts.encoded, List.take_left' (front _)]
  simp only [checkMasked, value, masked, salted, decide_true, Bool.and_true, decide_eq_true_eq]
  omega

end MaskedParts

end Masked

theorem verifyMasked_apply (genuine : key.IsGenuine) {hash : Hash} {salt message signature : Bytes}
    (full : salt.length = hash.size)
    (signed : signMasked? hash key salt message = some signature) :
    verifyMasked hash key.publicKey message signature = true := by
  rw [signMasked?] at signed
  split at signed
  · next suits =>
      cases signed
      obtain ⟨bits, length, long, -⟩ := PublicKey.exists_bits suits
      obtain ⟨first, rest, parts⟩ := exists_maskedParts
        (show 2048 ≤ bitLength key.publicKey.modulus by omega) full message
      have small := parts.toNat_lt
      rw [length, Nat.add_sub_cancel] at small
      have undone := undo?_apply genuine suits (length ▸ small.trans_le (two_pow_le length))
      rw [parts.length_encoded] at undone
      simp only [verifyMasked, undone]
      exact parts.checkMasked_encoded (by omega) full
  · cases signed

end Rsa

end SessionTokens
