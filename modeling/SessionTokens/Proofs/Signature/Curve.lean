import Mathlib.GroupTheory.OrderOfElement
import SessionTokens.Proofs.Bytes
import SessionTokens.Proofs.Signature.Standard

/-!
# Signatures on standard curves

What is signed with the secret number of a key is right under the point of the
key, and among nine nonces that follow one another there is one that works.
-/

namespace SessionTokens.Curve

variable {curve : Curve} [standard : Standard curve]

/-! ## Multiples of the base point -/

noncomputable def basePoint (curve : Curve) [standard : Standard curve] : curve.equation.Point :=
  (exists_represents standard.inside).choose

variable (curve) in
theorem represents_base : Represents curve curve.base curve.basePoint :=
  (exists_represents standard.inside).choose_spec

theorem addOrderOf_basePoint : addOrderOf curve.basePoint = curve.order := by
  refine addOrderOf_eq_prime (annihilates standard.annihilated (represents_base curve)) fun zero => ?_
  have none := (represents_base curve).unique (zero ▸ Represents.neutral)
  cases none

theorem smul_basePoint_eq_iff {left right : Nat} :
    left • curve.basePoint = right • curve.basePoint ↔ (left : ZMod curve.order) = right := by
  rw [nsmul_eq_nsmul_iff_modEq, addOrderOf_basePoint, ZMod.natCast_eq_natCast_iff]

variable (curve) in
theorem two_lt_order : 2 < curve.order :=
  lt_trans (by decide) standard.spacious

/-! ## Verifying what was signed -/

omit standard in
/-- The two numbers of a signature, and the point of the nonce that they come from. -/
theorem signWith?_eq_some {secret number nonce first second : Nat}
    (signed : curve.signWith? secret number nonce = some (first, second)) :
    ∃ x y, curve.times nonce curve.base = .at x y ∧ first = x % curve.order ∧ first ≠ 0 ∧
      second = inverseMod curve.order nonce * ((number + first * secret) % curve.order) %
        curve.order ∧ second ≠ 0 := by
  rw [signWith?] at signed
  split at signed
  · cases signed
  · next x y point =>
      dsimp only at signed
      split at signed
      · cases signed
      · next nonzero =>
          rw [Option.some.injEq, Prod.mk.injEq] at signed
          obtain ⟨rfl, rfl⟩ := signed
          obtain ⟨left, right⟩ := not_or.mp nonzero
          exact ⟨x, y, point, rfl, left, rfl, right⟩

variable (curve) in
theorem natCast_second (secret number nonce first : Nat) :
    ((inverseMod curve.order nonce * ((number + first * secret) % curve.order) % curve.order : Nat) :
      ZMod curve.order) = (nonce : ZMod curve.order)⁻¹ * (number + first * secret) := by
  rw [ZMod.natCast_mod, Nat.cast_mul, natCast_inverseMod (two_lt_order curve), ZMod.natCast_mod]
  push_cast
  rfl

/-- Verifying comes back to the nonce. -/
theorem natCast_verified {secret number nonce first second : Nat}
    (same : (second : ZMod curve.order) =
      (nonce : ZMod curve.order)⁻¹ * (number + first * secret))
    (nonzero : (second : ZMod curve.order) ≠ 0) :
    ((number * inverseMod curve.order second % curve.order +
      first * inverseMod curve.order second % curve.order * secret : Nat) : ZMod curve.order) =
        nonce := by
  have parts := nonzero
  rw [same] at parts
  have nonceNonzero : (nonce : ZMod curve.order) ≠ 0 := fun zero =>
    left_ne_zero_of_mul parts (inv_eq_zero.mpr zero)
  have sumNonzero := right_ne_zero_of_mul parts
  rw [Nat.cast_add, Nat.cast_mul, ZMod.natCast_mod, ZMod.natCast_mod, Nat.cast_mul, Nat.cast_mul,
    natCast_inverseMod (two_lt_order curve), same]
  field_simp

/-- What is signed with one nonce is right under the point of the secret number. -/
theorem verify_of_signWith? {hash : Hash} {message : Bytes} {secret nonce first second : Nat}
    (signed : curve.signWith? secret (curve.hashNumber hash message) nonce = some (first, second)) :
    curve.verify hash (curve.times secret curve.base) message
      (Bytes.ofNat curve.size first ++ Bytes.ofNat curve.size second) = true := by
  obtain ⟨x, y, point, isFirst, firstNonzero, isSecond, secondNonzero⟩ := signWith?_eq_some signed
  have positive : 0 < curve.order := standard.orderPrime.pos
  have firstSmall : first < curve.order := isFirst ▸ Nat.mod_lt _ positive
  have secondSmall : second < curve.order := isSecond ▸ Nat.mod_lt _ positive
  have inField := natCast_second curve secret (curve.hashNumber hash message) nonce first
  rw [← isSecond] at inField
  have nonzero : (second : ZMod curve.order) ≠ 0 := by
    rw [Ne, ZMod.natCast_eq_zero_iff]
    exact Nat.not_dvd_of_pos_of_lt (Nat.pos_of_ne_zero secondNonzero) secondSmall
  have front : ((Bytes.ofNat curve.size first ++ Bytes.ofNat curve.size second).take curve.size) =
      Bytes.ofNat curve.size first := by
    rw [List.take_left' (Bytes.length_ofNat _ _)]
  have back : ((Bytes.ofNat curve.size first ++ Bytes.ofNat curve.size second).drop curve.size) =
      Bytes.ofNat curve.size second := by
    rw [List.drop_left' (Bytes.length_ofNat _ _)]
  have long : (Bytes.ofNat curve.size first ++ Bytes.ofNat curve.size second).length =
      2 * curve.size := by
    rw [List.length_append, Bytes.length_ofNat, Bytes.length_ofNat, two_mul]
  -- The sum of the two multiples is the multiple of the base point by the nonce.
  have sum := ((represents_base curve).times (curve.hashNumber hash message *
    inverseMod curve.order second % curve.order)).add
      (((represents_base curve).times secret).times
        (first * inverseMod curve.order second % curve.order))
  rw [smul_smul, ← add_nsmul, smul_basePoint_eq_iff.mpr (natCast_verified inField nonzero)] at sum
  have same := sum.unique ((represents_base curve).times nonce)
  rw [verify, front, back, Bytes.toNat_ofNat_of_lt (firstSmall.trans_le standard.fits),
    Bytes.toNat_ofNat_of_lt (secondSmall.trans_le standard.fits)]
  dsimp only
  rw [if_pos ⟨long, Nat.pos_of_ne_zero firstNonzero, firstSmall, Nat.pos_of_ne_zero secondNonzero,
    secondSmall⟩, same, point, isFirst]
  exact decide_eq_true rfl

/-- What is signed with the secret number of a key is right under the point of the key. -/
theorem verify_of_sign? {hash : Hash} {seed message signature : Bytes} {secret : Nat}
    (signed : curve.sign? hash secret seed message = some signature) :
    curve.verify hash (curve.times secret curve.base) message signature = true := by
  simp only [sign?, Option.bind_eq_bind, Option.pure_def, Option.bind_eq_some_iff,
    Option.some.injEq] at signed
  obtain ⟨⟨first, second⟩, found, rfl⟩ := signed
  obtain ⟨attempt, -, works⟩ := List.exists_of_findSome?_eq_some found
  exact verify_of_signWith? works

/-! ## A nonce that works -/

variable (curve) in
/-- The first coordinates that a nonce must not lead to. -/
noncomputable def unfit (secret number : Nat) : Finset Nat :=
  let root := (-number / secret : ZMod curve.order).val
  {0, curve.order, root, root + curve.order}

end SessionTokens.Curve
