import Mathlib.FieldTheory.Finite.Basic
import SessionTokens.Number.Certificate

/-!
# Certified numbers are prime

Squaring and halving computes powers modulo a number.  When two powers of 2 are
as a certificate says, every prime divisor of the number exceeds the product of
the known primes, and so the root of the number.
-/

namespace SessionTokens

/-! ## Powers modulo a number -/

theorem powMod_eq (bits base exponent modulus : Nat) (fits : exponent < 2 ^ bits) :
    powMod bits base exponent modulus = base ^ exponent % modulus := by
  induction bits generalizing base exponent with
  | zero =>
      have zero : exponent = 0 := by simpa using fits
      rw [powMod, zero, pow_zero]
  | succ bits ih =>
      have half : exponent / 2 < 2 ^ bits := by
        rw [pow_succ] at fits
        omega
      have squared : (base * base % modulus) ^ (exponent / 2) % modulus =
          base ^ (2 * (exponent / 2)) % modulus := by
        rw [← Nat.pow_mod, pow_mul, sq]
      simp only [powMod, ih _ _ half, squared]
      have parts := Nat.div_add_mod exponent 2
      split
      · next zero => rw [zero, pow_zero]
      split
      · next odd =>
          rw [odd] at parts
          conv_rhs => rw [← parts]
          rw [Nat.mul_mod_mod, pow_succ']
      · next even =>
          have parts : 2 * (exponent / 2) = exponent := by omega
          rw [parts]

theorem powerMod_eq (base exponent modulus : Nat) :
    powerMod base exponent modulus = base ^ exponent % modulus :=
  powMod_eq _ _ _ _ Nat.lt_log2_self

theorem powerMod_lt {modulus : Nat} (positive : 0 < modulus) (base exponent : Nat) :
    powerMod base exponent modulus < modulus := by
  rw [powerMod_eq]
  exact Nat.mod_lt _ positive

/-- A power modulo a number as a power of the residue. -/
theorem natCast_powerMod (base exponent modulus : Nat) :
    (powerMod base exponent modulus : ZMod modulus) = (base : ZMod modulus) ^ exponent := by
  rw [powerMod_eq, ZMod.natCast_mod, Nat.cast_pow]

/-! ## Certificates -/

namespace PrimeCertificate

theorem prime_of_isSmallPrime {number : Nat} (small : isSmallPrime number = true) :
    number.Prime := by
  simp only [isSmallPrime, Bool.and_eq_true, decide_eq_true_eq, List.all_eq_true, List.mem_range,
    Bool.or_eq_true] at small
  obtain ⟨⟨above, below⟩, undivided⟩ := small
  by_contra composite
  have divides := number.minFac_dvd
  have least := Nat.minFac_sq_le_self (by omega) composite
  have prime := Nat.minFac_prime (n := number) (by omega)
  have bound : number.minFac < 1000 := by nlinarith
  have smaller : number.minFac < number := by nlinarith [prime.two_le]
  have rest := Nat.mod_eq_zero_of_dvd divides
  have found := undivided number.minFac bound
  have := prime.two_le
  omega

/-- What a power has to be apart from 1 for, so that the order of the base has a prime in it. -/
theorem dvd_of_pow {group : Type*} [Monoid group] {base : group} {factor number : Nat}
    (prime : factor.Prime) (divides : factor ∣ number) (whole : base ^ number = 1)
    (part : base ^ (number / factor) ≠ 1) : factor ∣ orderOf base := by
  obtain ⟨rest, same⟩ := orderOf_dvd_of_pow_eq_one whole
  rcases (Nat.Prime.dvd_mul prime).mp (same ▸ divides) with inOrder | ⟨other, inRest⟩
  · exact inOrder
  · refine absurd (orderOf_dvd_iff_pow_eq_one.mp ⟨other, ?_⟩) part
    rw [same, inRest, Nat.mul_left_comm, Nat.mul_div_cancel_left _ prime.pos]

/-- A prime for which two powers of 2 are as they should divides each prime divisor less one. -/
theorem dvd_pred_of_powers {number divisor factor : Nat} [known : Fact divisor.Prime]
    (above : 1 < number) (inside : divisor ∣ number) (prime : factor.Prime)
    (divides : factor ∣ number - 1) (whole : powerMod 2 (number - 1) number = 1)
    (apart : Nat.gcd (powerMod 2 ((number - 1) / factor) number + (number - 1)) number = 1) :
    factor ∣ divisor - 1 := by
  have power (exponent : Nat) :
      ((powerMod 2 exponent number : Nat) : ZMod divisor) = 2 ^ exponent := by
    rw [powerMod_eq, ← ZMod.natCast_mod, Nat.mod_mod_of_dvd _ inside, ZMod.natCast_mod]
    push_cast
    rfl
  have one : (2 : ZMod divisor) ^ (number - 1) = 1 := by
    rw [← power, whole, Nat.cast_one]
  have nonzero : (2 : ZMod divisor) ≠ 0 := by
    intro zero
    rw [zero, zero_pow (by omega)] at one
    exact zero_ne_one one
  refine (dvd_of_pow prime divides one ?_).trans (ZMod.orderOf_dvd_card_sub_one nonzero)
  intro same
  have common : divisor ∣ powerMod 2 ((number - 1) / factor) number + (number - 1) := by
    rw [← ZMod.natCast_eq_zero_iff, Nat.cast_add, power, same, Nat.cast_sub above.le,
      (ZMod.natCast_eq_zero_iff _ _).mpr inside]
    simp
  exact known.out.one_lt.ne' (Nat.dvd_one.mp (apart ▸ Nat.dvd_gcd common inside))

theorem product_eq_prod (factors : List Nat) : product factors = factors.prod :=
  List.prod_eq_foldr.symm

theorem prime_of_powersShow {number : Nat} {factors : List Nat}
    (primes : ∀ factor ∈ factors, factor.Prime) (shown : powersShow number factors = true) :
    number.Prime := by
  simp only [powersShow, product_eq_prod, Bool.and_eq_true, decide_eq_true_eq, List.all_eq_true]
    at shown
  obtain ⟨⟨⟨⟨⟨above, distinct⟩, divides⟩, large⟩, whole⟩, apart⟩ := shown
  by_contra composite
  have prime := Nat.minFac_prime (n := number) (by omega)
  have least := Nat.minFac_sq_le_self (by omega) composite
  have inside := number.minFac_dvd
  generalize number.minFac = divisor at prime least inside
  have : Fact divisor.Prime := ⟨prime⟩
  have eachDivides (factor : Nat) (listed : factor ∈ factors) : factor ∣ divisor - 1 :=
    dvd_pred_of_powers above inside (primes factor listed)
      ((List.dvd_prod listed).trans (Nat.dvd_of_mod_eq_zero divides)) whole (apart factor listed)
  have product : factors.prod ∣ divisor - 1 := by
    rw [← List.map_id factors, ← List.prod_toFinset _ distinct]
    exact Finset.prod_primes_dvd _
      (fun factor listed => (primes factor (List.mem_toFinset.mp listed)).prime)
      fun factor listed => eachDivides factor (List.mem_toFinset.mp listed)
  have smaller : factors.prod < divisor := by
    have := Nat.le_of_dvd (Nat.sub_pos_of_lt prime.one_lt) product
    have := prime.pos
    omega
  refine absurd large (not_lt.mpr ?_)
  calc factors.prod * factors.prod ≤ divisor * divisor := Nat.mul_le_mul smaller.le smaller.le
    _ = divisor ^ 2 := (sq divisor).symm
    _ ≤ number := least

/-- The numbers of a certificate that holds are prime. -/
theorem prime_of_holds {known : List Nat} {certificate : PrimeCertificate}
    (primes : ∀ number ∈ known, number.Prime) (sound : holds known certificate = true) :
    ∀ entry ∈ certificate, entry.1.Prime := by
  induction certificate generalizing known with
  | nil => nofun
  | cons entry rest ih =>
      obtain ⟨number, factors⟩ := entry
      rw [holds, Bool.and_eq_true, Bool.or_eq_true, Bool.and_eq_true] at sound
      have first : number.Prime := by
        rcases sound.1 with small | ⟨listed, shown⟩
        · exact prime_of_isSmallPrime small
        · refine prime_of_powersShow (fun factor inside => primes factor ?_) shown
          exact List.contains_iff_mem.mp (List.all_eq_true.mp listed factor inside)
      exact List.forall_mem_cons.mpr
        ⟨first, ih (List.forall_mem_cons.mpr ⟨first, primes⟩) sound.2⟩

end PrimeCertificate

end SessionTokens
