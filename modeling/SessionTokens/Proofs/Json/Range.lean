import SessionTokens.Json.Exact
import SessionTokens.Proofs.Decimal.Shortest
import SessionTokens.Proofs.Json.Number

/-!
# Written numbers are in range

A number is read with two roundings, and each may lead up.  The text of a finite
number is so near to it that both roundings together stay in range, except perhaps
at the two greatest numbers, which are read back one by one.
-/

namespace SessionTokens.Json

open Binary64 (overflow)

/-! ## Powers of ten -/

theorem cast_pow_ten (power : Nat) : ((Nat.pow 10 power : Nat) : ℚ) = 10 ^ power := by
  rw [Nat.pow_eq, Nat.cast_pow, Nat.cast_ofNat]

theorem cast_steps (places : Nat) :
    ((18014398509481983 * Nat.pow 2 places : Nat) : ℚ) = (2 ^ 54 - 1) * 2 ^ (places : ℤ) := by
  rw [Nat.pow_eq, Nat.cast_mul, Nat.cast_pow, Nat.cast_ofNat, zpow_natCast]
  congr 1
  norm_num

theorem steps_le_pow {places power : Nat}
    (sizes : 18014398509481983 * Nat.pow 2 places ≤ Nat.pow 10 power) :
    (2 ^ 54 - 1 : ℚ) * 2 ^ (places : ℤ) ≤ 10 ^ power := by
  rw [← cast_steps, ← cast_pow_ten]
  exact Nat.cast_le.mpr sizes

theorem pow_lt_steps {places power : Nat}
    (sizes : Nat.pow 10 power < 18014398509481983 * Nat.pow 2 places) :
    (10 : ℚ) ^ power < (2 ^ 54 - 1) * 2 ^ (places : ℤ) := by
  rw [← cast_steps, ← cast_pow_ten]
  exact Nat.cast_lt.mpr sizes

theorem overflow_le_pow : overflow ≤ 10 ^ 309 :=
  @steps_le_pow 970 309 (by decide +kernel)

theorem pow_lt_overflow {power : Nat} (small : power ≤ 308) : (10 : ℚ) ^ power < overflow :=
  (pow_le_pow_right₀ (by norm_num) small).trans_lt (@pow_lt_steps 970 308 (by decide +kernel))

theorem powerOfTen_bounds {power : Nat} (small : power ≤ 308) :
    (10 ^ power / 2 : ℚ) ≤ (powerOfTen power).magnitude ∧
      (powerOfTen power).magnitude ≤ 10 ^ power * (1 + 2 ^ (-53 : ℤ)) := by
  have fits : ((Nat.pow 10 power : Nat) : ℚ) / (1 : Nat) < overflow := by
    simpa using pow_lt_overflow small
  have made : Binary64.ofInt (Nat.pow 10 power : Nat) ≠ none :=
    Binary64.ofRatio_ne_none Nat.one_pos fits
  obtain ⟨number, made⟩ := Option.ne_none_iff_exists'.mp made
  have bounds := Binary64.magnitude_ofInt made
  rw [powerOfTen, made, Option.getD_some]
  simpa using bounds

theorem five_le_powerOfTen {power : Nat} (up : 1 ≤ power) (small : power ≤ 308) :
    5 ≤ (powerOfTen power).magnitude := by
  have ten : (10 : ℚ) ≤ 10 ^ power := le_self_pow₀ (by norm_num) (by omega)
  have least := (powerOfTen_bounds small).1
  linarith

/-! ## Scaling by powers of ten -/

theorem word_lt_overflow : (2 : ℚ) ^ 66 < overflow :=
  lt_trans (by norm_num) (@pow_lt_overflow 20 (by decide))

/-- No downward scaling of a word is out of range. -/
theorem scaleTen_ne_none_of_nonpos {number : Binary64} {power : ℤ} (down : power ≤ 0)
    (small : number.magnitude ≤ 2 ^ 65) (steps : Nat) : scaleTen steps number power ≠ none := by
  induction steps generalizing number power with
  | zero => nofun
  | succ steps ih =>
      have inside : number.magnitude < overflow :=
        small.trans_lt (lt_trans (by norm_num) word_lt_overflow)
      rw [scaleTen]
      split
      · next near =>
          split
          · have still : power.natAbs = 0 := by omega
            have one := (powerOfTen_bounds near).2
            rw [still] at one ⊢
            have twice : (powerOfTen 0).magnitude ≤ 2 := one.trans (by norm_num)
            refine Binary64.mul_ne_none (lt_of_le_of_lt ?_ word_lt_overflow)
            calc number.magnitude * (powerOfTen 0).magnitude
                ≤ 2 ^ 65 * 2 := mul_le_mul small twice (Binary64.magnitude_nonneg _) (by norm_num)
              _ = 2 ^ 66 := by norm_num
          · have five := five_le_powerOfTen (show 1 ≤ power.natAbs by omega) near
            obtain ⟨quotient, made, -⟩ := Binary64.exists_div (le_trans (by norm_num) five) inside
            rw [made]
            nofun
      · next far =>
          split
          · nofun
          · rw [if_neg (by omega)]
            -- A step down divides by more than four, so that a rounding does not lead up.
            have five := five_le_powerOfTen (show 1 ≤ 308 by decide) (Nat.le_refl 308)
            obtain ⟨quotient, made, bound⟩ :=
              Binary64.exists_div (le_trans (by norm_num) five) inside
            have less : quotient.magnitude ≤ 2 ^ 65 := by
              have shrunk : number.magnitude / (powerOfTen 308).magnitude ≤ 2 ^ 65 / 5 := by
                gcongr
              norm_num at shrunk ⊢
              linarith
            rw [made, Option.bind_some]
            exact ih (by omega) less

/-- A word times a power of ten is in range if it is so with what two roundings may add. -/
theorem scaleTen_ne_none {word : Nat} {number : Binary64} {power : ℤ}
    (fits : word ≤ Decimal.maxWord64) (made : Binary64.ofInt word = some number)
    (small : 0 < power → word * 10 ^ power * (1 + 2 ^ (-53 : ℤ)) ^ 2 < overflow) (steps : Nat) :
    scaleTen (steps + 1) number power ≠ none := by
  have above := (Binary64.magnitude_ofInt made).2
  rcases le_or_gt power 0 with down | up
  · refine scaleTen_ne_none_of_nonpos down (above.trans ?_) _
    have wide : (word : ℚ) ≤ 18446744073709551615 := by exact_mod_cast fits
    norm_num
    linarith
  · have small := small up
    obtain ⟨count, rfl⟩ := Int.eq_ofNat_of_zero_le up.le
    rw [zpow_natCast] at small
    rw [scaleTen, Int.natAbs_natCast]
    split
    · next near =>
        rw [if_pos up.le]
        refine Binary64.mul_ne_none (lt_of_le_of_lt ?_ small)
        calc number.magnitude * (powerOfTen count).magnitude
            ≤ (word * (1 + 2 ^ (-53 : ℤ))) * (10 ^ count * (1 + 2 ^ (-53 : ℤ))) := by
              gcongr
              · exact Binary64.magnitude_nonneg _
              · exact (powerOfTen_bounds near).2
          _ = word * 10 ^ count * (1 + 2 ^ (-53 : ℤ)) ^ 2 := by ring
    · next far =>
        rcases Nat.eq_zero_or_pos word with rfl | filled
        · cases made
          nofun
        · exfalso
          have one : (1 : ℚ) ≤ word := by exact_mod_cast filled
          have large : (10 : ℚ) ^ 309 ≤ 10 ^ count := pow_le_pow_right₀ (by norm_num) (by omega)
          have reached : (10 : ℚ) ^ 309 ≤ word * 10 ^ count * (1 + 2 ^ (-53 : ℤ)) ^ 2 := by
            calc (10 : ℚ) ^ 309
                ≤ 10 ^ count := large
              _ = 1 * 10 ^ count * 1 := by ring
              _ ≤ word * 10 ^ count * (1 + 2 ^ (-53 : ℤ)) ^ 2 := by
                gcongr
                norm_num
          exact absurd (reached.trans_lt small) (not_lt.mpr overflow_le_pow)

/-! ## Digits taken into a word -/

theorem pow_mul_le_ofDigits (start : Nat) (text : List Char) :
    start * 10 ^ text.length ≤ Decimal.ofDigits start text := by
  induction text generalizing start with
  | nil => simp [Decimal.ofDigits]
  | cons char rest ih =>
      calc start * 10 ^ (rest.length + 1)
          = start * 10 * 10 ^ rest.length := by ring
        _ ≤ (start * 10 + (char.toNat - 48)) * 10 ^ rest.length := by
          gcongr
          exact Nat.le_add_right _ _
        _ ≤ Decimal.ofDigits start (char :: rest) := ih _

/-- What is taken of digits fits a word, and it is not more than the digits say. -/
theorem takeWord_bounds {word : Nat} (fits : word ≤ Decimal.maxWord64) (text : List Char) :
    (takeWord word text).1 ≤ Decimal.maxWord64 ∧
      (takeWord word text).2.1 + (takeWord word text).2.2.length = text.length ∧
      (takeWord word text).1 * 10 ^ (takeWord word text).2.2.length ≤
        Decimal.ofDigits word text := by
  induction text generalizing word with
  | nil => exact ⟨fits, rfl, by simp [takeWord, Decimal.ofDigits]⟩
  | cons char rest ih =>
      rw [takeWord]
      split
      · next within =>
          have taken := ih within
          generalize takeWord (word * 10 + (char.toNat - 48)) rest = parts at taken ⊢
          obtain ⟨word, count, left⟩ := parts
          obtain ⟨inside, count, below⟩ := taken
          refine ⟨inside, ?_, below⟩
          simp only [List.length_cons] at count ⊢
          omega
      · exact ⟨fits, by simp, pow_mul_le_ofDigits _ _⟩

/-- Digits that fit a word are all taken. -/
theorem takeWord_of_fits {word : Nat} {text : List Char}
    (fits : Decimal.ofDigits word text ≤ Decimal.maxWord64) :
    takeWord word text = (Decimal.ofDigits word text, text.length, []) := by
  induction text generalizing word with
  | nil => rfl
  | cons char rest ih =>
      have one : 1 ≤ 10 ^ rest.length := Nat.one_le_pow _ _ (by decide)
      have next : word * 10 + (char.toNat - 48) ≤ Decimal.maxWord64 :=
        (Nat.le_mul_of_pos_right _ one).trans ((pow_mul_le_ofDigits _ rest).trans fits)
      rw [takeWord]
      simp only [next, if_true, ih fits]
      rfl

/-! ## Numerals -/

/-- A numeral is in range if its whole part fits a word, and its size what two roundings may add. -/
theorem Numeral.float?_ne_none {numeral : Numeral}
    (short : Decimal.ofDigits 0 numeral.whole ≤ Decimal.maxWord64)
    (small : 0 < numeral.exponent.getD 0 →
      (Decimal.ofDigits 0 (numeral.whole ++ numeral.fraction.getD []) : ℚ) *
        10 ^ (numeral.exponent.getD 0 - ((numeral.fraction.getD []).length : ℤ)) *
          (1 + 2 ^ (-53 : ℤ)) ^ 2 < overflow) : numeral.float? ≠ none := by
  obtain ⟨negative, whole, fraction, exponent⟩ := numeral
  dsimp only at short small
  have bounds := takeWord_bounds short (fraction.getD [])
  rw [float?]
  simp only [takeWord_of_fits short]
  generalize takeWord (Decimal.ofDigits 0 whole) (fraction.getD []) = taken at bounds ⊢
  obtain ⟨word, places, left⟩ := taken
  obtain ⟨fits, count, below⟩ := bounds
  dsimp only at fits count below ⊢
  have wide : (word : ℚ) ≤ 18446744073709551615 := by exact_mod_cast fits
  have inside : (word : ℚ) / (1 : Nat) < overflow := by
    refine lt_trans ?_ word_lt_overflow
    rw [Nat.cast_one, div_one]
    linarith
  obtain ⟨magnitude, made⟩ := Option.ne_none_iff_exists'.mp
    (show Binary64.ofInt word ≠ none from Binary64.ofRatio_ne_none Nat.one_pos inside)
  have scaled : scaleTen 4 magnitude (exponent.getD 0 - places) ≠ none := by
    refine scaleTen_ne_none fits made (fun up => lt_of_le_of_lt ?_ (small (by omega))) 3
    have digits : Decimal.ofDigits 0 (whole ++ fraction.getD []) =
        Decimal.ofDigits (Decimal.ofDigits 0 whole) (fraction.getD []) := List.foldl_append
    have taken : (word * 10 ^ left.length : ℚ) ≤
        Decimal.ofDigits 0 (whole ++ fraction.getD []) := by
      rw [digits]
      exact_mod_cast below
    have power : exponent.getD 0 - places =
        (left.length : ℤ) + (exponent.getD 0 - (fraction.getD []).length) := by omega
    rw [power, zpow_add₀ (by norm_num), zpow_natCast, ← mul_assoc]
    gcongr
  obtain ⟨result, scaled⟩ := Option.ne_none_iff_exists'.mp scaled
  simp [made, scaled]

theorem ofDigits_lt {text : List Char} (digits : ∀ char ∈ text, Decimal.isDigit char = true)
    (start : Nat) : Decimal.ofDigits start text < (start + 1) * 10 ^ text.length := by
  induction text generalizing start with
  | nil => simp [Decimal.ofDigits]
  | cons char rest ih =>
      have digit : char.toNat - 48 ≤ 9 := by
        have inside := digits char List.mem_cons_self
        rw [Decimal.isDigit, decide_eq_true_eq, Char.le_def, Char.le_def,
          UInt32.le_iff_toNat_le, UInt32.le_iff_toNat_le] at inside
        have most : char.toNat ≤ 57 := inside.2
        omega
      calc Decimal.ofDigits start (char :: rest)
          < (start * 10 + (char.toNat - 48) + 1) * 10 ^ rest.length :=
            ih (fun other inside => digits other (List.mem_cons_of_mem char inside)) _
        _ ≤ (start + 1) * 10 * 10 ^ rest.length := Nat.mul_le_mul_right _ (by omega)
        _ = (start + 1) * 10 ^ (rest.length + 1) := by ring

/-- Up to sixteen digits fit a word. -/
theorem ofDigits_le_word {text : List Char} (digits : ∀ char ∈ text, Decimal.isDigit char = true)
    (short : text.length ≤ 16) : Decimal.ofDigits 0 text ≤ Decimal.maxWord64 := by
  have below := ofDigits_lt digits 0
  have few : 10 ^ text.length ≤ 10 ^ 16 := Nat.pow_le_pow_right (by decide) short
  have fits : 10 ^ 16 ≤ Decimal.maxWord64 := by decide
  omega

/-! ## Spelled floating-point numbers -/

namespace Spelling

def Padded (spelling : Spelling) : Prop :=
  spelling.whole.head? = some '0' ∧ 1 < spelling.whole.length

/-- Whether a spelling is read, and two roundings cannot lead out of range. -/
structure InRange (spelling : Spelling) : Prop where
  plain : ¬ spelling.Padded
  short : Decimal.ofDigits 0 spelling.whole ≤ Decimal.maxWord64
  small : 0 < spelling.numeral.exponent.getD 0 →
    (Decimal.ofDigits 0 (spelling.whole ++ spelling.fraction.getD []) : ℚ) *
      10 ^ (spelling.numeral.exponent.getD 0 - ((spelling.fraction.getD []).length : ℤ)) *
        (1 + 2 ^ (-53 : ℤ)) ^ 2 < overflow

theorem InRange.value?_ne_none {spelling : Spelling} (inside : spelling.InRange) :
    spelling.value? ≠ none := by
  obtain ⟨number, reads⟩ := Option.ne_none_iff_exists'.mp
    (@Numeral.float?_ne_none spelling.numeral inside.short inside.small)
  rw [value?, if_neg (by exact inside.plain), Numeral.value?, reads, Option.map_some,
    ← apply_ite some]
  exact Option.some_ne_none _

theorem inRange_zero : (zero floatLayout).InRange :=
  ⟨by simp [Padded, zero], by decide, by simp [zero, numeral]⟩

/-- Sixteen digits before the point at most, and no zero in front of other digits. -/
theorem whole_positional {decimal : Decimal.Scientific}
    (filled : decimal.coefficient = 0 → decimal.exponent = 0)
    (short : decimal.exponent + (Decimal.digits decimal.coefficient).length - 1 ≤ 15) :
    ¬ (positional floatLayout decimal).Padded ∧
      (positional floatLayout decimal).whole.length ≤ 16 := by
  have some := Decimal.digits_ne_nil decimal.coefficient
  have zero := @Decimal.eq_zero_of_head_digits decimal.coefficient
  have alone : decimal.coefficient = 0 → (Decimal.digits decimal.coefficient).length = 1 := by
    intro empty
    rw [empty]
    rfl
  rw [Padded, positional]
  generalize Decimal.digits decimal.coefficient = text at short some zero alone ⊢
  have long : 1 ≤ text.length := List.length_pos_iff.mpr some
  by_cases large : 0 ≤ decimal.exponent
  · rw [if_pos large]
    simp only [List.length_append, List.length_replicate]
    refine ⟨?_, by omega⟩
    rintro ⟨head, more⟩
    rw [List.head?_append_of_ne_nil _ some] at head
    have empty := zero head
    have still := filled empty
    have one := alone empty
    omega
  · rw [if_neg large]
    dsimp only
    rcases Nat.lt_or_ge (-decimal.exponent).toNat text.length with many | few
    · -- The point stands between digits, and nothing is padded.
      have none : (-decimal.exponent).toNat + 1 - text.length = 0 := by omega
      rw [none, List.replicate_zero, List.nil_append, List.length_take]
      refine ⟨?_, by omega⟩
      rintro ⟨head, more⟩
      rw [List.head?_take, if_neg (by omega)] at head
      have still := filled (zero head)
      omega
    · -- One zero stands before the point.
      rw [List.length_take, List.length_append, List.length_replicate]
      constructor
      · rintro ⟨head, more⟩
        omega
      · omega

theorem exponential_parts (decimal : Decimal.Scientific) :
    (exponential decimal).whole.length ≤ 1 ∧
      (exponential decimal).whole ++ (exponential decimal).fraction.getD [] =
        Decimal.digits decimal.coefficient ∧
      (exponential decimal).numeral.exponent.getD 0 -
        (((exponential decimal).fraction.getD []).length : ℤ) = decimal.exponent := by
  have fraction : (exponential decimal).fraction.getD [] =
      (Decimal.digits decimal.coefficient).drop 1 := by
    rw [exponential]
    cases (Decimal.digits decimal.coefficient).drop 1 <;> rfl
  have long : 1 ≤ (Decimal.digits decimal.coefficient).length :=
    List.length_pos_iff.mpr (Decimal.digits_ne_nil _)
  refine ⟨List.length_take_le _ _, ?_, ?_⟩
  · rw [fraction]
    exact List.take_append_drop 1 _
  · rw [fraction, numeral, exponential]
    simp only [Option.map_some, Option.getD_some, Decimal.ofDigits_digits, Binary64.signed,
      List.length_drop, decide_eq_true_eq]
    split <;> omega

end Spelling

/-! ## Finite numbers -/

/-- The two greatest numbers of either sign read back, though their texts may be above them. -/
theorem readNumber_greatest (negative : Bool) :
    ∀ below < 2, readNumber (floatLayout.write ⟨negative, Nat.pow 2 53 - 1 - below, 971⟩) ≠ none := by
  cases negative <;> decide +kernel

/-- All other numbers leave room for two roundings. -/
theorem near_lt_overflow {number : Binary64} (sized : number.isSized = true)
    (smaller : number.exponent = 971 → number.mantissa < Nat.pow 2 53 - 2)
    {decimal : Decimal.Scientific} (near : Decimal.Near number decimal) :
    decimal.value * (1 + 2 ^ (-53 : ℤ)) ^ 2 < overflow := by
  obtain ⟨mantissa, -, exponent⟩ := of_decide_eq_true sized
  have half : (0 : ℚ) < 2 ^ ((970 : Nat) : ℤ) := by positivity
  have inside : (number.mantissa + 1 / 2 : ℚ) * 2 ^ number.exponent ≤
      18014398509481979 * 2 ^ ((970 : Nat) : ℤ) := by
    rcases eq_or_lt_of_le exponent with top | below
    · have most : (number.mantissa : ℚ) ≤ 9007199254740989 := by
        exact_mod_cast Nat.le_of_lt_succ (smaller top)
      rw [top, show (971 : ℤ) = 1 + ((970 : Nat) : ℤ) from rfl, zpow_add₀ two_ne_zero, zpow_one,
        ← mul_assoc]
      gcongr
      linarith
    · have most : (number.mantissa : ℚ) ≤ 9007199254740991 := by
        exact_mod_cast Nat.le_of_lt_succ mantissa
      have power : (2 : ℚ) ^ number.exponent ≤ 2 ^ ((970 : Nat) : ℤ) :=
        zpow_le_zpow_right₀ one_le_two (by omega)
      gcongr
      linarith
  have room : (18014398509481979 : ℚ) * (1 + 2 ^ (-53 : ℤ)) ^ 2 < 2 ^ 54 - 1 := by norm_num
  calc decimal.value * (1 + 2 ^ (-53 : ℤ)) ^ 2
      ≤ 18014398509481979 * 2 ^ ((970 : Nat) : ℤ) * (1 + 2 ^ (-53 : ℤ)) ^ 2 := by
        gcongr
        exact near.bounded.trans inside
    _ = 18014398509481979 * (1 + 2 ^ (-53 : ℤ)) ^ 2 * 2 ^ ((970 : Nat) : ℤ) := by ring
    _ < overflow := by
        rw [overflow]
        gcongr

namespace Spelling

theorem inRange_positional {decimal : Decimal.Scientific}
    (filled : decimal.coefficient = 0 → decimal.exponent = 0)
    (short : decimal.exponent + (Decimal.digits decimal.coefficient).length - 1 ≤ 15) :
    (positional floatLayout decimal).InRange := by
  obtain ⟨plain, few⟩ := whole_positional filled short
  refine ⟨plain, ofDigits_le_word (sound_positional _ _).whole.2 few, fun up => ?_⟩
  -- No power of ten is written.
  rw [positional] at up
  split at up <;> cases up

theorem inRange_exponential {decimal : Decimal.Scientific}
    (small : decimal.value * (1 + 2 ^ (-53 : ℤ)) ^ 2 < overflow) :
    (exponential decimal).InRange := by
  obtain ⟨one, digits, power⟩ := exponential_parts decimal
  refine ⟨fun padded => ?_, ofDigits_le_word (sound_exponential _).whole.2 (by omega), fun _ => ?_⟩
  · exact absurd padded.2 (by omega)
  · rw [digits, power, Decimal.ofDigits_digits]
    exact small

theorem inRange_ofFloat {number : Binary64} (sized : number.isSized = true)
    (smaller : number.exponent = 971 → number.mantissa < Nat.pow 2 53 - 2) :
    (ofFloat floatLayout number).InRange := by
  have unsigned : (unsignedFloat floatLayout number).InRange := by
    rw [unsignedFloat]
    by_cases zeros : number.isZero = true
    · rw [if_pos zeros]
      exact inRange_zero
    · rw [if_neg zeros]
      have near := Decimal.near_shortest (Bool.eq_false_iff.mpr zeros)
      dsimp only
      split
      · next short => exact inRange_positional near.filled short.2
      · exact inRange_exponential (near_lt_overflow sized smaller near)
  exact ⟨unsigned.plain, unsigned.short, unsigned.small⟩

end Spelling

/-- The text of a finite number is read as a number. -/
theorem readNumber_float_ne_none {number : Binary64} (sized : number.isSized = true) :
    readNumber (floatLayout.write number) ≠ none := by
  by_cases greatest : number.exponent = 971 ∧ Nat.pow 2 53 - 2 ≤ number.mantissa
  · obtain ⟨negative, mantissa, exponent⟩ := number
    obtain ⟨top, least⟩ := greatest
    have most : mantissa < Nat.pow 2 53 := (of_decide_eq_true sized).1
    have same : mantissa = Nat.pow 2 53 - 1 - (Nat.pow 2 53 - 1 - mantissa) := by omega
    dsimp only at top least
    rw [top, same]
    exact readNumber_greatest negative _ (by omega)
  · have inside := Spelling.inRange_ofFloat sized fun top => by omega
    have read := readNumber_text (Spelling.sound_ofFloat floatLayout number) Delimited.nil
    rw [List.append_nil, Spelling.text_ofFloat] at read
    rw [read]
    exact fun lost => inside.value?_ne_none (Option.map_eq_none_iff.mp lost)

end SessionTokens.Json
