import SessionTokens.Text.Base64

/-!
# Base64 reads back

The URL-safe digits of octets read back as the octets, and no text with a dot is
one of digits, so that dots can stand between the parts of a token.
-/

namespace SessionTokens.Base64

/-- Every number below 64 is the value of its digit. -/
theorem value?_digit {value : Nat} (small : value < 64) :
    urlSafe.value? (urlSafe.digit value) = some value := by
  have all : ∀ value < 64, urlSafe.value? (urlSafe.digit value) = some value := by decide
  exact all value small

/-- A number of an octet's size stands for that octet. -/
theorem ofNat_eq_of_toNat {octet : UInt8} {number : Nat} (same : number = octet.toNat) :
    UInt8.ofNat number = octet := by
  rw [same, UInt8.ofNat_toNat]

/-- Reading is the inverse of writing. -/
theorem decode?_encode (octets : Bytes) :
    decode? urlSafe (encode urlSafe octets) = some octets := by
  fun_induction encode urlSafe octets with
  | case1 => rfl
  | case2 a =>
      have small := a.toNat_lt
      have first : a.toNat / 4 < 64 := by omega
      have second : a.toNat % 4 * 16 < 64 := by omega
      have unused : a.toNat % 4 * 16 % 16 = 0 := by omega
      have whole : a.toNat / 4 * 4 + a.toNat % 4 * 16 / 16 = a.toNat := by omega
      simp only [decode?, value?_digit first, value?_digit second, Option.bind_eq_bind,
        Option.bind_some, unused, ↓reduceIte, ofNat_eq_of_toNat whole]
      rfl
  | case3 a b =>
      have smallA := a.toNat_lt
      have smallB := b.toNat_lt
      have first : a.toNat / 4 < 64 := by omega
      have second : a.toNat % 4 * 16 + b.toNat / 16 < 64 := by omega
      have third : b.toNat % 16 * 4 < 64 := by omega
      have unused : b.toNat % 16 * 4 % 4 = 0 := by omega
      have wholeA :
          a.toNat / 4 * 4 + (a.toNat % 4 * 16 + b.toNat / 16) / 16 = a.toNat := by omega
      have wholeB :
          (a.toNat % 4 * 16 + b.toNat / 16) % 16 * 16 + b.toNat % 16 * 4 / 4 = b.toNat := by
        omega
      simp only [decode?, value?_digit first, value?_digit second, value?_digit third,
        Option.bind_eq_bind, Option.bind_some, unused, ↓reduceIte, ofNat_eq_of_toNat wholeA,
        ofNat_eq_of_toNat wholeB]
      rfl
  | case4 a b c rest ih =>
      have smallA := a.toNat_lt
      have smallB := b.toNat_lt
      have smallC := c.toNat_lt
      have first : a.toNat / 4 < 64 := by omega
      have second : a.toNat % 4 * 16 + b.toNat / 16 < 64 := by omega
      have third : b.toNat % 16 * 4 + c.toNat / 64 < 64 := by omega
      have fourth : c.toNat % 64 < 64 := by omega
      have wholeA :
          a.toNat / 4 * 4 + (a.toNat % 4 * 16 + b.toNat / 16) / 16 = a.toNat := by omega
      have wholeB :
          (a.toNat % 4 * 16 + b.toNat / 16) % 16 * 16 +
            (b.toNat % 16 * 4 + c.toNat / 64) / 4 = b.toNat := by
        omega
      have wholeC :
          (b.toNat % 16 * 4 + c.toNat / 64) % 4 * 64 + c.toNat % 64 = c.toNat := by omega
      simp only [decode?, value?_digit first, value?_digit second, value?_digit third,
        value?_digit fourth, Option.bind_eq_bind, Option.bind_some, ih,
        ofNat_eq_of_toNat wholeA, ofNat_eq_of_toNat wholeB, ofNat_eq_of_toNat wholeC]
      rfl

/-- A text that reads as octets is one of digits. -/
theorem isSome_value?_of_decode? {text : List Char} {octets : Bytes}
    (read : decode? urlSafe text = some octets) :
    ∀ digit ∈ text, (urlSafe.value? digit).isSome = true := by
  fun_induction decode? urlSafe text generalizing octets with
  | case1 => nofun
  | case2 => cases read
  | case3 w x =>
      simp only [Option.bind_eq_bind, Option.bind_eq_some_iff] at read
      obtain ⟨first, firstRead, second, secondRead, -⟩ := read
      simp [firstRead, secondRead]
  | case4 w x y =>
      simp only [Option.bind_eq_bind, Option.bind_eq_some_iff] at read
      obtain ⟨first, firstRead, second, secondRead, third, thirdRead, -⟩ := read
      simp [firstRead, secondRead, thirdRead]
  | case5 w x y z rest ih =>
      simp only [Option.bind_eq_bind, Option.bind_eq_some_iff] at read
      obtain ⟨first, firstRead, second, secondRead, third, thirdRead, fourth, fourthRead, tail,
        tailRead, -⟩ := read
      simpa [firstRead, secondRead, thirdRead, fourthRead] using ih tailRead

theorem dot_not_mem_of_decode? {text : List Char} {octets : Bytes}
    (read : decode? urlSafe text = some octets) : '.' ∉ text := by
  intro inside
  have digit := isSome_value?_of_decode? read '.' inside
  cases digit

theorem dot_not_mem_encode (octets : Bytes) : '.' ∉ encode urlSafe octets :=
  dot_not_mem_of_decode? (decode?_encode octets)

end SessionTokens.Base64
