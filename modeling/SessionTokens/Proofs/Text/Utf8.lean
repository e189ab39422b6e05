import SessionTokens.Text.Utf8

/-!
# UTF-8 reads back

The octets of a text read back as the text.  One character takes one to four
octets; the first says how many follow and, at the ends of the ranges, which
octets may come second.
-/

namespace SessionTokens.Utf8

theorem toNat_ofNat_of_lt {number : Nat} (small : number < 256) :
    (UInt8.ofNat number).toNat = number :=
  (UInt8.toNat_ofNat').trans (Nat.mod_eq_of_lt small)

/-- Inside a character an octet of the range adds six bits. -/
theorem read_inside {owed low high bits octet : Nat} (small : octet < 256)
    (above : low ≤ octet) (below : octet ≤ high) (rest : Bytes) :
    read (.inside owed low high bits) (UInt8.ofNat octet :: rest) =
      match owed with
      | 0 => some (Char.ofNat (bits * 64 + (octet - 0x80))) :: read .start rest
      | owed + 1 => read (.inside owed 0x80 0xBF (bits * 64 + (octet - 0x80))) rest := by
  cases owed with
  | zero => simp only [read, toNat_ofNat_of_lt small, if_pos (And.intro above below)]
  | succ owed => simp only [read, toNat_ofNat_of_lt small, if_pos (And.intro above below)]

/-- The codes of characters leave out the surrogates and end with the last plane. -/
theorem toNat_valid (char : Char) :
    char.toNat < 0xD800 ∨ 0xDFFF < char.toNat ∧ char.toNat < 0x110000 := char.valid

theorem lead_two {octet : Nat} (above : 0xC2 ≤ octet) (below : octet < 0xE0) :
    lead octet = .more (.inside 0 0x80 0xBF (octet - 0xC0)) := by
  simp [lead, show ¬ octet < 0x80 by omega, show ¬ octet < 0xC2 by omega, below]

theorem lead_three {octet : Nat} (above : 0xE0 ≤ octet) (below : octet < 0xF0) :
    lead octet =
      .more (.inside 1 (if octet = 0xE0 then 0xA0 else 0x80) (if octet = 0xED then 0x9F else 0xBF)
        (octet - 0xE0)) := by
  by_cases first : octet = 0xE0
  · subst first; rfl
  · by_cases last : octet = 0xED
    · subst last; rfl
    · simp [lead, show ¬ octet < 0x80 by omega, show ¬ octet < 0xC2 by omega,
        show ¬ octet < 0xE0 by omega, first, last, below]

theorem lead_four {octet : Nat} (above : 0xF0 ≤ octet) (below : octet ≤ 0xF4) :
    lead octet =
      .more (.inside 2 (if octet = 0xF0 then 0x90 else 0x80) (if octet = 0xF4 then 0x8F else 0xBF)
        (octet - 0xF0)) := by
  have cases : octet = 0xF0 ∨ octet = 0xF1 ∨ octet = 0xF2 ∨ octet = 0xF3 ∨ octet = 0xF4 := by
    omega
  rcases cases with rfl | rfl | rfl | rfl | rfl <;> rfl

/-- The octets of one character read back as that character. -/
theorem read_encodeChar (char : Char) (rest : Bytes) :
    read .start (String.utf8EncodeChar char ++ rest) = some char :: read .start rest := by
  have valid := toNat_valid char
  have code : char.val.toNat = char.toNat := rfl
  rw [String.utf8EncodeChar, code]
  generalize number : char.toNat = value at valid ⊢
  have whole : Char.ofNat value = char := by rw [← number, Char.ofNat_toNat]
  by_cases one : value ≤ 0x7F
  · rw [if_pos one, List.singleton_append, read, toNat_ofNat_of_lt (by omega), lead,
      if_pos (by omega), whole]
  rw [if_neg one]
  by_cases two : value ≤ 0x7FF
  · rw [if_pos two, List.cons_append, List.singleton_append, read,
      toNat_ofNat_of_lt (by omega), lead_two (by omega) (by omega)]
    simp only
    rw [read_inside (by omega) (by omega) (by omega)]
    simp only
    rw [show (value / 64 % 0x20 + 0xc0 - 0xC0) * 64 + (value % 0x40 + 0x80 - 0x80) = value by
      omega, whole]
  rw [if_neg two]
  by_cases three : value ≤ 0xFFFF
  · rw [if_pos three]
    simp only [List.cons_append, List.nil_append]
    rw [read, toNat_ofNat_of_lt (by omega), lead_three (by omega) (by omega)]
    simp only
    rw [read_inside (by omega) (by split <;> omega) (by split <;> omega)]
    simp only
    rw [read_inside (by omega) (by omega) (by omega)]
    simp only
    rw [show ((value / 4096 % 0x10 + 0xe0 - 0xE0) * 64 + (value / 64 % 0x40 + 0x80 - 0x80)) * 64 +
      (value % 0x40 + 0x80 - 0x80) = value by omega, whole]
  · rw [if_neg three]
    simp only [List.cons_append, List.nil_append]
    rw [read, toNat_ofNat_of_lt (by omega), lead_four (by omega) (by omega)]
    simp only
    rw [read_inside (by omega) (by split <;> omega) (by split <;> omega)]
    simp only
    rw [read_inside (by omega) (by omega) (by omega)]
    simp only
    rw [read_inside (by omega) (by omega) (by omega)]
    simp only
    rw [show (((value / 262144 % 0x08 + 0xf0 - 0xF0) * 64 + (value / 4096 % 0x40 + 0x80 - 0x80)) *
      64 + (value / 64 % 0x40 + 0x80 - 0x80)) * 64 + (value % 0x40 + 0x80 - 0x80) = value by
      omega, whole]

theorem read_encode (text : List Char) : read .start (encode text) = text.map some := by
  induction text with
  | nil => rfl
  | cons char text ih =>
      change read .start (String.utf8EncodeChar char ++ encode text) = _
      rw [read_encodeChar, ih, List.map_cons]

/-- Reading is the inverse of writing. -/
theorem decode?_encode (text : List Char) : decode? (encode text) = some text := by
  rw [decode?, read_encode]
  induction text with
  | nil => rfl
  | cons char text ih => simp [List.mapM_cons, ih]

theorem encode_injective {left right : List Char} (same : encode left = encode right) :
    left = right := by
  have read := decode?_encode left
  rw [same, decode?_encode] at read
  exact (Option.some.inj read).symm

theorem ofString_ne_nil {text : String} (filled : text ≠ "") : ofString text ≠ [] := by
  intro empty
  exact filled (String.toList_inj.mp (encode_injective empty))

end SessionTokens.Utf8
