import SessionTokens.Proofs.Request.Field
import SessionTokens.Proofs.Text.Utf8
import SessionTokens.Text.Percent

/-!
# Escapes are read back

What percent encoding escapes is read back as it was.  An escape that stands in
the text already is read as one too, unless the encoding escapes its mark.
-/

namespace SessionTokens.Percent

def isHexOctet (octet : UInt8) : Bool := (Bytes.hexValue? (Char.ofNat octet.toNat)).isSome

/-- Whether the mark of an escape stands somewhere with two digits behind it. -/
def HasEscape (octets : Bytes) : Prop :=
  ∃ before high low after, octets = before ++ 37 :: high :: low :: after ∧
    isHexOctet high = true ∧ isHexOctet low = true

def shield (escaped : UInt8 → Bool) (octets : Bytes) : Bytes :=
  octets.flatMap fun octet => if escaped octet then Utf8.encode (escape octet) else [octet]

/-! ## Single escapes -/

theorem hexValue?_digit {value : Nat} (small : value < 16) :
    Bytes.hexValue? (Char.ofNat (UInt8.ofNat (digit value).toNat).toNat) = some value := by
  revert value
  decide

theorem encode_escape (octet : UInt8) :
    Utf8.encode (escape octet) =
      [37, UInt8.ofNat (digit (octet.toNat / 16)).toNat,
        UInt8.ofNat (digit (octet.toNat % 16)).toNat] := by
  have ascii : ∀ value < 16, (digit value).toNat < 128 := by decide
  have high : octet.toNat / 16 < 16 := by have := octet.toNat_lt; omega
  refine Utf8.encode_of_ascii fun char inside => ?_
  rw [escape, List.mem_cons, List.mem_cons, List.mem_singleton] at inside
  rcases inside with rfl | rfl | rfl
  · decide
  · exact ascii _ high
  · exact ascii _ (Nat.mod_lt _ (by decide))

theorem decode_escape (octet : UInt8) (rest : Bytes) :
    decode (Utf8.encode (escape octet) ++ rest) = octet :: decode rest := by
  have high : octet.toNat / 16 < 16 := by have := octet.toNat_lt; omega
  have low : octet.toNat % 16 < 16 := Nat.mod_lt _ (by decide)
  rw [encode_escape]
  simp only [List.cons_append, List.nil_append, decode, hexValue?_digit high, hexValue?_digit low]
  rw [Nat.div_add_mod', UInt8.ofNat_toNat]

/-! ## Escapes among octets -/

/-- What begins no escape: anything but a mark in front of two digits. -/
def Plain (octet : UInt8) (rest : Bytes) : Prop :=
  ∀ high low after, octet = 37 → rest = high :: low :: after →
    ¬ (isHexOctet high = true ∧ isHexOctet low = true)

/-- An octet that begins no escape stays as it is. -/
theorem decode_plain {octet : UInt8} {rest : Bytes} (plain : Plain octet rest) :
    decode (octet :: rest) = octet :: decode rest := by
  rw [decode.eq_def]
  split
  · next high low after same =>
      cases same
      split
      · next highRead lowRead =>
          exact absurd ⟨by rw [isHexOctet, highRead]; rfl, by rw [isHexOctet, lowRead]; rfl⟩
            (plain high low after rfl rfl)
      · rfl
  · next same =>
      cases same
      rfl
  · next same => cases same

/-- A mark and two digits become one octet. -/
theorem exists_decode_escape {high low : UInt8} (highDigit : isHexOctet high = true)
    (lowDigit : isHexOctet low = true) :
    ∃ octet, ∀ rest, decode (37 :: high :: low :: rest) = octet :: decode rest := by
  obtain ⟨highValue, highRead⟩ := Option.isSome_iff_exists.mp highDigit
  obtain ⟨lowValue, lowRead⟩ := Option.isSome_iff_exists.mp lowDigit
  exact ⟨_, fun rest => by simp only [decode, highRead, lowRead]; rfl⟩

/-- Octets are read escape by escape. -/
theorem induction_on_escapes {motive : Bytes → Prop} (octets : Bytes) (nil : motive [])
    (escape : ∀ high low rest, isHexOctet high = true → isHexOctet low = true → motive rest →
      motive (37 :: high :: low :: rest))
    (plain : ∀ octet rest, Plain octet rest → motive rest → motive (octet :: rest)) :
    motive octets := by
  induction octets using decode.induct with
  | case1 high low rest highValue lowValue lowRead highRead ih =>
      exact escape high low rest (by rw [isHexOctet, highRead]; rfl)
        (by rw [isHexOctet, lowRead]; rfl) ih
  | case2 high low rest other ih =>
      refine plain 37 _ ?_ ih
      rintro _ _ _ - same ⟨highDigit, lowDigit⟩
      cases same
      obtain ⟨highValue, highRead⟩ := Option.isSome_iff_exists.mp highDigit
      obtain ⟨lowValue, lowRead⟩ := Option.isSome_iff_exists.mp lowDigit
      exact other highValue lowValue highRead lowRead
  | case3 octet rest short ih =>
      exact plain octet rest (fun high low after mark same _ => short high low after mark same) ih
  | case4 => exact nil

theorem shield_cons (escaped : UInt8 → Bool) (octet : UInt8) (rest : Bytes) :
    shield escaped (octet :: rest) =
      (if escaped octet then Utf8.encode (escape octet) else [octet]) ++ shield escaped rest :=
  List.flatMap_cons

/-- An escape begins with its mark, so that a digit in front is there from the beginning. -/
theorem exists_of_shield_eq {escaped : UInt8 → Bool} {octets after : Bytes} {octet : UInt8}
    (same : shield escaped octets = octet :: after) (digit : isHexOctet octet = true) :
    ∃ rest, octets = octet :: rest ∧ shield escaped rest = after := by
  cases octets with
  | nil => cases same
  | cons head rest =>
      rw [shield_cons] at same
      split at same
      · rw [encode_escape] at same
        cases same
        exact absurd digit (by decide)
      · cases same
        exact ⟨rest, rfl, rfl⟩

theorem Plain.shield {octet : UInt8} {rest : Bytes} (plain : Plain octet rest)
    (escaped : UInt8 → Bool) : Plain octet (shield escaped rest) := by
  rintro high low after mark same ⟨highDigit, lowDigit⟩
  obtain ⟨others, rfl, behind⟩ := exists_of_shield_eq same highDigit
  obtain ⟨rest, rfl, -⟩ := exists_of_shield_eq behind lowDigit
  exact plain high low rest mark rfl ⟨highDigit, lowDigit⟩

/-- Escaping neither the mark nor digits does not change what is read. -/
theorem decode_shield {escaped : UInt8 → Bool} (mark : escaped 37 = false)
    (digits : ∀ octet, isHexOctet octet = true → escaped octet = false) (octets : Bytes) :
    decode (shield escaped octets) = decode octets := by
  induction octets using induction_on_escapes with
  | nil => rfl
  | escape high low rest highDigit lowDigit ih =>
      obtain ⟨octet, reads⟩ := exists_decode_escape highDigit lowDigit
      simp only [shield_cons, mark, digits high highDigit, digits low lowDigit, Bool.false_eq_true,
        if_false, List.cons_append, List.nil_append, reads, ih]
  | plain octet rest plain ih =>
      rw [shield_cons, decode_plain plain]
      split
      · rw [decode_escape, ih]
      · rw [List.singleton_append, decode_plain (plain.shield escaped), ih]

/-- Decoding never adds an octet. -/
theorem length_decode_le (octets : Bytes) : (decode octets).length ≤ octets.length := by
  induction octets using induction_on_escapes with
  | nil => exact Nat.le_refl _
  | escape high low rest highDigit lowDigit ih =>
      obtain ⟨octet, reads⟩ := exists_decode_escape highDigit lowDigit
      rw [reads]
      simp only [List.length_cons]
      omega
  | plain octet rest plain ih =>
      rw [decode_plain plain]
      exact Nat.succ_le_succ ih

/-- Decoding changes octets exactly when there is an escape. -/
theorem decode_eq_self_iff {octets : Bytes} : decode octets = octets ↔ ¬ HasEscape octets := by
  induction octets using induction_on_escapes with
  | nil => exact iff_of_true rfl fun ⟨before, _, _, _, same, _⟩ => by cases before <;> cases same
  | escape high low rest highDigit lowDigit ih =>
      refine iff_of_false (fun same => ?_)
        fun free => free ⟨[], high, low, rest, rfl, highDigit, lowDigit⟩
      obtain ⟨octet, reads⟩ := exists_decode_escape highDigit lowDigit
      have shorter := length_decode_le rest
      have length := congrArg List.length same
      rw [reads] at length
      simp only [List.length_cons] at length
      omega
  | plain octet rest plain ih =>
      rw [decode_plain plain, List.cons.injEq, eq_self, true_and, ih, not_iff_not]
      constructor
      · rintro ⟨before, high, low, after, rfl, digits⟩
        exact ⟨octet :: before, high, low, after, rfl, digits⟩
      · rintro ⟨before, high, low, after, same, digits⟩
        cases before with
        | nil =>
            cases same
            exact absurd digits (plain high low after rfl rfl)
        | cons _ before =>
            cases same
            exact ⟨before, high, low, after, rfl, digits⟩

/-! ## Escapes in a text -/

theorem lt_of_mem_encodeChar {char : Char} (foreign : 127 < char.toNat) {octet : UInt8}
    (inside : octet ∈ String.utf8EncodeChar char) : 127 < octet.toNat := by
  have bound := Utf8.toNat_valid char
  simp only [Char.toNat] at foreign bound
  simp only [String.utf8EncodeChar] at inside
  split at inside
  · omega
  split at inside
  · simp only [List.mem_cons, List.not_mem_nil, or_false] at inside
    rcases inside with rfl | rfl <;> simp <;> omega
  split at inside
  · simp only [List.mem_cons, List.not_mem_nil, or_false] at inside
    rcases inside with rfl | rfl | rfl <;> simp <;> omega
  · simp only [List.mem_cons, List.not_mem_nil, or_false] at inside
    rcases inside with rfl | rfl | rfl | rfl <;> simp <;> omega

theorem encode_escaped (octets : Bytes) :
    Utf8.encode (octets.flatMap escape) = octets.flatMap fun octet => Utf8.encode (escape octet) :=
  List.flatMap_assoc

/-- A text is escaped octet by octet when everything outside ASCII is. -/
theorem encode_encode {escaped : Char → Bool}
    (foreign : ∀ char, 127 < char.toNat → escaped char = true) (text : List Char) :
    Utf8.encode (encode escaped text) =
      shield (fun octet => escaped (Char.ofNat octet.toNat)) (Utf8.encode text) := by
  rw [encode, Utf8.encode, shield, Utf8.encode, List.flatMap_assoc, List.flatMap_assoc]
  refine List.flatMap_congr fun char _ => ?_
  by_cases ascii : char.toNat ≤ 127
  · have single : String.utf8EncodeChar char = [UInt8.ofNat char.toNat] := if_pos ascii
    have code : (UInt8.ofNat char.toNat).toNat = char.toNat := Utf8.toNat_ofNat_of_lt (by omega)
    rw [single, List.flatMap_singleton, List.flatMap_singleton, code, Char.ofNat_toNat]
    split
    · rfl
    · exact List.flatMap_singleton _ _ ▸ single
  · rw [if_pos (foreign char (Nat.lt_of_not_le ascii))]
    refine (encode_escaped _).trans (List.flatMap_congr fun octet inside => ?_)
    have high := lt_of_mem_encodeChar (Nat.lt_of_not_le ascii) inside
    have code : (Char.ofNat octet.toNat).toNat = octet.toNat := by
      have bound := octet.toNat_lt
      rw [Char.ofNat, dif_pos (.inl (by omega))]
      rfl
    rw [if_pos (foreign _ (code.symm ▸ high))]

/-- Only the empty text is escaped to the empty text. -/
theorem encode_eq_nil_iff {escaped : Char → Bool} {text : List Char} :
    encode escaped text = [] ↔ text = [] := by
  cases text with
  | nil => exact iff_of_true rfl rfl
  | cons char rest =>
      refine iff_of_false (fun empty => ?_) (List.cons_ne_nil char rest)
      rw [encode, List.flatMap_cons, List.append_eq_nil_iff] at empty
      have first := empty.1
      split at first
      · cases octets : String.utf8EncodeChar char with
        | nil => exact String.utf8EncodeChar_ne_nil octets
        | cons octet others =>
            rw [octets] at first
            cases first
      · cases first

end SessionTokens.Percent
