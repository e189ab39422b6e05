import SessionTokens.Proofs.Text.Blank
import SessionTokens.Proofs.Token.Payload
import SessionTokens.Request.Transport

/-!
# The characters of tokens

Tokens are written with the digits of base 64 and with dots.  None of these
characters means anything to headers, cookies, forms or objects.
-/

namespace SessionTokens

namespace Text

variable {char : Char}

theorem isAlphanum_iff : char.isAlphanum = true ↔
    65 ≤ char.toNat ∧ char.toNat ≤ 90 ∨ 97 ≤ char.toNat ∧ char.toNat ≤ 122 ∨
      48 ≤ char.toNat ∧ char.toNat ≤ 57 := by
  have split : char.isAlphanum = ((char.isUpper || char.isLower) || char.isDigit) := rfl
  have upper : char.isUpper = true ↔ 65 ≤ char.toNat ∧ char.toNat ≤ 90 := decide_eq_true_iff
  have lower : char.isLower = true ↔ 97 ≤ char.toNat ∧ char.toNat ≤ 122 :=
    (Bool.and_eq_true _ _).to_iff.trans (and_congr decide_eq_true_iff decide_eq_true_iff)
  rw [split, Bool.or_eq_true, Bool.or_eq_true, upper, lower, Char.isDigit_iff_toNat, or_assoc]
  rfl

/-- Whether a character is a digit of base 64 or a dot. -/
def isPlain (char : Char) : Bool := isNameChar char || char = '.'

theorem isGraphic_of_isPlain (plain : isPlain char = true) : isGraphic char = true := by
  simp only [isPlain, isNameChar, Bool.or_eq_true, decide_eq_true_eq, isAlphanum_iff] at plain
  rcases plain with ((bounds | rfl) | rfl) | rfl
  · exact isGraphic_iff.mpr (by omega)
  all_goals decide

end Text

/-- A text that every transport leaves as it is. -/
structure IsPlainText (text : String) : Prop where
  filled : text ≠ ""
  chars : ∀ char ∈ text.toList, Text.isPlain char = true

instance (text : String) : Decidable (IsPlainText text) :=
  decidable_of_iff (text ≠ "" ∧ text.toList.all Text.isPlain = true)
    ⟨fun ⟨filled, chars⟩ => ⟨filled, List.all_eq_true.mp chars⟩,
      fun plain => ⟨plain.filled, List.all_eq_true.mpr plain.chars⟩⟩

namespace IsPlainText

variable {text : String} (plain : IsPlainText text)

include plain

theorem graphic : ∀ char ∈ text.toList, Text.isGraphic char = true := fun char inside =>
  Text.isGraphic_of_isPlain (plain.chars char inside)

theorem not_mem {char : Char} (outside : Text.isPlain char = false) : char ∉ text.toList :=
  fun inside => Bool.false_ne_true (outside.symm.trans (plain.chars char inside))

theorem toList_ne_nil : text.toList ≠ [] := fun empty => plain.filled (by simpa using empty)

end IsPlainText

theorem IsSourceName.isPlainText {name : String} (named : IsSourceName name) :
    IsPlainText name where
  filled := named.filled
  chars char inside := by rw [Text.isPlain, named.plain char inside, Bool.true_or]

/-! ## Tokens -/

namespace Base64

theorem isNameChar_of_value? {digit : Char} (read : (urlSafe.value? digit).isSome = true) :
    Text.isNameChar digit = true := by
  have letter (bounds : digit.isAlphanum = true) : Text.isNameChar digit = true := by
    rw [Text.isNameChar, bounds, Bool.true_or, Bool.true_or]
  rw [Alphabet.value?] at read
  split at read
  · next upper => exact letter (Text.isAlphanum_iff.mpr (.inl upper))
  split at read
  · next lower => exact letter (Text.isAlphanum_iff.mpr (.inr (.inl lower)))
  split at read
  · next decimal => exact letter (Text.isAlphanum_iff.mpr (.inr (.inr decimal)))
  split at read
  · next dash =>
      subst dash
      decide
  split at read
  · next underscore =>
      subst underscore
      decide
  · cases read

theorem isPlain_of_mem_encode {octets : Bytes} :
    ∀ digit ∈ encode urlSafe octets, Text.isPlain digit = true := fun digit inside => by
  rw [Text.isPlain,
    isNameChar_of_value? (isSome_value?_of_decode? (decode?_encode octets) digit inside),
    Bool.true_or]

end Base64

theorem Codec.isPlainText_of_signs {codec : Codec} {claims : Claims} {token : String}
    (signs : codec.Signs claims token) : IsPlainText token := by
  obtain ⟨key, seed, signature, -, -, rfl⟩ := Codec.exists_signature_of_signs signs
  constructor
  · intro empty
    simpa using congrArg String.toList empty
  · intro char inside
    simp only [Token.signedPart, Token.encodePart, String.toList_ofList, List.mem_append,
      List.mem_cons] at inside
    rcases inside with (header | rfl | claims) | rfl | signature
    · exact Base64.isPlain_of_mem_encode char header
    · decide
    · exact Base64.isPlain_of_mem_encode char claims
    · decide
    · exact Base64.isPlain_of_mem_encode char signature

/-- Only the first octets of a draw are in its refresh token. -/
theorem refreshTokenOf_take (draw : Bytes) :
    refreshTokenOf (draw.take refreshTokenSize) = refreshTokenOf draw := by
  rw [refreshTokenOf, List.take_take, Nat.min_self, refreshTokenOf]

theorem isPlainText_refreshTokenOf {draw : Bytes} (enough : refreshTokenSize ≤ draw.length) :
    IsPlainText (refreshTokenOf draw) where
  filled empty := by
    have none : Base64.encode Base64.urlSafe (draw.take refreshTokenSize) = [] := by
      simpa [refreshTokenOf] using empty
    have back := Base64.decode?_encode (draw.take refreshTokenSize)
    rw [none] at back
    have taken : draw.take refreshTokenSize = [] := (Option.some.inj back).symm
    have length := congrArg List.length taken
    rw [List.length_take_of_le enough] at length
    cases length
  chars := by
    rw [refreshTokenOf, String.toList_ofList]
    exact Base64.isPlain_of_mem_encode

theorem Minted.isPlainText {token : String} (minted : Minted token) : IsPlainText token := by
  cases minted with
  | refresh size => exact isPlainText_refreshTokenOf size.ge
  | access encoded => exact Codec.isPlainText_of_signs encoded

end SessionTokens
