import SessionTokens.Proofs.Outcome
import SessionTokens.Proofs.Text.Blank
import SessionTokens.Proofs.Text.Split
import SessionTokens.Proofs.Token.Alphabet
import SessionTokens.Session.Engine

/-!
# Tokens in header values

Graphic ASCII passes through a header value as it is.  What stands there behind
the name of the scheme and one blank is the token that the header hands out.
-/

namespace SessionTokens

theorem Utf8.encode_of_ascii {text : List Char} (ascii : ∀ char ∈ text, char.toNat < 128) :
    encode text = text.map fun char => UInt8.ofNat char.toNat := by
  induction text with
  | nil => rfl
  | cons char rest ih =>
      have small : char.toNat ≤ 127 := Nat.le_of_lt_succ (ascii char List.mem_cons_self)
      have single : String.utf8EncodeChar char = [UInt8.ofNat char.toNat] := if_pos small
      have others := ih fun other inside => ascii other (List.mem_cons_of_mem _ inside)
      rw [encode, List.flatMap_cons, single, List.map_cons, ← others]
      rfl

theorem Text.toNat_ofNat_of_ascii {code : Nat} (ascii : code < 128) :
    (Char.ofNat code).toNat = code := by
  have valid : code.isValidChar := .inl (by omega)
  rw [Char.ofNat, dif_pos valid]
  rfl

namespace Request

/-- Whether all characters of a text are printable ASCII or tabs. -/
def IsFieldText (text : String) : Prop :=
  ∀ char ∈ text.toList, char.toNat = 9 ∨ 32 ≤ char.toNat ∧ char.toNat < 127

theorem isTextOctet_iff {octet : UInt8} :
    isTextOctet octet = true ↔ octet.toNat = 9 ∨ 32 ≤ octet.toNat ∧ octet.toNat < 127 := by
  simp [isTextOctet, ← UInt8.toNat_inj]

/-- Octets of text are those in which the text that they are read as is written. -/
theorem ofString_of_isTextOctet {value : Bytes} (allText : value.all isTextOctet = true) :
    ∃ text, IsFieldText text ∧ Utf8.ofString text = value ∧
      text = String.ofList (value.map fun octet => Char.ofNat octet.toNat) := by
  have bounds (octet) (inside : octet ∈ value) :=
    isTextOctet_iff.mp (List.all_eq_true.mp allText octet inside)
  have same (octet) (inside : octet ∈ value) : (Char.ofNat octet.toNat).toNat = octet.toNat := by
    refine Text.toNat_ofNat_of_ascii ?_
    have bound := bounds octet inside
    omega
  refine ⟨_, fun char inside => ?_, ?_, rfl⟩
  · rw [String.toList_ofList, List.mem_map] at inside
    obtain ⟨octet, inside, rfl⟩ := inside
    rw [same octet inside]
    exact bounds octet inside
  · rw [Utf8.ofString, String.toList_ofList, Utf8.encode_of_ascii, List.map_map]
    · refine (List.map_congr_left fun octet inside => ?_).trans (List.map_id _)
      rw [Function.comp_apply, same octet inside, UInt8.ofNat_toNat]
      rfl
    · intro char inside
      obtain ⟨octet, member, rfl⟩ := List.mem_map.mp inside
      have bound := bounds octet member
      rw [same octet member]
      omega

/-- A text of printable ASCII and tabs is read back from the octets it is written in. -/
theorem fieldText?_of_isFieldText {text : String} (isText : IsFieldText text) :
    fieldText? (Utf8.ofString text) = some text := by
  have ascii (char) (inside : char ∈ text.toList) : char.toNat < 128 := by
    have bound := isText char inside
    omega
  have octet {char : Char} (inside : char ∈ text.toList) :
      (UInt8.ofNat char.toNat).toNat = char.toNat :=
    UInt8.toNat_ofNat_of_lt' (Nat.lt_trans (ascii char inside) (by decide))
  have encoded : Utf8.ofString text = text.toList.map fun char => UInt8.ofNat char.toNat :=
    Utf8.encode_of_ascii ascii
  have allText : (Utf8.ofString text).all isTextOctet = true := by
    rw [encoded, List.all_map, List.all_eq_true]
    intro char inside
    rw [Function.comp_apply, isTextOctet_iff, octet inside]
    exact isText char inside
  have back : (Utf8.ofString text).map (fun octet => Char.ofNat octet.toNat) = text.toList := by
    rw [encoded, List.map_map]
    refine (List.map_congr_left fun char inside => ?_).trans (List.map_id _)
    rw [Function.comp_apply, octet inside, Char.ofNat_toNat]
    rfl
  rw [fieldText?, if_pos allText, back, String.ofList_toList]

theorem fieldText?_eq_some_iff {value : Bytes} {text : String} :
    fieldText? value = some text ↔ IsFieldText text ∧ Utf8.ofString text = value := by
  constructor
  · intro read
    rw [fieldText?] at read
    split at read
    · next allText =>
        obtain ⟨other, isText, written, same⟩ := ofString_of_isTextOctet allText
        cases read
        exact same ▸ ⟨isText, written⟩
    · cases read
  · rintro ⟨isText, rfl⟩
    exact fieldText?_of_isFieldText isText

end Request

/-- Text of graphic ASCII and blanks is the same before and behind a header value. -/
theorem Request.fieldText?_ofString {text : String}
    (plain : ∀ char ∈ text.toList, Text.isGraphic char = true ∨ char = ' ') :
    fieldText? (Utf8.ofString text) = some text := by
  refine fieldText?_of_isFieldText fun char inside => .inr ?_
  rcases plain char inside with graphic | rfl
  · have bounds := Text.isGraphic_iff.mp graphic
    omega
  · decide

/-- A value with the scheme, one blank and a token hands out the token. -/
theorem TokenSource.ofHeader_joined {scheme token : String}
    (schemeGraphic : ∀ char ∈ scheme.toList, Text.isGraphic char = true)
    (tokenGraphic : ∀ char ∈ token.toList, Text.isGraphic char = true)
    (named : scheme ≠ "") (filled : token ≠ "") :
    ofHeader (some (scheme ++ " " ++ token)) scheme = .ok token := by
  have joined : (scheme ++ " " ++ token).toList = scheme.toList ++ ' ' :: token.toList := by
    simp
  have schemeFilled : scheme.toList ≠ [] := by simpa using named
  have tokenFilled : token.toList ≠ [] := by simpa using filled
  have unspaced : token.toList.head? ≠ some ' ' := fun first =>
    Text.blank_not_mem tokenGraphic (List.mem_of_head? first)
  rw [ofHeader, Option.map_some, joined,
    Text.trim_joined schemeGraphic tokenGraphic schemeFilled tokenFilled,
    Option.filter_some_pos (by simp)]
  simp only [Text.splitFirst_append (Text.blank_not_mem schemeGraphic)]
  rw [if_pos ⟨String.ofList_toList, tokenFilled, unspaced⟩, String.ofList_toList]

/-- A signed token is graphic ASCII, and not empty. -/
theorem Codec.isGraphic_of_signs {codec : Codec} {claims : Claims} {token : String}
    (encoded : codec.Signs claims token) :
    (∀ char ∈ token.toList, Text.isGraphic char = true) ∧ token ≠ "" :=
  have plain := isPlainText_of_signs encoded
  ⟨plain.graphic, plain.filled⟩

/-- The header value with an access token hands out the token. -/
theorem SessionEngine.accessToken_of_field {engine : SessionEngine} {request : Request}
    {token : String} (lookup : engine.config.tokenLookup = .standard)
    (headGraphic : ∀ char ∈ engine.config.headName.toList, Text.isGraphic char = true)
    (named : engine.config.headName ≠ "")
    (tokenGraphic : ∀ char ∈ token.toList, Text.isGraphic char = true) (filled : token ≠ "")
    (carried : request.values "Authorization" =
      [Utf8.ofString (engine.authorizationValue token)]) :
    engine.accessToken request = .ok token := by
  have plain : ∀ char ∈ (engine.authorizationValue token).toList,
      Text.isGraphic char = true ∨ char = ' ' := by
    intro char inside
    simp only [authorizationValue, String.toList_append, List.mem_append] at inside
    rcases inside with (inside | blank) | inside
    · exact .inl (headGraphic char inside)
    · exact .inr (List.mem_singleton.mp blank)
    · exact .inl (tokenGraphic char inside)
  have found : request.header? "Authorization" = some (engine.authorizationValue token) := by
    rw [Request.header?, carried]
    exact Request.fieldText?_ofString plain
  have extracted : TokenLookup.standard.extract request engine.config.headName = .ok token := by
    simp only [TokenLookup.extract, TokenLookup.standard, TokenLookup.extractFrom,
      TokenSource.extract, found, authorizationValue,
      TokenSource.ofHeader_joined headGraphic tokenGraphic named filled]
  rw [accessToken, lookup, extracted]
  rfl

end SessionTokens
