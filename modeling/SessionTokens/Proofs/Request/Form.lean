import SessionTokens.Proofs.Request.Cookie
import SessionTokens.Proofs.Text.Utf8

/-!
# Forms are read

The parameters of a form are read one by one.  A plain text is the same in a form
and behind it: it holds no escape, no blank and no separator.
-/

namespace SessionTokens

variable {name value text : String}

/-! ## Plain octets -/

/-- The octet of a character that is not plain does not stand in a plain text. -/
theorem IsPlainText.octet_not_mem (plain : IsPlainText text) {octet : UInt8}
    (outside : Text.isPlain (Char.ofNat octet.toNat) = false) : octet ∉ Utf8.ofString text := by
  have ascii : ∀ char ∈ text.toList, char.toNat < 128 := fun char inside => by
    have bounds := Text.isGraphic_iff.mp (plain.graphic char inside)
    omega
  intro inside
  rw [Utf8.ofString, Utf8.encode_of_ascii ascii] at inside
  obtain ⟨char, member, rfl⟩ := List.mem_map.mp inside
  have code : (UInt8.ofNat char.toNat).toNat = char.toNat :=
    Utf8.toNat_ofNat_of_lt (Nat.lt_trans (ascii char member) (by decide))
  rw [code, Char.ofNat_toNat, plain.chars char member] at outside
  cases outside

namespace Percent

theorem splitAll_eq_splitOn (separator : UInt8) (octets : Bytes) :
    splitAll separator octets = octets.splitOn separator := by
  induction octets with
  | nil => rfl
  | cons octet rest ih =>
      rw [splitAll, ih, List.splitOn_cons_eq_if_modifyHead]
      by_cases same : octet = separator
      · simp [same]
      · simp only [same, if_false, beq_iff_eq]
        cases parts : rest.splitOn separator with
        | nil => exact absurd parts (List.splitOn_ne_nil separator rest)
        | cons part parts => rfl

/-- Octets without an escape stay as they are. -/
theorem decode_of_not_mem {octets : Bytes} (absent : 37 ∉ octets) : decode octets = octets := by
  induction octets with
  | nil => rfl
  | cons octet rest ih =>
      rw [List.mem_cons, not_or] at absent
      obtain ⟨differs, others⟩ := absent
      rw [decode, ih others]
      rintro high low tail same
      exact absurd same.symm differs

theorem decodeFormPart_ofString (plain : IsPlainText text) :
    decodeFormPart (Utf8.ofString text) = text := by
  have spaced : (Utf8.ofString text).map (fun octet => if octet = 43 then 32 else octet) =
      Utf8.ofString text := by
    refine (List.map_congr_left fun octet inside => if_neg ?_).trans (List.map_id _)
    rintro rfl
    exact plain.octet_not_mem (by decide) inside
  rw [decodeFormPart, spaced, decode_of_not_mem (plain.octet_not_mem (by decide)), Utf8.decodeLossy,
    Utf8.ofString, Utf8.read_encode, List.map_map]
  change String.ofList (text.toList.map id) = text
  rw [List.map_id, String.ofList_toList]

def formPair (part : Bytes) : String × String :=
  let name := part.takeWhile (· ≠ 61)
  (decodeFormPart name, decodeFormPart (part.drop (name.length + 1)))

/-- Parameters between ampersands are read in their order; empty ones do not count. -/
theorem decodeForm_intercalate {parts : List Bytes} (apart : ∀ part ∈ parts, 38 ∉ part)
    (filled : parts ≠ []) :
    decodeForm ([38].intercalate parts) =
      parts.filterMap fun part => if part.isEmpty then none else some (formPair part) := by
  rw [decodeForm, splitAll_eq_splitOn, List.splitOn_intercalate 38 apart filled]
  rfl

theorem ofString_joined (name value : String) :
    Utf8.ofString (name ++ "=" ++ value) = Utf8.ofString name ++ 61 :: Utf8.ofString value := by
  simp only [Utf8.ofString, Utf8.encode, String.toList_append, List.flatMap_append,
    List.append_assoc]
  rfl

theorem not_mem_joined {octet : UInt8} (plainName : IsPlainText name)
    (plainValue : IsPlainText value) (outside : Text.isPlain (Char.ofNat octet.toNat) = false)
    (differs : octet ≠ 61) : octet ∉ Utf8.ofString (name ++ "=" ++ value) := by
  rw [ofString_joined, List.mem_append, List.mem_cons, not_or, not_or]
  exact ⟨plainName.octet_not_mem outside, differs, plainValue.octet_not_mem outside⟩

theorem formPair_ofString (plainName : IsPlainText name) (plainValue : IsPlainText value) :
    formPair (Utf8.ofString (name ++ "=" ++ value)) = (name, value) := by
  have key : (Utf8.ofString (name ++ "=" ++ value)).takeWhile (· ≠ 61) = Utf8.ofString name := by
    rw [ofString_joined, List.takeWhile_append_of_pos, List.takeWhile_cons_of_neg (by simp),
      List.append_nil]
    intro octet inside
    simpa using fun same : octet = 61 => plainName.octet_not_mem (by decide) (same ▸ inside)
  have content : (Utf8.ofString (name ++ "=" ++ value)).drop ((Utf8.ofString name).length + 1) =
      Utf8.ofString value := by
    rw [ofString_joined, List.append_cons]
    exact List.drop_left' (by simp)
  rw [formPair, key, content, decodeFormPart_ofString plainName,
    decodeFormPart_ofString plainValue]

end Percent

/-- A plain value that stands in a form under a plain name is found there. -/
theorem Request.InForm.lookup {octets : Bytes} (inForm : InForm name value octets)
    (plainName : IsPlainText name) (plainValue : IsPlainText value) :
    (Percent.decodeForm octets).lookup name = some value := by
  obtain ⟨front, back, rfl, others⟩ := inForm
  set part := Utf8.ofString (name ++ "=" ++ value) with partEq
  have read : Percent.formPair part = (name, value) :=
    Percent.formPair_ofString plainName plainValue
  have joined : part ∈ front ++ part :: back := List.mem_append_right _ List.mem_cons_self
  have filled : ¬ part.isEmpty = true := by simp [partEq, Percent.ofString_joined]
  have foreign {other : Bytes} (member : other ∈ front ++ part :: back) (differs : other ≠ part) :
      38 ∉ other ∧ Percent.decodeFormPart (other.takeWhile (· ≠ 61)) ≠ name := by
    refine others other ?_
    simpa [differs] using member
  have apart : ∀ other ∈ front ++ part :: back, 38 ∉ other := by
    intro other member
    by_cases same : other = part
    · exact same ▸ Percent.not_mem_joined plainName plainValue (by decide) (by decide)
    · exact (foreign member same).1
  rw [Percent.decodeForm_intercalate apart (List.ne_nil_of_mem joined)]
  refine lookup_eq_some_of_forall ?_ ?_
  · exact List.mem_filterMap.mpr ⟨part, joined, by rw [if_neg filled, read]⟩
  · rintro pair listed named
    obtain ⟨other, member, found⟩ := List.mem_filterMap.mp listed
    by_cases empty : other.isEmpty = true
    · rw [if_pos empty] at found
      cases found
    · rw [if_neg empty] at found
      cases found
      by_cases same : other = part
      · rw [same, read]
      · exact absurd named (foreign member same).2

end SessionTokens
