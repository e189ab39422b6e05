import SessionTokens.Proofs.Request.Field

/-!
# Cookies come back

A cookie that stands in any piece of any cookie header is found under its name,
when no other piece has the name.  Blanks around names and values come off, and
nothing else.
-/

namespace SessionTokens

/-- A name that has only one value has that value, wherever it stands. -/
theorem lookup_eq_some_of_forall {name value : String} {pairs : List (String × String)}
    (inside : (name, value) ∈ pairs) (alone : ∀ pair ∈ pairs, pair.1 = name → pair.2 = value) :
    pairs.lookup name = some value := by
  induction pairs with
  | nil => cases inside
  | cons pair rest ih =>
      by_cases same : pair.1 = name
      · rw [List.lookup_cons, same, beq_self_eq_true]
        exact congrArg some (alone pair List.mem_cons_self same)
      · have back : (name, value) ∈ rest := by
          rcases List.mem_cons.mp inside with rfl | inside
          · exact absurd rfl same
          · exact inside
        rw [List.lookup_cons, beq_false_of_ne (Ne.symm same)]
        exact ih back fun other inside => alone other (List.mem_cons_of_mem _ inside)

namespace Request

variable {name value : String} {piece : List Char}

def cookiePair? (piece : List Char) : Option (String × String) :=
  (Text.splitFirst '=' (Text.trim piece)).map fun (name, value) =>
    (String.ofList (Text.trim name), String.ofList (Text.trimBy (· = '"') (Text.trim value)))

theorem cookiePairs_cookieText {pieces : List (List Char)} (filled : pieces ≠ [])
    (apart : ∀ piece ∈ pieces, ';' ∉ piece) :
    cookiePairs (cookieText pieces) = pieces.filterMap cookiePair? := by
  rw [cookiePairs, cookieText, String.toList_ofList, Text.splitAll_intercalate apart filled]
  rfl

/-- A cookie of plain texts is read from its piece. -/
theorem IsCookie.cookiePair? (plainName : IsPlainText name) (plainValue : IsPlainText value)
    (cookie : IsCookie (name, value) piece) : cookiePair? piece = some (name, value) := by
  obtain ⟨_, _, rfl, ⟨before, between, rfl, blankBefore, blankBetween⟩,
    ⟨behind, after, rfl, blankBehind, blankAfter⟩⟩ := cookie
  simp only at *
  have visible {text : String} (plain : IsPlainText text) :
      ∀ char ∈ text.toList, Text.isBlank char = false := fun char inside =>
    Text.isBlank_eq_false_of_isGraphic (plain.graphic char inside)
  -- The blanks at the ends of the piece come off first.
  have whole : Text.trim (before ++ (name.toList ++ between) ++
      '=' :: (behind ++ (value.toList ++ after))) =
        (name.toList ++ between) ++ '=' :: (behind ++ value.toList) := by
    refine Text.trim_of_isPadded ⟨before, after, by simp, blankBefore, blankAfter⟩ ?_ ?_
    · rw [List.append_assoc]
      exact Text.isBlank_head?_append (visible plainName) plainName.toList_ne_nil _
    · rw [← List.cons_append, ← List.append_assoc]
      exact Text.isBlank_getLast?_append (visible plainValue) plainValue.toList_ne_nil _
  have absent : '=' ∉ name.toList ++ between := by
    rw [List.mem_append, not_or]
    exact ⟨plainName.not_mem (by decide), fun inside =>
      absurd (blankBetween '=' inside) (by decide)⟩
  have key : Text.trim (name.toList ++ between) = name.toList :=
    Text.trim_of_isPadded_of_forall ⟨[], between, rfl, nofun, blankBetween⟩ (visible plainName)
  have content : Text.trim (behind ++ value.toList) = value.toList :=
    Text.trim_of_isPadded_of_forall ⟨behind, [], by simp, blankBehind, nofun⟩
      (visible plainValue)
  have unquoted : Text.trimBy (· = '"') value.toList = value.toList :=
    Text.trimBy_of_forall fun char inside => by
      simpa using fun same : char = '"' => plainValue.not_mem (by decide) (same ▸ inside)
  rw [Request.cookiePair?, whole, Text.splitFirst_append absent]
  simp only [Option.map_some, key, content, unquoted, String.ofList_toList]

/-- What is read from a piece under a name stands there under the name. -/
theorem isNamed_of_cookiePair? (read : cookiePair? piece = some (name, value)) :
    IsNamed name piece := by
  obtain ⟨⟨front, back⟩, split, same⟩ := Option.map_eq_some_iff.mp read
  obtain ⟨rfl, -⟩ := Prod.mk.inj same
  obtain ⟨joined, absent⟩ := Text.splitFirst_eq_some split
  obtain ⟨before, after, whole, blankBefore, blankAfter⟩ := Text.isPadded_trim piece
  have inner : Text.IsPadded (Text.trim front) (before ++ front) :=
    (Text.isPadded_trim front).blanks_append blankBefore
  refine ⟨before ++ front, back ++ after, ?_, ?_, by rwa [String.toList_ofList]⟩
  · rw [whole, joined]
    simp
  · rw [List.mem_append, not_or]
    exact ⟨fun inside => absurd (blankBefore '=' inside) (by decide), absent⟩

/-- The name that a piece has is what stands trimmed before its first `=`. -/
theorem IsNamed.splitFirst (named : IsNamed name piece) (plain : IsPlainText name) :
    (Text.splitFirst '=' piece).map (fun parts => Text.trim parts.1) = some name.toList := by
  obtain ⟨before, after, rfl, absent, padded⟩ := named
  have trimmed := Text.trim_of_isPadded_of_forall padded fun char inside =>
    Text.isBlank_eq_false_of_isGraphic (plain.graphic char inside)
  rw [Text.splitFirst_append absent, Option.map_some, trimmed]

theorem CarriesCookies.plain_cookieText {request : Request} {cookies : List (String × String)}
    {headers : List (List (List Char))} (carried : request.CarriesCookies cookies headers)
    {pieces : List (List Char)} (header : pieces ∈ headers) :
    ∀ char ∈ (cookieText pieces).toList, Text.isGraphic char = true ∨ char = ' ' := by
  intro char inside
  rw [cookieText, String.toList_ofList] at inside
  rcases Text.mem_intercalate inside with rfl | ⟨piece, member, inside⟩
  · exact .inl (by decide)
  · exact carried.plain pieces header piece member char inside

/-- Every cookie of plain texts that a request carries is found. -/
theorem CarriesCookies.cookie? {request : Request} {cookies : List (String × String)}
    {headers : List (List (List Char))} (carried : request.CarriesCookies cookies headers)
    (plain : ∀ cookie ∈ cookies, IsPlainText cookie.1 ∧ IsPlainText cookie.2)
    (apart : ∀ cookie ∈ cookies, cookie.1 = name → cookie.2 = value)
    (inside : (name, value) ∈ cookies) : request.cookie? name = some value := by
  have texts : (request.values "cookie").filterMap fieldText? = headers.map cookieText := by
    rw [carried.written, List.filterMap_map, ← List.filterMap_eq_map]
    refine List.filterMap_congr fun pieces header => fieldText?_ofString ?_
    exact carried.plain_cookieText header
  rw [Request.cookie?, texts]
  refine lookup_eq_some_of_forall ?_ ?_
  · obtain ⟨pieces, header, piece, member, cookie⟩ := carried.present (name, value) inside
    obtain ⟨plainName, plainValue⟩ := plain _ inside
    refine List.mem_flatMap.mpr ⟨cookieText pieces, List.mem_map_of_mem header, ?_⟩
    rw [cookiePairs_cookieText (carried.filled pieces header) (carried.apart pieces header)]
    exact List.mem_filterMap.mpr ⟨piece, member, cookie.cookiePair? plainName plainValue⟩
  · rintro ⟨key, found⟩ member rfl
    obtain ⟨text, written, member⟩ := List.mem_flatMap.mp member
    obtain ⟨pieces, header, rfl⟩ := List.mem_map.mp written
    rw [cookiePairs_cookieText (carried.filled pieces header) (carried.apart pieces header)]
      at member
    obtain ⟨piece, member, read⟩ := List.mem_filterMap.mp member
    rcases carried.others pieces header piece member with ⟨cookie, known, isCookie⟩ | foreign
    · obtain ⟨plainName, plainValue⟩ := plain cookie known
      have same := isCookie.cookiePair? plainName plainValue
      rw [read] at same
      cases same
      exact apart cookie known rfl
    · exact absurd (isNamed_of_cookiePair? read) (foreign (key, value) inside)

end Request

end SessionTokens
