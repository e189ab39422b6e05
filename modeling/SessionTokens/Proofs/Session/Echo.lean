import SessionTokens.Proofs.Request.Precedence
import SessionTokens.Proofs.Session.Trust

/-!
# Echoed authorizations

A validated request is answered with a header value for the next one: the name
of the scheme, a blank and the token.  The value authenticates exactly when the
name can be told from the token again: it begins with a visible character and
has no blank in it, and it is written in ASCII.
-/

namespace SessionTokens

/-- Whether a name can stand before a token in a header value, and be told from it. -/
structure IsScheme (headName : String) : Prop where
  filled : headName ≠ ""
  chars : ∀ char ∈ headName.toList, char = '\t' ∨ Text.isGraphic char = true
  /-- A tab at the front would come off with the blanks around the value. -/
  visible : headName.toList.head? ≠ some '\t'

instance (headName : String) : Decidable (IsScheme headName) :=
  decidable_of_iff (headName ≠ "" ∧
      (headName.toList.all fun char => decide (char = '\t') || Text.isGraphic char) = true ∧
      headName.toList.head? ≠ some '\t')
    ⟨fun ⟨filled, chars, visible⟩ => ⟨filled, by simpa using chars, visible⟩,
      fun scheme => ⟨scheme.filled, by simpa using scheme.chars, scheme.visible⟩⟩

namespace IsScheme

variable {headName token : String}

theorem unspaced (scheme : IsScheme headName) : ' ' ∉ headName.toList := by
  intro inside
  rcases scheme.chars ' ' inside with same | graphic
  · exact absurd same (by decide)
  · exact absurd graphic (by decide)

/-- The name, a blank and a plain token are the text of a header value. -/
theorem isFieldText (scheme : IsScheme headName) (plain : IsPlainText token) :
    Request.IsFieldText (headName ++ " " ++ token) := by
  intro char inside
  simp only [String.toList_append, List.mem_append] at inside
  rcases inside with (inName | inBlank) | inToken
  · rcases scheme.chars char inName with rfl | graphic
    · exact .inl rfl
    · have bounds := Text.isGraphic_iff.mp graphic
      omega
  · cases List.mem_singleton.mp inBlank
    exact .inr (by decide)
  · have bounds := Text.isGraphic_iff.mp (plain.graphic char inToken)
    omega

/-- Nothing comes off the name, a blank and a plain token. -/
theorem trim_joined (scheme : IsScheme headName) (plain : IsPlainText token) :
    Text.trim (headName ++ " " ++ token).toList = headName.toList ++ ' ' :: token.toList := by
  have joined : (headName ++ " " ++ token).toList = headName.toList ++ ' ' :: token.toList := by
    simp
  rw [joined]
  refine Text.trimBy_of_ends ?_ ?_
  · intro char first
    obtain ⟨start, rest, split⟩ := List.exists_cons_of_ne_nil
      (show headName.toList ≠ [] by simpa using scheme.filled)
    have visible := scheme.visible
    have inside : start ∈ headName.toList := by simp [split]
    rw [split] at visible first
    obtain rfl : start = char := Option.some.inj first
    rcases scheme.chars start inside with rfl | graphic
    · exact absurd rfl visible
    · exact Text.isBlank_eq_false_of_isGraphic graphic
  · rw [List.append_cons]
    exact Text.isBlank_getLast?_append
      (fun char inside => Text.isBlank_eq_false_of_isGraphic (plain.graphic char inside))
      plain.toList_ne_nil _

theorem ofHeader_joined (scheme : IsScheme headName) (plain : IsPlainText token) :
    TokenSource.ofHeader (some (headName ++ " " ++ token)) headName = .ok token := by
  refine (TokenSource.ofHeader_eq_ok_iff scheme.unspaced).mpr
    ⟨_, rfl, scheme.trim_joined plain, plain.filled, fun first => ?_⟩
  exact Text.blank_not_mem plain.graphic (List.mem_of_head? first)

end IsScheme

namespace TokenSource

variable {request : Request} {headName name text token : String}

/-- The scheme in a value is what stands before its first blank. -/
theorem unspaced_of_ofHeader {value : Option String} (found : ofHeader value headName = .ok token) :
    ' ' ∉ headName.toList := by
  rw [ofHeader] at found
  split at found
  · cases found
  · split at found
    · next cut =>
        split at found
        · next accepted =>
            rw [← accepted.1, String.toList_ofList]
            exact (Text.splitFirst_eq_some cut).2
        · cases found
    · cases found

/-- Only behind a scheme is a token found in the text of a value. -/
theorem isScheme_of_ofHeader (isText : Request.IsFieldText text)
    (found : ofHeader (some text) headName = .ok token) : IsScheme headName := by
  have unspaced := unspaced_of_ofHeader found
  obtain ⟨_, same, whole, -, -⟩ := (ofHeader_eq_ok_iff unspaced).mp found
  cases same
  have trimmed := Text.isTrimmed_trim text.toList
  obtain ⟨before, after, split, -, -⟩ := trimmed.padded
  rw [whole] at trimmed split
  refine ⟨?_, fun char inside => ?_, fun first => ?_⟩
  · rintro rfl
    exact absurd (trimmed.first ' ' rfl) (by decide)
  · rcases isText char (by rw [split]; simp [inside]) with tab | bounds
    · exact .inl (Char.toNat_inj.mp tab)
    · refine .inr (Text.isGraphic_iff.mpr ⟨?_, bounds.2⟩)
      have apart : char.toNat ≠ 32 := fun same =>
        unspaced ((Char.toNat_inj.mp (show char.toNat = ' '.toNat from same)) ▸ inside)
      omega
  · refine absurd (trimmed.first '\t' ?_) (by decide)
    rw [List.head?_append, first]
    rfl

theorem isScheme_of_extract (found : extract ⟨.header, name⟩ request headName = .ok token) :
    IsScheme headName := by
  rw [extract] at found
  cases value : request.header? name with
  | none =>
      rw [value] at found
      cases found
  | some text =>
      rw [value] at found
      exact isScheme_of_ofHeader (Request.header?_eq_some_iff.mp value).1 found

end TokenSource

namespace TokenLookup

variable {lookup : TokenLookup} {request : Request} {headName token : String}

/-- When all sources that find a token find the same one, the lookup finds it. -/
theorem extract_of_agreement
    (agree : ∀ source ∈ lookup.sources,
      source.extract request headName = .ok token ∨ source.Fails request headName)
    {source : TokenSource} (inside : source ∈ lookup.sources)
    (found : source.extract request headName = .ok token) :
    lookup.extract request headName = .ok token := by
  cases outcome : lookup.extract request headName with
  | ok other =>
      obtain ⟨front, first, back, split, -, foundFirst⟩ := exists_split_of_extractFrom outcome
      rcases agree first (by simp [split]) with same | ⟨error, failed⟩
      · rw [← same, foundFirst]
      · cases foundFirst.symm.trans failed
  | error error =>
      obtain ⟨fault, failed⟩ := fails_of_extractFrom outcome inside
      cases found.symm.trans failed

/-- When no source finds a token, neither does the lookup. -/
theorem exists_extract_error
    (fail : ∀ source ∈ lookup.sources, source.Fails request headName) :
    ∃ error, lookup.extract request headName = .error error := by
  cases outcome : lookup.extract request headName with
  | error error => exact ⟨error, rfl⟩
  | ok token =>
      obtain ⟨front, source, back, split, -, found⟩ := exists_split_of_extractFrom outcome
      obtain ⟨error, failed⟩ := fail source (by simp [split])
      cases found.symm.trans failed

end TokenLookup

/-- A token that was signed is plain text: its parts are in base 64. -/
theorem Token.Authentic.isPlainText {manager : KeyManager} {token : String} {claims : Claims}
    (authentic : Authentic manager token claims) : IsPlainText token := by
  obtain ⟨evidence, supports⟩ := authentic
  have plainPart {part : List Char} {octets : Bytes}
      (decoded : Base64.decode? Base64.urlSafe part = some octets) :
      ∀ char ∈ part, Text.isPlain char = true := fun char inside => by
    rw [Text.isPlain, Base64.isNameChar_of_value? (Base64.isSome_value?_of_decode? decoded char inside),
      Bool.true_or]
  have plainValue {part : List Char} {value : Json} (read : partValue? part = some value) :
      ∀ char ∈ part, Text.isPlain char = true := by
    obtain ⟨octets, decoded, -⟩ := Option.bind_eq_some_iff.mp read
    exact plainPart decoded
  obtain ⟨header, headerRead, -⟩ := Option.bind_eq_some_iff.mp supports.header
  obtain ⟨payload, payloadRead, -⟩ := Option.map_eq_some_iff.mp supports.claims
  constructor
  · rintro rfl
    simpa using supports.joined
  · intro char inside
    rw [supports.joined] at inside
    simp only [List.mem_append, List.mem_cons] at inside
    rcases inside with inHeader | rfl | inClaims | rfl | inSignature
    · exact plainValue headerRead char inHeader
    · decide
    · exact plainValue payloadRead char inClaims
    · decide
    · exact plainPart supports.signature char inSignature

namespace SessionEngine

variable {engine : SessionEngine} {now : Instant} {request : Request} {result : ValidatedRequest}

/-- A request is validated to a result exactly when each part of the result is right. -/
theorem validate_eq_ok_iff : engine.validate now request = .ok result ↔
    engine.accessToken request = .ok result.token ∧
      engine.parseToken now result.token = .ok result.claims ∧
      result.identity = engine.callbacks.identity result.claims ∧
      engine.callbacks.authorizer result.identity request = true ∧
      result.authorization = if engine.config.sendAuthorization then
        some (engine.authorizationValue result.token) else none := by
  rw [validate, bind_eq_ok]
  simp only [bind_eq_ok, check_eq_ok, Decidable.not_not]
  constructor
  · rintro ⟨token, found, claims, parsed, admitted, same⟩
    cases same
    exact ⟨found, parsed, rfl, admitted, rfl⟩
  · rintro ⟨found, parsed, identity, admitted, authorization⟩
    refine ⟨_, found, _, parsed, identity ▸ admitted, ?_⟩
    rw [← identity, ← authorization]
    rfl

/--
Whether a request has a value in its authorization header, and no token in any
other place that the engine looks at.
-/
structure BringsOnly (engine : SessionEngine) (request : Request) (value : String) : Prop where
  carried : request.FirstValue "Authorization" (Utf8.ofString value)
  others : ∀ source ∈ engine.config.tokenLookup.sources,
    ¬ (source.kind = .header ∧ Request.lower source.name = "authorization") →
      source.Fails request engine.config.headName

/-- What a validated request is answered with, and what the answer is worth. -/
structure Echoes (engine : SessionEngine) (now : Instant) (result : ValidatedRequest) : Prop where
  sent : result.authorization = some (engine.config.headName ++ " " ++ result.token)
  /-- Behind a scheme the echo leads to the very same result. -/
  authenticates : IsScheme engine.config.headName →
    ∀ echoed, engine.BringsOnly echoed (engine.config.headName ++ " " ++ result.token) →
      engine.callbacks.authorizer result.identity echoed = true →
        engine.validate now echoed = .ok result
  /-- Behind any other name it is not even found. -/
  refused : ¬ IsScheme engine.config.headName →
    ∀ echoed, engine.BringsOnly echoed (engine.config.headName ++ " " ++ result.token) →
      ∃ error, engine.validate now echoed = .error (.extract error)

theorem accessToken_of_bringsOnly {echoed : Request} {token name : String}
    (looksUp : ⟨.header, name⟩ ∈ engine.config.tokenLookup.sources)
    (named : Request.lower name = "authorization") (scheme : IsScheme engine.config.headName)
    (plain : IsPlainText token)
    (brings : engine.BringsOnly echoed (engine.config.headName ++ " " ++ token)) :
    engine.accessToken echoed = .ok token := by
  have found (name : String) (named : Request.lower name = "authorization") :
      TokenSource.extract ⟨.header, name⟩ echoed engine.config.headName = .ok token := by
    have text : echoed.header? name = some (engine.config.headName ++ " " ++ token) := by
      refine Request.header?_eq_some_iff.mpr ⟨scheme.isFieldText plain, ?_⟩
      rw [Request.FirstValue, named]
      exact brings.carried
    rw [TokenSource.extract, text]
    exact scheme.ofHeader_joined plain
  refine mapError_eq_ok.mpr (TokenLookup.extract_of_agreement ?_ looksUp (found name named))
  rintro ⟨kind, other⟩ inside
  by_cases same : kind = .header ∧ Request.lower other = "authorization"
  · obtain ⟨rfl, named⟩ := same
    exact .inl (found other named)
  · exact .inr (brings.others _ inside same)

theorem accessToken_of_unscheme {echoed : Request} {value : String}
    (unfit : ¬ IsScheme engine.config.headName) (brings : engine.BringsOnly echoed value) :
    ∃ error, engine.accessToken echoed = .error (.extract error) := by
  have fail : ∀ source ∈ engine.config.tokenLookup.sources,
      source.Fails echoed engine.config.headName := by
    rintro ⟨kind, name⟩ inside
    by_cases same : kind = .header ∧ Request.lower name = "authorization"
    · obtain ⟨rfl, -⟩ := same
      cases outcome : TokenSource.extract ⟨.header, name⟩ echoed engine.config.headName with
      | ok token => exact absurd (TokenSource.isScheme_of_extract outcome) unfit
      | error error => exact ⟨error, outcome⟩
    · exact brings.others _ inside same
  obtain ⟨error, failed⟩ := TokenLookup.exists_extract_error fail
  exact ⟨error, mapError_eq_error.mpr ⟨error, failed, rfl⟩⟩

theorem echoes_of_validate (sends : engine.config.sendAuthorization = true)
    {name : String} (looksUp : ⟨.header, name⟩ ∈ engine.config.tokenLookup.sources)
    (named : Request.lower name = "authorization")
    (validated : engine.validate now request = .ok result) : engine.Echoes now result := by
  obtain ⟨-, authentic, -⟩ := authentic_of_validate validated
  obtain ⟨-, parsed, identity, -, authorization⟩ := validate_eq_ok_iff.mp validated
  refine ⟨?_, fun scheme echoed brings admitted => ?_, fun unfit echoed brings => ?_⟩
  · rw [authorization, if_pos sends]
    rfl
  · have found := accessToken_of_bringsOnly looksUp named scheme authentic.isPlainText brings
    exact validate_eq_ok_iff.mpr ⟨found, parsed, identity, admitted, authorization⟩
  · obtain ⟨error, failed⟩ := accessToken_of_unscheme unfit brings
    exact ⟨error, bind_eq_error.mpr (.inl failed)⟩

end SessionEngine

/--
The echo of a validated request authenticates whenever the name before the token
is a scheme, with the same token, claims and identity, and never otherwise;
which is also when any header value at all yields an issued token.
-/
theorem echoed_authorization_authenticates {engine : SessionEngine}
    (sends : engine.config.sendAuthorization = true) {name : String}
    (looksUp : ⟨.header, name⟩ ∈ engine.config.tokenLookup.sources)
    (named : Request.lower name = "authorization") :
    (∀ now request result, engine.validate now request = .ok result →
      engine.Echoes now result) ∧
    ∀ claims token, engine.codec.Signs claims token →
      ((∃ carrier, TokenSource.extract ⟨.header, name⟩ carrier engine.config.headName =
          .ok token) ↔ IsScheme engine.config.headName) := by
  refine ⟨fun now request result => SessionEngine.echoes_of_validate sends looksUp named, ?_⟩
  intro claims token encoded
  constructor
  · rintro ⟨carrier, found⟩
    exact TokenSource.isScheme_of_extract found
  · intro scheme
    have plain := Codec.isPlainText_of_signs encoded
    refine ⟨⟨"GET", ⟨"/", none⟩, [(Request.lower name,
      Utf8.ofString (engine.config.headName ++ " " ++ token))], [], [], none⟩, ?_⟩
    rw [TokenSource.extract, Request.header?_eq_some_iff.mpr
      ⟨scheme.isFieldText plain, [], [], rfl, by simp⟩]
    exact scheme.ofHeader_joined plain

/-! ## One token behind two names -/

def echoingEngine (headName : String) : SessionEngine :=
  { sampleEngine with
    config := {
      headName
      sendAuthorization := true
      tokenLookup := ⟨[⟨.param, "token"⟩, ⟨.header, "Authorization"⟩]⟩ } }

def pathRequest (token : String) : Request where
  method := "GET"
  target := ⟨"/me", none⟩
  fields := []
  pathParams := [("token", token)]

def headerRequest (value : String) : Request where
  method := "GET"
  target := ⟨"/me", none⟩
  fields := [("authorization", Utf8.ofString value)]

/-- What a request with the stale token is answered with, before the token was stale. -/
def echoedResult (headName : String) : ValidatedRequest where
  claims := .ofPairs [("exp", .int 1700003600)]
  identity := none
  token := staleToken
  authorization := some (headName ++ " " ++ staleToken)

theorem validate_pathRequest (headName : String) :
    (echoingEngine headName).validate ⟨1700000000, 0⟩ (pathRequest staleToken) =
      .ok (echoedResult headName) := by
  have parsed : sampleEngine.parseToken ⟨1700000000, 0⟩ staleToken =
      .ok (.ofPairs [("exp", .int 1700003600)]) := by decide +kernel
  have found : (echoingEngine headName).accessToken (pathRequest staleToken) = .ok staleToken := by
    rfl
  have unnamed : (Claims.ofPairs [("exp", .int 1700003600)]).get? "identity" = none := by decide
  exact SessionEngine.validate_eq_ok_iff.mpr ⟨found, parsed, unnamed.symm, rfl, rfl⟩

theorem bringsOnly_headerRequest (headName value : String) :
    (echoingEngine headName).BringsOnly (headerRequest value) value where
  carried := ⟨[], [], rfl, by simp⟩
  others source inside apart := by
    simp only [echoingEngine, List.mem_cons, List.not_mem_nil, or_false] at inside
    rcases inside with rfl | rfl
    · exact ⟨.emptyParam, rfl⟩
    · exact absurd ⟨rfl, by decide⟩ apart

theorem echoed_authorization_authenticates_bearer :
    (echoingEngine "Bearer").config.sendAuthorization = true ∧
      ⟨.header, "Authorization"⟩ ∈ (echoingEngine "Bearer").config.tokenLookup.sources ∧
      Request.lower "Authorization" = "authorization" ∧
      (echoingEngine "Bearer").validate ⟨1700000000, 0⟩ (pathRequest staleToken) =
        .ok (echoedResult "Bearer") ∧
      (echoingEngine "Bearer").validate ⟨1700000000, 0⟩
        (headerRequest ("Bearer" ++ " " ++ staleToken)) = .ok (echoedResult "Bearer") := by
  have sends : (echoingEngine "Bearer").config.sendAuthorization = true := rfl
  have looksUp : ⟨.header, "Authorization"⟩ ∈
      (echoingEngine "Bearer").config.tokenLookup.sources := by decide
  have named : Request.lower "Authorization" = "authorization" := by decide
  have validated := validate_pathRequest "Bearer"
  have echoes := (echoed_authorization_authenticates sends looksUp named).1 _ _ _ validated
  exact ⟨sends, looksUp, named, validated,
    echoes.authenticates (by decide) _ (bringsOnly_headerRequest _ _) rfl⟩

/-- A name of two words is accepted as a setting, but its echo is refused, as all its headers are. -/
theorem spaced_name_echoes_in_vain :
    (echoingEngine "My Scheme").config.validate = .ok () ∧
      (echoingEngine "My Scheme").validate ⟨1700000000, 0⟩ (pathRequest staleToken) =
        .ok (echoedResult "My Scheme") ∧
      (Request.fieldValue? ("My Scheme" ++ " " ++ staleToken)).isSome = true ∧
      (echoingEngine "My Scheme").validate ⟨1700000000, 0⟩
        (headerRequest ("My Scheme" ++ " " ++ staleToken)) =
          .error (.extract .invalidHeader) ∧
      ∀ carrier name token,
        TokenSource.extract ⟨.header, name⟩ carrier "My Scheme" ≠ .ok token := by
  refine ⟨by decide, validate_pathRequest "My Scheme", by decide +kernel, by decide +kernel, ?_⟩
  intro carrier name token found
  exact absurd (TokenSource.isScheme_of_extract found) (by decide)

end SessionTokens
