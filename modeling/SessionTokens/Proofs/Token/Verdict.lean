import Mathlib.Data.Rat.Floor
import SessionTokens.Proofs.Decimal.Rounding
import SessionTokens.Proofs.Token.RoundTrip

/-!
# Verdicts on signed tokens

A token that is signed for claims gets one of four verdicts, and the claim with
the expiry decides which: it is missing, it is no number, its second has passed,
or it has not.  The other claims have no say, unless a registered name holds a
value that it does not take; then the token is refused before its expiry is
looked at.
-/

namespace SessionTokens

/-! ## Numbers as seconds -/

def Binary64.value (number : Binary64) : ℚ :=
  if number.negative then -number.magnitude else number.magnitude

def Json.rational? : Json → Option ℚ
  | .int value => some value
  | .float value => some value.value
  | _ => none

/-- A fraction cut toward zero, and kept in the range of a signed 64-bit word. -/
def Claims.secondOf (number : ℚ) : Int :=
  clampInt64 (if 0 ≤ number then ⌊number⌋ else ⌈number⌉)

theorem Binary64.floor_magnitude (number : Binary64) :
    ⌊number.magnitude⌋ = ((number.ratio.1 / number.ratio.2 : Nat) : Int) := by
  rw [← ratio_value, Rat.floor_natCast_div_natCast, Int.natCast_ediv]

theorem Binary64.truncate_eq (number : Binary64) :
    number.truncate = if 0 ≤ number.value then ⌊number.value⌋ else ⌈number.value⌉ := by
  have nonneg := number.magnitude_nonneg
  have whole := number.floor_magnitude
  rw [truncate, value]
  cases sign : number.negative with
  | false => simp [signed, nonneg, whole]
  | true =>
      by_cases zero : number.magnitude = 0
      · rw [zero, Int.floor_zero] at whole
        simp [signed, zero, ← whole]
      · have below : ¬ 0 ≤ -number.magnitude := by
          rw [neg_nonneg, not_le]
          exact lt_of_le_of_ne nonneg (Ne.symm zero)
        simp only [signed, if_true, if_neg below, Int.ceil_neg, whole]

theorem Json.wholeSeconds?_eq (value : Json) :
    value.wholeSeconds? = value.rational?.map Claims.secondOf := by
  cases value with
  | int value => simp [wholeSeconds?, rational?, Claims.secondOf]
  | float value => simp [wholeSeconds?, rational?, Claims.secondOf, Binary64.truncate_eq]
  | _ => rfl

/-! ## Claims as they were sent -/

namespace Members

theorem set_ne_nil (members : Members) (name : String) (value : Json) :
    members.set name value ≠ [] := by
  cases members with
  | nil => exact List.cons_ne_nil _ _
  | cons member rest =>
      rw [set]
      split
      · exact List.cons_ne_nil _ _
      · exact List.cons_ne_nil _ _

theorem setAll_ne_nil {members : Members} (filled : members ≠ []) (pairs : Members) :
    members.setAll pairs ≠ [] := by
  induction pairs generalizing members with
  | nil => exact filled
  | cons pair rest ih => exact ih (set_ne_nil members pair.1 pair.2)

theorem isEmpty_ofPairs (pairs : Members) : (ofPairs pairs).isEmpty = pairs.isEmpty := by
  cases pairs with
  | nil => rfl
  | cons pair rest =>
      have filled := setAll_ne_nil (set_ne_nil [] pair.1 pair.2) rest
      rw [List.isEmpty_cons, List.isEmpty_eq_false_iff]
      exact filled

end Members

namespace Token

theorem isEmpty_mergeItems (items : List Json) :
    (Json.mergeItems items).isEmpty = items.isEmpty := by
  cases items <;> rfl

theorem isEmpty_mergeMembers (members : Members) :
    (Json.mergeMembers members).isEmpty = members.isEmpty := by
  cases members <;> rfl

/-- Merging inside a value does not change whether it obstructs. -/
theorem obstructs_merge (name : String) (value : Json) :
    obstructs name (Json.merge value) = obstructs name value := by
  cases value with
  | array items => simp only [Json.merge, obstructs, isEmpty_mergeItems]
  | object members =>
      simp only [Json.merge, obstructs, Members.isEmpty_ofPairs, isEmpty_mergeMembers]
  | _ => rfl

theorem any_obstructs_mergeMembers (members : Members) :
    ((Json.mergeMembers members).any fun member => obstructs member.1 member.2) =
      members.any fun member => obstructs member.1 member.2 := by
  induction members with
  | nil => rfl
  | cons member rest ih =>
      rw [Json.mergeMembers, List.any_cons, List.any_cons, ih, obstructs_merge]

/-- Whether the claims part is an object in which no name occurs twice. -/
def Evidence.NamesOnce (evidence : Evidence) : Prop :=
  ∃ members : Members, partValue? evidence.parts.claims = some (.object members) ∧ members.Distinct

/-- The claims of an object without repeated names are read, unless one of them obstructs. -/
theorem Evidence.Supports.readClaims {evidence : Evidence} {manager : KeyManager} {token : String}
    {claims : Claims} (supports : evidence.Supports manager token claims)
    (once : evidence.NamesOnce) :
    evidence.parts.readClaims =
      if claims.members.any fun member => obstructs member.1 member.2 then .error .json
      else .ok claims := by
  obtain ⟨members, read, distinct⟩ := once
  have merged := supports.claims
  rw [read, Option.map_some, Json.merge, Claims.toJson, Option.some.injEq, Json.object.injEq]
    at merged
  have unmerged : Members.ofPairs (Json.mergeMembers members) = Json.mergeMembers members := by
    refine Members.ofPairs_eq_self ?_
    rw [Members.Distinct, Members.names_mergeMembers]
    exact distinct
  have same : claims = Claims.ofPairs (Json.mergeMembers members) :=
    Claims.eq_of_members merged.symm
  rw [← merged, unmerged, any_obstructs_mergeMembers, Parts.readClaims, readPart_eq_ok.mpr read,
    same]
  simp only [bind, Except.bind, registeredSuit_eq distinct]
  cases members.any fun member => obstructs member.1 member.2 <;> rfl

theorem Evidence.Supports.split? {evidence : Evidence} {manager : KeyManager} {token : String}
    {claims : Claims} (supports : evidence.Supports manager token claims) :
    Token.split? token = some evidence.parts := by
  obtain ⟨-, claimsDotless, signatureDotless⟩ := supports.dotless
  have joined : token.toList =
      (evidence.parts.header ++ '.' :: evidence.parts.claims) ++ '.' :: evidence.parts.signature := by
    rw [supports.joined, List.append_assoc, List.cons_append]
  rw [Token.split?, joined, Text.splitLast_append signatureDotless]
  simp only [Option.bind_eq_bind, Option.bind_some, Text.splitLast_append claimsDotless]
  rfl

end Token

namespace Codec

variable {codec : Codec} {token : String} {claims : Claims} {evidence : Token.Evidence}

/-- What a token with evidence under a secret is accepted for: its claims, or nothing. -/
theorem authenticate_of_supports (supports : evidence.Supports codec.keys token claims)
    {secret : Bytes} (shared : evidence.key = .secret secret) (once : evidence.NamesOnce) :
    codec.authenticate token =
      if claims.members.any fun member => Token.obstructs member.1 member.2 then
        .error (.invalid (.form .json))
      else .ok claims := by
  have read : readHeader token = .ok evidence.header := by
    obtain ⟨value, headerPart, headerRead⟩ := Option.bind_eq_some_iff.mp supports.header
    simp only [readHeader, supports.split?, Token.Parts.readHeader,
      Token.readPart_eq_ok.mpr headerPart, bind, Except.bind, headerRead, mapError_ok]
  have signed := supports.signed
  have suits : codec.keys.algorithm.suits evidence.key = true := by
    rw [shared] at signed ⊢
    simpa [Algorithm.suits, Algorithm.isSymmetric] using signed.1
  rw [authenticate_of_resolved read supports.algorithm supports.key suits supports.split?,
    Token.decodePart_eq_ok.mpr supports.signature]
  simp only [Algorithm.verify_eq_true.mpr signed, if_true, supports.readClaims once]
  split <;> rfl

/-- The verdict on an authentic token: its expiry is read, and compared with the clock. -/
theorem verify_of_accepted (accepted : codec.authenticate token = .ok claims) (now : Instant) :
    codec.verify now token = (codec.expiry claims).bind fun second =>
      if second ≤ now.seconds then .error (.expired claims) else .ok claims := by
  rw [verify, accepted]
  rfl

end Codec

/-- The verdicts on a token that is signed for claims, and what in the claims leads to each. -/
structure Classified (codec : Codec) (claims : Claims) (now : Instant)
    (verdict : Except TokenError Claims) : Prop where
  missing : verdict = .error (.missingExpiry codec.expiryField) ↔
    claims.get? codec.expiryField = none ∨ claims.get? codec.expiryField = some .null
  malformed : verdict = .error (.malformedExpiry codec.expiryField) ↔
    ∃ value, claims.get? codec.expiryField = some value ∧ value ≠ .null ∧ value.rational? = none
  expired : ∀ held, verdict = .error (.expired held) ↔
    held = claims ∧ ∃ value number, claims.get? codec.expiryField = some value ∧
      value.rational? = some number ∧ Claims.secondOf number ≤ now.seconds
  valid : ∀ held, verdict = .ok held ↔
    held = claims ∧ ∃ value number, claims.get? codec.expiryField = some value ∧
      value.rational? = some number ∧ now.seconds < Claims.secondOf number

namespace Codec

variable {codec : Codec} {token : String} {claims : Claims} {value : Json}

theorem expiry_of_absent
    (absent : claims.get? codec.expiryField = none ∨ claims.get? codec.expiryField = some .null) :
    codec.expiry claims = .error (.missingExpiry codec.expiryField) := by
  rcases absent with absent | absent <;> rw [expiry, absent]

theorem expiry_of_present (present : claims.get? codec.expiryField = some value)
    (filled : value ≠ .null) :
    codec.expiry claims =
      (value.rational?.map Claims.secondOf).elim (.error (.malformedExpiry codec.expiryField))
        .ok := by
  rw [expiry, present, ← Json.wholeSeconds?_eq]
  split
  · next same => cases same
  · next same => exact absurd (Option.some.inj same) filled
  · next same =>
      cases same
      cases value.wholeSeconds? <;> rfl

theorem classified_of_accepted (accepted : codec.authenticate token = .ok claims)
    (now : Instant) : Classified codec claims now (codec.verify now token) := by
  have verdict := codec.verify_of_accepted accepted now
  by_cases absent :
      claims.get? codec.expiryField = none ∨ claims.get? codec.expiryField = some .null
  · rw [verdict, expiry_of_absent absent]
    rcases absent with absent | absent <;>
      constructor <;> simp [absent, Except.bind, Json.rational?]
  · rw [not_or] at absent
    obtain ⟨value, present⟩ := Option.ne_none_iff_exists'.mp absent.1
    have filled : value ≠ .null := fun null => absent.2 (null ▸ present)
    rw [verdict, expiry_of_present present filled]
    cases read : value.rational? with
    | none => constructor <;> simp [present, filled, read, Except.bind]
    | some number =>
        by_cases passed : Claims.secondOf number ≤ now.seconds
        · have late : ¬ now.seconds < Claims.secondOf number := Int.not_lt.mpr passed
          constructor <;> simp [present, filled, read, Except.bind, passed, late, eq_comm]
        · have early : now.seconds < Claims.secondOf number := Int.not_le.mp passed
          constructor <;> simp [present, filled, read, Except.bind, passed, early, eq_comm]

/-- While the clock goes forward, a verdict changes only from valid to expired. -/
theorem verify_of_later (token : String) {now later : Instant} (forward : now ≤ later) :
    codec.verify later token = codec.verify now token ∨
      ∃ claims, codec.verify now token = .ok claims ∧
        codec.verify later token = .error (.expired claims) := by
  cases accepted : codec.authenticate token with
  | error error => exact .inl (by rw [verify_of_refused accepted, verify_of_refused accepted])
  | ok claims =>
      rw [verify_of_accepted accepted, verify_of_accepted accepted]
      cases codec.expiry claims with
      | error error => exact .inl rfl
      | ok second =>
          rw [Instant.le_iff] at forward
          by_cases passed : second ≤ now.seconds
          · have still : second ≤ later.seconds := by omega
            exact .inl (by simp [Except.bind, passed, still])
          · by_cases passes : second ≤ later.seconds
            · exact .inr ⟨claims, by simp [Except.bind, passed], by simp [Except.bind, passes]⟩
            · exact .inl (by simp [Except.bind, passed, passes])

end Codec

/--
A token that is signed under a secret for an object without repeated names gets
at every instant the verdict that its expiry asks for, whatever its other claims
are.  Only a registered name with a value that it does not take stands in the
way, and then the token is refused at all instants.  While the clock goes
forward a valid token may expire, and no other verdict changes.
-/
theorem signed_tokens_are_classified {codec : Codec} {token : String} {claims : Claims}
    {evidence : Token.Evidence} (supports : evidence.Supports codec.keys token claims)
    {secret : Bytes} (shared : evidence.key = .secret secret) (once : evidence.NamesOnce) :
    ((∃ member ∈ claims.members, Token.obstructs member.1 member.2 = true) →
        ∀ now, codec.verify now token = .error (.invalid (.form .json))) ∧
      ((∀ member ∈ claims.members, Token.obstructs member.1 member.2 = false) →
        ∀ now, Classified codec claims now (codec.verify now token)) ∧
      ∀ now later, now ≤ later → codec.verify later token = codec.verify now token ∨
        codec.verify now token = .ok claims ∧
          codec.verify later token = .error (.expired claims) := by
  have accepted := Codec.authenticate_of_supports supports shared once
  refine ⟨fun obstructed now => ?_, fun free now => ?_, fun now later forward => ?_⟩
  · rw [if_pos (List.any_eq_true.mpr obstructed)] at accepted
    exact Codec.verify_of_refused accepted
  · have passes : (claims.members.any fun member => Token.obstructs member.1 member.2) = false := by
      rw [List.any_eq_false]
      exact fun member inside => Bool.eq_false_iff.mp (free member inside)
    rw [passes] at accepted
    exact Codec.classified_of_accepted accepted now
  · rcases codec.verify_of_later token forward with same | ⟨held, valid, expired⟩
    · exact .inl same
    · -- What is accepted is accepted for the claims of the evidence.
      have authentic := (Codec.verify_ok valid).1
      rw [accepted] at authentic
      split at authentic
      · cases authentic
      · cases authentic
        exact .inr ⟨valid, expired⟩

/-- A token over exact claims under a shared secret has evidence. -/
theorem Codec.exists_evidence_of_signs {codec : Codec} {claims : Claims} {token : String}
    (shared : codec.keys.SharesSecrets) (exact : claims.toJson.isExact = true)
    (shallow : claims.toJson.nesting ≤ Json.maxDepth) (signs : codec.Signs claims token) :
    ∃ (evidence : Token.Evidence) (secret : Bytes), evidence.Supports codec.keys token claims ∧
      evidence.key = .secret secret ∧ evidence.NamesOnce := by
  obtain ⟨key, seed, signature, resolved, signed, rfl⟩ := exists_signature_of_signs signs
  obtain ⟨secret, material, verifies⟩ := shared.exists_secret resolved
  rw [material] at signed
  obtain ⟨family, right⟩ := Algorithm.sign_secret signed
  obtain ⟨headerExact, headerShallow⟩ :=
    Token.Header.isExact_issued codec.keys.algorithm key.keyId
  have partValue (value : Json) (valueExact : value.isExact = true)
      (valueShallow : value.nesting ≤ Json.maxDepth) :
      Token.partValue? (Token.encodePart (Json.write Json.escapePlain value)) = some value := by
    rw [← Token.readPart_eq_ok, Token.readPart_encodePart,
      Json.reread_of_isExact _ _ valueExact valueShallow]
    rfl
  have claimsValue := partValue claims.toJson exact shallow
  let header := Token.Header.issued codec.keys.algorithm key.keyId
  refine ⟨⟨⟨Token.encodePart (Json.write Json.escapePlain header), Token.encodePart claims.render,
      Base64.encode Base64.urlSafe signature⟩,
    ⟨.known codec.keys.algorithm, key.keyId, [("typ", .string "JWT")]⟩, .secret secret, signature⟩,
    secret, ?_, rfl, ⟨claims.members, claimsValue, claims.distinct⟩⟩
  exact
    { joined := by simp [Token.signedPart, header]
      dotless := ⟨Base64.dot_not_mem_encode _, Base64.dot_not_mem_encode _,
        Base64.dot_not_mem_encode _⟩
      header := by
        rw [partValue header headerExact headerShallow]
        exact Token.Header.read?_issued codec.keys.algorithm key.keyId
      algorithm := rfl
      key := verifies _ rfl
      signature := Base64.decode?_encode signature
      signed := ⟨by simp [Algorithm.isSymmetric, family], right⟩
      claims := by
        dsimp only
        rw [Claims.render, claimsValue, Option.map_some, Json.merge_of_isExact _ exact] }

/-- Claims whose expiry is a text; the second claim is no hindrance. -/
def textExpiry : Claims := .ofPairs [("exp", .string "tomorrow"), ("aud", .object [("a", .int 1)])]

theorem signed_tokens_are_classified_text :
    ∃ token, sampleCodec.Signs textExpiry token ∧
      sampleCodec.verify ⟨1700000000, 0⟩ token = .error (.malformedExpiry "exp") := by
  have made : (sampleCodec.encode [] textExpiry).toOption.isSome = true := by decide +kernel
  obtain ⟨token, made⟩ := Option.isSome_iff_exists.mp made
  have signs : sampleCodec.Signs _ token := ⟨[], toOption_eq_some.mp made⟩
  obtain ⟨evidence, secret, supports, shared, once⟩ := sampleCodec.exists_evidence_of_signs
    sharesSecrets_sampleCodec (by decide) (by decide) signs
  obtain ⟨-, classified, -⟩ := signed_tokens_are_classified supports shared once
  refine ⟨token, signs, (classified (by decide) ⟨1700000000, 0⟩).malformed.mpr ?_⟩
  exact ⟨.string "tomorrow", by decide, nofun, rfl⟩

/-- A signed token whose expiry is a list with something in it is not called malformed. -/
theorem listed_expiry_is_not_classified :
    ∃ (token : String) (evidence : Token.Evidence),
      sampleCodec.Signs (.ofPairs [("exp", .array [.int 1])]) token ∧
      evidence.Supports sampleCodec.keys token (.ofPairs [("exp", .array [.int 1])]) ∧
      evidence.NamesOnce ∧
      sampleCodec.verify ⟨1700000000, 0⟩ token = .error (.invalid (.form .json)) ∧
      ¬ Classified sampleCodec (.ofPairs [("exp", .array [.int 1])]) ⟨1700000000, 0⟩
        (sampleCodec.verify ⟨1700000000, 0⟩ token) := by
  have made :
      (sampleCodec.encode [] (.ofPairs [("exp", .array [.int 1])])).toOption.isSome = true := by
    decide +kernel
  obtain ⟨token, made⟩ := Option.isSome_iff_exists.mp made
  have signs : sampleCodec.Signs _ token := ⟨[], toOption_eq_some.mp made⟩
  obtain ⟨evidence, secret, supports, shared, once⟩ := sampleCodec.exists_evidence_of_signs
    sharesSecrets_sampleCodec (by decide) (by decide) signs
  have refused := Codec.authenticate_of_supports supports shared once
  rw [if_pos (by decide)] at refused
  have verdict := @Codec.verify_of_refused sampleCodec token ⟨1700000000, 0⟩ _ refused
  refine ⟨token, evidence, signs, supports, once, verdict, fun classified => ?_⟩
  rw [verdict] at classified
  cases classified.malformed.mpr ⟨.array [.int 1], by decide, nofun, rfl⟩

end SessionTokens
