import SessionTokens.Proofs.Json.Exact
import SessionTokens.Proofs.Token.Authentic
import SessionTokens.Proofs.Token.Issue
import SessionTokens.Token.Authentic

/-!
# Issued tokens verify

A token that was issued under a shared secret has a header that selects the
same secret, and claims that come back from their text as they were.  So it is
verified until its expiry, unless a registered name holds a value that it does
not take: such a token is issued, and never accepted.
-/

namespace SessionTokens

/-! ## Registered names -/

theorem Members.any_set {members : Members} (distinct : members.Distinct)
    (p : String → Json → Bool) {name : String} {value : Json} (fails : p name value = false) :
    (members.set name value).any (fun member => p member.1 member.2) =
      members.any fun member => member.1 ≠ name && p member.1 member.2 := by
  induction members with
  | nil => simp [set, fails]
  | cons member rest ih =>
      obtain ⟨other, old⟩ := member
      obtain ⟨fresh, restDistinct⟩ := distinct_cons.mp distinct
      by_cases same : other = name
      · subst same
        have differs : ∀ member ∈ rest, member.1 ≠ other := fun member inside equal =>
          fresh (equal ▸ List.mem_map_of_mem inside)
        simp only [set, if_true, List.any_cons, fails, ne_eq, not_true_eq_false, decide_false,
          Bool.false_and, Bool.false_or]
        rw [Bool.eq_iff_iff, List.any_eq_true, List.any_eq_true]
        exact exists_congr fun member => and_congr_right fun inside => by
          simp [differs member inside]
      · simp [set, same, ih restDistinct]

namespace Token

theorem length_valuesOf_le {members : Members} (distinct : members.Distinct) (name : String) :
    (Header.valuesOf members name).length ≤ 1 := by
  calc (Header.valuesOf members name).length
      = members.names.count name := by
        rw [Header.valuesOf, List.length_map, Members.names, List.count, List.countP_map,
          List.countP_eq_length_filter]
        rfl
    _ ≤ 1 := List.nodup_iff_count.mp distinct name

theorem suits_eq_not_obstructs (name : String) (value : Json) :
    (if name = "exp" ∨ name = "nbf" then suitsTime value
      else if name = "sub" then suitsSubject value
      else true) = !obstructs name value := by
  cases value <;> simp [obstructs, suitsTime, suitsSubject] <;> grind

theorem registeredSuit_eq {members : Members} (distinct : members.Distinct) :
    registeredSuit members = !members.any fun member => obstructs member.1 member.2 := by
  have single : Header.singleKnown singleClaims members = true := by
    simp only [Header.singleKnown, List.all_eq_true, decide_eq_true_eq]
    exact fun name _ => length_valuesOf_le distinct name
  simp only [registeredSuit, single, Bool.true_and, suits_eq_not_obstructs, List.not_any_eq_all_not]

theorem HeaderAlgorithm.ofName?_name (algorithm : Algorithm) :
    HeaderAlgorithm.ofName? algorithm.name = some (.known algorithm) := by
  cases algorithm <;> decide

/-- The header of an issued token names what it was issued with. -/
theorem Header.read?_issued (algorithm : Algorithm) (keyId : Option String) :
    Header.read? (Header.issued algorithm keyId) =
      some ⟨.known algorithm, keyId, [("typ", .string "JWT")]⟩ := by
  have named : algorithm? (.string algorithm.name) = some (.known algorithm) :=
    HeaderAlgorithm.ofName?_name algorithm
  -- Only the algorithm is unknown; everything else is read off the names.
  cases keyId with
  | none =>
      change (algorithm? (.string algorithm.name)).bind _ = _
      rw [named]
      rfl
  | some name =>
      change (algorithm? (.string algorithm.name)).bind _ = _
      rw [named]
      rfl

theorem Header.isExact_issued (algorithm : Algorithm) (keyId : Option String) :
    (Header.issued algorithm keyId).isExact = true ∧
      (Header.issued algorithm keyId).nesting ≤ Json.maxDepth := by
  cases keyId with
  | none =>
      simp [issued, Json.isExact, Json.exactMembers, Json.nesting, Json.nestingMembers,
        Members.Distinct, Members.names, Json.maxDepth]
  | some name =>
      simp [issued, Json.isExact, Json.exactMembers, Json.nesting, Json.nestingMembers,
        Members.Distinct, Members.names, Json.maxDepth]

theorem readHeader_encodePart (algorithm : Algorithm) (keyId : Option String)
    (claims signature : List Char) :
    Parts.readHeader
        ⟨encodePart (Json.write Json.escapePlain (Header.issued algorithm keyId)), claims, signature⟩ =
      .ok ⟨.known algorithm, keyId, [("typ", .string "JWT")]⟩ := by
  obtain ⟨exact, shallow⟩ := Header.isExact_issued algorithm keyId
  rw [Parts.readHeader, readPart_encodePart, Json.reread_of_isExact _ _ exact shallow]
  simp only [bind, Except.bind, Option.elim, Header.read?_issued]

theorem signed_encodePart (header : Json) (claims : Claims) (signature : List Char) :
    Parts.signed
        ⟨encodePart (Json.write Json.escapePlain header), encodePart claims.render, signature⟩ =
      signedPart header claims := rfl

end Token

/-! ## Shared secrets -/

inductive KeyManager.SharesSecrets : KeyManager → Prop
  | single {algorithm : Algorithm} {secret : Bytes} {manager : KeyManager}
      (loaded : KeyManager.ofSecret algorithm secret = .ok manager) : SharesSecrets manager
  | byTenant (algorithm : Algorithm) (secrets : List (String × Bytes)) :
      SharesSecrets (.ofResolver algorithm (.byTenant secrets))

theorem Algorithm.sign_secret {algorithm : Algorithm} {secret seed message signature : Bytes}
    (signed : algorithm.sign seed (.secret secret) message = .ok signature) :
    algorithm.family = .hmac ∧ signature = algorithm.hash.hmac secret message := by
  cases algorithm <;> simp_all [sign, family]

/-- The name that a signing key puts into the header leads back to its secret. -/
theorem KeyManager.SharesSecrets.exists_secret {manager : KeyManager}
    (shared : manager.SharesSecrets) {claims : Claims} {key : SigningKey}
    (resolved : manager.signingKey claims = .ok key) :
    ∃ secret, key.material = .secret secret ∧
      ∀ header : Token.Header, header.keyId = key.keyId →
        manager.verificationKey header = .ok (.secret secret) := by
  cases shared with
  | @single algorithm secret manager loaded =>
      rw [ofSecret] at loaded
      split at loaded
      · cases loaded
      split at loaded
      · cases loaded
      cases loaded
      cases resolved
      exact ⟨secret, rfl, fun _ _ => rfl⟩
  | byTenant algorithm secrets =>
      simp only [signingKey, ofResolver, KeyResolver.byTenant] at resolved
      split at resolved
      · cases resolved
      · split at resolved
        · cases resolved
        · next tenant _ secret found =>
            cases resolved
            refine ⟨secret, rfl, fun header named => ?_⟩
            simp only [verificationKey, ofResolver, KeyResolver.byTenant, named, found]

/-- Whether all that a manager signs is right under the key that the header of the token leads to. -/
def KeyManager.Agrees (manager : KeyManager) : Prop :=
  ∀ {claims : Claims} {key : SigningKey} {seed message signature : Bytes},
    manager.signingKey claims = .ok key →
      manager.algorithm.sign seed key.material message = .ok signature →
        ∃ verification, manager.algorithm.suits verification = true ∧
          (∀ header : Token.Header, header.keyId = key.keyId →
            manager.verificationKey header = .ok verification) ∧
          manager.algorithm.verify verification message signature = true

theorem KeyManager.SharesSecrets.agrees {manager : KeyManager} (shared : manager.SharesSecrets) :
    manager.Agrees := by
  intro claims key seed message signature resolved signed
  obtain ⟨secret, material, verifies⟩ := shared.exists_secret resolved
  rw [material] at signed
  obtain ⟨family, right⟩ := Algorithm.sign_secret signed
  exact ⟨.secret secret, by simp [Algorithm.suits, family], verifies,
    by simp [Algorithm.verify, family, right]⟩

/-! ## Exact claims -/

namespace Claims

variable {claims : Claims} {name : String} {value : Json}

theorem isExact_insert (exact : claims.toJson.isExact = true) (valueExact : value.isExact = true) :
    (claims.insert name value).toJson.isExact = true := by
  rw [toJson, Json.isExact, Bool.and_eq_true, decide_eq_true_eq] at exact ⊢
  exact ⟨(claims.insert name value).distinct, Json.exactMembers_set exact.2 valueExact name⟩

theorem nesting_insert_le {depth : Nat} (shallow : claims.toJson.nesting ≤ depth + 1)
    (valueShallow : value.nesting ≤ depth) :
    (claims.insert name value).toJson.nesting ≤ depth + 1 := by
  rw [toJson, Json.nesting, Nat.add_le_add_iff_right] at shallow ⊢
  exact Json.nestingMembers_set_le shallow valueShallow name

theorem reread?_of_isExact (exact : claims.toJson.isExact = true)
    (shallow : claims.toJson.nesting ≤ Json.maxDepth) :
    claims.reread? = if Token.registeredSuit claims.members then some claims else none := by
  rw [toJson, Json.isExact, Bool.and_eq_true, decide_eq_true_eq] at exact
  have inner : Json.nestingMembers claims.members ≤ 126 := Nat.le_of_succ_le_succ shallow
  rw [reread?, Json.rereadMembers_of_exactMembers _ _ exact.2 inner, Option.bind_eq_bind,
    Option.bind_some, Json.mergeMembers_of_exactMembers _ exact.2]
  split
  · exact congrArg some (eq_of_members (members_ofPairs exact.1))
  · rfl

end Claims

variable {codec : Codec} {now later : Instant} {claims : Claims} {lifetime : Span} {origin : Int}
  {issued : IssuedToken} {token : String}

theorem IssuedFrom.isExact (dated : IssuedFrom codec now claims lifetime origin issued)
    (exact : claims.toJson.isExact = true) (originWord : Json.IsWord origin) :
    issued.claims.toJson.isExact = true := by
  have bounds := dated.inside.signed_bounds
  have expiryWord : Json.IsWord issued.expiresAt.seconds := .of_signed bounds.1 bounds.2
  rw [dated.sameClaims]
  exact Claims.isExact_insert (Claims.isExact_insert exact (Json.isExact_int.mpr expiryWord))
    (Json.isExact_int.mpr originWord)

theorem IssuedFrom.nesting_le (dated : IssuedFrom codec now claims lifetime origin issued)
    (shallow : claims.toJson.nesting ≤ Json.maxDepth) :
    issued.claims.toJson.nesting ≤ Json.maxDepth := by
  rw [dated.sameClaims]
  exact Claims.nesting_insert_le (Claims.nesting_insert_le shallow (Nat.zero_le 126))
    (Nat.zero_le 126)

namespace Codec

/-- A token under keys that agree is authentic for what its claims read back as. -/
theorem authenticate_of_agrees (agrees : codec.keys.Agrees)
    (signs : codec.Signs claims token) :
    codec.authenticate token = claims.reread?.elim (.error (.invalid (.form .json))) .ok := by
  obtain ⟨key, seed, signature, resolved, signed, joined⟩ := exists_signature_of_signs signs
  -- The header tells nothing of the key but its name, and that name leads to a key that agrees.
  obtain ⟨verification, suits, verifies, verified⟩ := agrees resolved signed
  have split := Token.split?_joined (Base64.dot_not_mem_encode signature)
    (Token.Header.issued codec.keys.algorithm key.keyId) claims
  rw [joined] at split
  have read : readHeader token =
      .ok ⟨.known codec.keys.algorithm, key.keyId, [("typ", .string "JWT")]⟩ := by
    simp only [readHeader, split, Token.readHeader_encodePart, mapError_ok]
  rw [authenticate_of_resolved read rfl (verifies _ rfl) suits split]
  have decoded : Token.decodePart (Base64.encode Base64.urlSafe signature) = .ok signature :=
    Token.decodePart_eq_ok.mpr (Base64.decode?_encode signature)
  simp only [decoded, Token.signed_encodePart, verified, if_true, Token.readClaims_encodePart]
  cases claims.reread? <;> rfl

/-- A token under a shared secret is authentic for what its claims read back as. -/
theorem authenticate_of_signs (shared : codec.keys.SharesSecrets)
    (encoded : codec.Signs claims token) :
    codec.authenticate token = claims.reread?.elim (.error (.invalid (.form .json))) .ok :=
  authenticate_of_agrees shared.agrees encoded

/-- What a token in exact claims is accepted for: its claims, or nothing. -/
theorem authenticate_of_exact (shared : codec.keys.SharesSecrets)
    (exact : claims.toJson.isExact = true) (shallow : claims.toJson.nesting ≤ Json.maxDepth)
    (encoded : codec.Signs claims token) :
    codec.authenticate token =
      if claims.members.any fun member => Token.obstructs member.1 member.2 then
        .error (.invalid (.form .json))
      else .ok claims := by
  rw [authenticate_of_signs shared encoded, Claims.reread?_of_isExact exact shallow,
    Token.registeredSuit_eq claims.distinct]
  cases claims.members.any fun member => Token.obstructs member.1 member.2 <;> rfl

theorem obstructs_timed (codec : Codec) (claims : Claims) (expiresAt : Instant) (origin : Int) :
    ((codec.timed claims expiresAt origin).members.any fun member =>
      Token.obstructs member.1 member.2) = claims.obstructed codec.expiryField := by
  have passes (name : String) (value : Int) : Token.obstructs name (.int value) = false := rfl
  -- The first second has no registered name, so that it does not matter whether it is set.
  have unregistered (value : Json) : Token.obstructs Claims.originName value = false := by
    cases value <;> rfl
  have distinct := (claims.insert codec.expiryField (.int expiresAt.seconds)).distinct
  calc (codec.timed claims expiresAt origin).members.any
        (fun member => Token.obstructs member.1 member.2)
      = (claims.insert codec.expiryField (.int expiresAt.seconds)).members.any
          (fun member => member.1 ≠ Claims.originName && Token.obstructs member.1 member.2) :=
        Members.any_set distinct Token.obstructs (passes _ _)
    _ = (claims.insert codec.expiryField (.int expiresAt.seconds)).members.any
          (fun member => Token.obstructs member.1 member.2) := by
        congr 1
        funext member
        by_cases same : member.1 = Claims.originName <;> simp [same, unregistered]
    _ = claims.obstructed codec.expiryField :=
        Members.any_set claims.distinct Token.obstructs (passes _ _)

theorem verify_of_authenticate {expiry : Int} (accepted : codec.authenticate token = .ok claims)
    (read : codec.expiry claims = .ok expiry) (early : now.seconds < expiry) :
    codec.verify now token = .ok claims := by
  rw [verify, accepted]
  simp only [bind, Except.bind, read]
  exact if_neg (Int.not_le.mpr early)

/-- An issued token is verified until its expiry, unless one of its claims obstructs. -/
theorem verify_of_issuedFrom (shared : codec.keys.SharesSecrets)
    (differs : codec.expiryField ≠ Claims.originName) (exact : claims.toJson.isExact = true)
    (shallow : claims.toJson.nesting ≤ Json.maxDepth) (originWord : Json.IsWord origin)
    (dated : IssuedFrom codec now claims lifetime origin issued)
    (early : later.seconds < now.seconds + lifetime.seconds) :
    codec.verify later issued.token =
      if claims.obstructed codec.expiryField then .error (.invalid (.form .json))
      else .ok issued.claims := by
  have bounds := dated.inside.signed_bounds
  have accepted := authenticate_of_exact shared (dated.isExact exact originWord)
    (dated.nesting_le shallow) dated.encoded
  rw [dated.sameClaims, obstructs_timed, ← dated.sameClaims] at accepted
  cases obstructed : claims.obstructed codec.expiryField with
  | true =>
      rw [obstructed] at accepted
      exact verify_of_refused accepted
  | false =>
      rw [obstructed] at accepted
      have present := codec.get?_expiry_timed differs claims issued.expiresAt origin
      rw [← dated.sameClaims] at present
      refine verify_of_authenticate accepted (expiry_int present bounds.1 bounds.2) ?_
      rw [dated.expiry]
      exact early

end Codec

/--
How a token is issued, whatever octets are drawn for its signature: in a session that
begins now, or that began in a given second.
-/
inductive Codec.Issues (codec : Codec) (now : Instant) (claims : Claims) (lifetime : Span)
    (issued : IssuedToken) : Int → Prop
  | fresh {seed : Bytes} (signed : codec.issue now claims lifetime seed = .ok issued) :
      Issues codec now claims lifetime issued now.seconds
  | continued {origin : Int} {seed : Bytes} (low : Decimal.minInt64 ≤ origin)
      (high : origin ≤ Decimal.maxInt64)
      (signed : codec.issueFrom now claims lifetime origin seed = .ok issued) :
      Issues codec now claims lifetime issued origin

theorem Codec.Issues.issuedFrom (issues : codec.Issues now claims lifetime issued origin) :
    IssuedFrom codec now claims lifetime origin issued ∧ Json.IsWord origin := by
  cases issues with
  | fresh signed =>
      have dated := issuedFrom_of_issueFrom signed
      exact ⟨dated, .of_signed dated.now_bounds.1 dated.now_bounds.2⟩
  | continued low high signed => exact ⟨issuedFrom_of_issueFrom signed, .of_signed low high⟩

/--
A token that was issued under a shared secret says exactly what it was issued
for, under its two times, and is verified at all clock readings before its
expiry.  Only a registered name with a value that it does not take stands in
the way, and then the token is refused at all of these readings.
-/
theorem issued_claims_verify {codec : Codec} (shared : codec.keys.SharesSecrets)
    (differs : codec.expiryField ≠ Claims.originName) {claims : Claims}
    (exact : claims.toJson.isExact = true) (shallow : claims.toJson.nesting ≤ Json.maxDepth)
    {now : Instant} {lifetime : Span} {issued : IssuedToken} {origin : Int}
    (issues : codec.Issues now claims lifetime issued origin) :
    issued.claims = (claims.insert codec.expiryField
        (.int (now.seconds + lifetime.seconds))).insert Claims.originName (.int origin) ∧
      issued.claims.withoutTiming codec.expiryField = claims.withoutTiming codec.expiryField ∧
      ∀ later : Instant, later.seconds < now.seconds + lifetime.seconds →
        codec.verify later issued.token =
          if claims.obstructed codec.expiryField then .error (.invalid (.form .json))
          else .ok issued.claims := by
  obtain ⟨dated, originWord⟩ := issues.issuedFrom
  refine ⟨?_, dated.withoutTiming differs, fun later early =>
    Codec.verify_of_issuedFrom shared differs exact shallow originWord dated early⟩
  rw [← dated.expiry]
  exact dated.sameClaims

def sampleCodec : Codec where
  keys := ⟨.hs256, .fixed (.secret [1, 2, 3]) (.secret [1, 2, 3])⟩

theorem sharesSecrets_sampleCodec : sampleCodec.keys.SharesSecrets :=
  @KeyManager.SharesSecrets.single .hs256 [1, 2, 3] _ rfl

theorem issued_claims_verify_subject :
    ∃ issued, sampleCodec.issue ⟨1700000000, 0⟩ (.ofPairs [("sub", .string "alice")])
        (Span.ofSeconds 3600) [] = .ok issued ∧
      sampleCodec.verify ⟨1700003599, 999999999⟩ issued.token = .ok issued.claims := by
  have made : (sampleCodec.issue ⟨1700000000, 0⟩ (.ofPairs [("sub", .string "alice")])
      (Span.ofSeconds 3600) []).toOption.isSome = true := by decide +kernel
  obtain ⟨issued, made⟩ := Option.isSome_iff_exists.mp made
  have signed := toOption_eq_some.mp made
  obtain ⟨-, -, verifies⟩ := issued_claims_verify sharesSecrets_sampleCodec (by decide)
    (by decide) (by decide) (.fresh signed)
  exact ⟨issued, signed, verifies _ (by decide)⟩

/-- A token whose subject is an object is issued, and refused at once. -/
theorem nested_subject_is_refused :
    ∃ issued, sampleCodec.issue ⟨1700000000, 0⟩ (.ofPairs [("sub", .object [("a", .int 1)])])
        (Span.ofSeconds 3600) [] = .ok issued ∧
      sampleCodec.verify ⟨1700000000, 0⟩ issued.token = .error (.invalid (.form .json)) := by
  have made : (sampleCodec.issue ⟨1700000000, 0⟩ (.ofPairs [("sub", .object [("a", .int 1)])])
      (Span.ofSeconds 3600) []).toOption.isSome = true := by decide +kernel
  obtain ⟨issued, made⟩ := Option.isSome_iff_exists.mp made
  have signed := toOption_eq_some.mp made
  obtain ⟨dated, originWord⟩ := (Codec.Issues.fresh signed).issuedFrom
  exact ⟨issued, signed, Codec.verify_of_issuedFrom sharesSecrets_sampleCodec (by decide)
    (by decide) (by decide) originWord dated (by decide)⟩

end SessionTokens
