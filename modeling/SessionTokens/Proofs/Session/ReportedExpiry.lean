import SessionTokens.Proofs.Session.Handout
import SessionTokens.Proofs.Token.Readable
import SessionTokens.Proofs.Token.Verdict

/-!
# The expiry that is reported

Whoever asks for a token is told the instant of its expiry, to the nanosecond.
The token itself holds only the second of that instant, and the clock is read in
whole seconds as well.  So the two agree for lifetimes of whole seconds; beyond
them a token is found expired in the second of its reported expiry, from the
start of that second on.
-/

namespace SessionTokens

def Codec.FindsExpired (codec : Codec) (now : Instant) (token : String) : Prop :=
  ∃ claims, codec.verify now token = .error (.expired claims)

/-- Whether a token over claims is accepted: no part is too deep, and no claim obstructs. -/
structure Claims.Acceptable (claims : Claims) : Prop where
  shallow : claims.toJson.nesting ≤ Json.maxDepth
  free : ∀ member ∈ claims.members, Token.obstructs member.1 member.2 = false

instance (claims : Claims) : Decidable claims.Acceptable :=
  decidable_of_iff (claims.toJson.nesting ≤ Json.maxDepth ∧
      ∀ member ∈ claims.members, Token.obstructs member.1 member.2 = false)
    ⟨fun holds => ⟨holds.1, holds.2⟩, fun holds => ⟨holds.shallow, holds.free⟩⟩

/-- Whether a pair was signed for the data of a user, in a session that began in a second. -/
structure PairFrom (engine : SessionEngine) (now : Instant) (userData : Json) (origin : Int)
    (pair : TokenPair) : Prop where
  originWord : Json.IsWord origin
  /-- The pair carries a token that was issued for it, and reports its expiry. -/
  issued : ∃ issued, IssuedFrom engine.codec now (engine.callbacks.payload userData)
      (engine.callbacks.lifetime (engine.callbacks.payload userData)) origin issued ∧
    pair.accessToken = issued.token ∧ pair.expiresAt = issued.expiresAt

/-- What the expiry that is reported of a token tells of the verdicts on it. -/
structure ReportsExpiry (codec : Codec) (token : String) (claims : Claims) (lifetime : Span)
    (expiresAt : Instant) : Prop where
  signed : codec.Signs claims token
  /-- What the expiry has beyond its second comes from the lifetime alone. -/
  fraction : expiresAt.nanos = lifetime.subsecond
  /-- The token is found expired from the start of the second on. -/
  second : claims.Acceptable → ∀ now, codec.FindsExpired now token ↔ expiresAt.floor ≤ now
  /-- With a lifetime of whole seconds the expiry is the exact one. -/
  exact : claims.Acceptable → lifetime.subsecond = 0 →
    ∀ now, ¬ codec.FindsExpired now token ↔ now < expiresAt
  refused : ¬ claims.Acceptable → ∀ now, codec.verify now token = .error (.invalid (.form .json))

/-! ## One token -/

/-- Depth and obstructing claims are all that keeps claims from being read back. -/
theorem Claims.reread?_eq_none_iff_not_acceptable {claims : Claims}
    (sized : claims.toJson.isSized = true) : claims.reread? = none ↔ ¬ claims.Acceptable := by
  by_cases shallow : claims.toJson.nesting ≤ Json.maxDepth
  · rw [Claims.Readable.reread?_eq_none_iff ⟨sized, shallow⟩, List.any_eq_true]
    constructor
    · rintro ⟨member, inside, obstructs⟩ acceptable
      rw [acceptable.free member inside] at obstructs
      cases obstructs
    · intro refused
      by_contra free
      push Not at free
      exact refused ⟨shallow, fun member inside => Bool.eq_false_iff.mpr (free member inside)⟩
  · have lost : Json.rereadMembers 126 claims.members = none := by
      by_contra held
      have inner := Json.nestingMembers_le_of_reread _ _ held
      exact shallow (Nat.succ_le_succ inner)
    refine iff_of_true ?_ fun acceptable => shallow acceptable.shallow
    rw [reread?, lost]
    rfl

namespace Codec

variable {codec : Codec} {token : String} {claims : Claims}

theorem findsExpired_iff_of_accepted {second : Int}
    (accepted : codec.authenticate token = .ok claims)
    (read : codec.expiry claims = .ok second) (now : Instant) :
    codec.FindsExpired now token ↔ second ≤ now.seconds := by
  rw [FindsExpired, verify_of_accepted accepted, read]
  by_cases passed : second ≤ now.seconds <;> simp [Except.bind, passed]

end Codec

section Issued

variable {codec : Codec} {now : Instant} {claims : Claims} {lifetime : Span} {origin : Int}
  {issued : IssuedToken}

theorem IssuedFrom.isSized (dated : IssuedFrom codec now claims lifetime origin issued)
    (sized : claims.toJson.isSized = true) (originWord : Json.IsWord origin) :
    issued.claims.toJson.isSized = true := by
  have bounds := dated.inside.signed_bounds
  have expiryWord : Json.IsWord issued.expiresAt.seconds := .of_signed bounds.1 bounds.2
  rw [dated.sameClaims]
  exact Claims.isSized_insert_int (Claims.isSized_insert_int sized codec.expiryField expiryWord)
    Claims.originName originWord

/-- An accepted token is found expired from the second of its expiry on. -/
theorem IssuedFrom.findsExpired_iff (dated : IssuedFrom codec now claims lifetime origin issued)
    (shared : codec.keys.SharesSecrets) (differs : codec.expiryField ≠ Claims.originName)
    {held : Claims} (read : issued.claims.reread? = some held) (later : Instant) :
    codec.FindsExpired later issued.token ↔ issued.expiresAt.floor ≤ later := by
  have bounds := dated.inside.signed_bounds
  have accepted := Codec.authenticate_of_signs shared dated.encoded
  rw [read, Option.elim_some] at accepted
  -- The second of the expiry comes back from the text of the claims as it was signed.
  have present := codec.get?_expiry_timed differs claims issued.expiresAt origin
  rw [← dated.sameClaims] at present
  have kept := Claims.get?_of_reread? (.of_signed bounds.1 bounds.2) present read
  have expiry := Codec.expiry_int kept bounds.1 bounds.2
  rw [Codec.findsExpired_iff_of_accepted accepted expiry, Instant.floor_le_iff]

theorem IssuedFrom.reportsExpiry (dated : IssuedFrom codec now claims lifetime origin issued)
    (shared : codec.keys.SharesSecrets) (differs : codec.expiryField ≠ Claims.originName)
    (sized : claims.toJson.isSized = true) (originWord : Json.IsWord origin) :
    ReportsExpiry codec issued.token issued.claims lifetime issued.expiresAt := by
  have outcome := Claims.reread?_eq_none_iff_not_acceptable (dated.isSized sized originWord)
  have fraction := Instant.nanos_of_later? dated.moved
  have second (acceptable : issued.claims.Acceptable) (later : Instant) :
      codec.FindsExpired later issued.token ↔ issued.expiresAt.floor ≤ later := by
    have kept : issued.claims.reread? ≠ none := fun lost => outcome.mp lost acceptable
    obtain ⟨held, read⟩ := Option.ne_none_iff_exists'.mp kept
    exact dated.findsExpired_iff shared differs read later
  constructor
  · exact dated.encoded
  · exact fraction
  · exact second
  · intro acceptable whole later
    rw [second acceptable, Instant.floor_eq_self (fraction.trans whole), Instant.not_le]
  · intro refused later
    apply Codec.verify_of_refused
    rw [Codec.authenticate_of_signs shared dated.encoded, outcome.mpr refused]
    rfl

end Issued

/-! ## Pairs -/

theorem PairFrom.of_preparePair {engine : SessionEngine} {now : Instant} {draw : Bytes}
    {userData : Json} {origin : Option Int} {pending : PendingPair}
    (prepared : engine.preparePair now draw userData origin = .ok pending)
    (words : ∀ second ∈ origin, Json.IsWord second) :
    PairFrom engine now userData (origin.getD now.seconds) pending.pair := by
  obtain ⟨issued, dated, token, expiresAt, -⟩ := SessionEngine.issuedFrom_of_preparePair prepared
  refine ⟨?_, issued, dated, token, expiresAt⟩
  cases origin with
  | none => exact .of_signed dated.now_bounds.1 dated.now_bounds.2
  | some second => exact words second rfl

theorem PairFrom.reportsExpiry {engine : SessionEngine} {now : Instant} {userData : Json}
    {origin : Int} {pair : TokenPair} (made : PairFrom engine now userData origin pair)
    (shared : engine.codec.keys.SharesSecrets)
    (differs : engine.codec.expiryField ≠ Claims.originName)
    (sized : (engine.callbacks.payload userData).toJson.isSized = true) :
    ReportsExpiry engine.codec pair.accessToken
      (engine.codec.timed (engine.callbacks.payload userData) pair.expiresAt origin)
      (engine.callbacks.lifetime (engine.callbacks.payload userData)) pair.expiresAt := by
  obtain ⟨issued, dated, token, expiresAt⟩ := made.issued
  rw [token, expiresAt, ← dated.sameClaims]
  exact dated.reportsExpiry shared differs sized made.originWord

/--
Every token that is issued under a shared secret, by itself or in a pair, and
over any store, is found expired from the second of its reported expiry on, and
at no instant before.  With a lifetime of whole seconds this is the reported
instant itself; otherwise the token is over less than a second too early.  A
token that is refused for its form is refused at all instants.
-/
theorem reported_expiry_counts_in_seconds {codec : Codec} (shared : codec.keys.SharesSecrets)
    (differs : codec.expiryField ≠ Claims.originName) :
    (∀ claims : Claims, claims.toJson.isSized = true → ∀ now lifetime issued origin,
        codec.Issues now claims lifetime issued origin →
          ReportsExpiry codec issued.token issued.claims lifetime issued.expiresAt) ∧
      ∀ engine : SessionEngine, engine.codec = codec →
        (∀ now store call pair, (engine.perform now store call).1.pair? = some pair →
            ∃ userData origin, PairFrom engine now userData origin pair) ∧
          ∀ now userData origin pair, PairFrom engine now userData origin pair →
            (engine.callbacks.payload userData).toJson.isSized = true →
              ReportsExpiry codec pair.accessToken
                (codec.timed (engine.callbacks.payload userData) pair.expiresAt origin)
                (engine.callbacks.lifetime (engine.callbacks.payload userData))
                pair.expiresAt := by
  constructor
  · intro claims sized now lifetime issued origin issues
    obtain ⟨dated, originWord⟩ := issues.issuedFrom
    exact dated.reportsExpiry shared differs sized originWord
  · rintro engine rfl
    refine ⟨?_, ?_⟩
    · intro now store call pair answer
      obtain ⟨draw, userData, origin, pending, -, prepared, words, rfl⟩ :=
        SessionEngine.exists_prepared_of_perform answer
      exact ⟨userData, _, .of_preparePair prepared words⟩
    · intro now userData origin pair made sized
      exact made.reportsExpiry shared differs sized

/-- An hour is made of whole seconds: the token is good until the last nanosecond before it. -/
theorem reported_expiry_counts_in_seconds_hour :
    ∃ issued, sampleCodec.issue ⟨1700000000, 999999999⟩ (.ofPairs [("user", .int 1)])
        (Span.ofSeconds 3600) [] = .ok issued ∧
      issued.expiresAt = ⟨1700003600, 0⟩ ∧
      ¬ sampleCodec.FindsExpired ⟨1700003599, 999999999⟩ issued.token ∧
      sampleCodec.FindsExpired ⟨1700003600, 0⟩ issued.token := by
  have made : ((sampleCodec.issue ⟨1700000000, 999999999⟩ (.ofPairs [("user", .int 1)])
      (Span.ofSeconds 3600) []).toOption.map fun issued =>
        (issued.expiresAt, decide issued.claims.Acceptable)) = some (⟨1700003600, 0⟩, true) := by
    decide +kernel
  obtain ⟨issued, found, seen⟩ := Option.map_eq_some_iff.mp made
  obtain ⟨whole, acceptable⟩ := Prod.mk.inj seen
  have signed := toOption_eq_some.mp found
  obtain ⟨tokens, -⟩ := reported_expiry_counts_in_seconds sharesSecrets_sampleCodec (by decide)
  have reports := tokens _ (by decide) _ _ _ _ (.fresh signed)
  refine ⟨issued, signed, whole, ?_, ?_⟩
  · rw [reports.exact (of_decide_eq_true acceptable) (by decide), whole]
    decide
  · rw [reports.second (of_decide_eq_true acceptable), whole]
    decide

/-- With a second and a half, a token is found expired before the instant that is reported. -/
theorem fractional_lifetime_ends_early :
    ∃ issued, sampleCodec.issue ⟨1700000000, 0⟩ (.ofPairs [("user", .int 1)])
        (Span.ofParts 1 500000000) [] = .ok issued ∧
      (⟨1700000001, 200000000⟩ : Instant) < issued.expiresAt ∧
      sampleCodec.FindsExpired ⟨1700000001, 200000000⟩ issued.token := by
  have made : ((sampleCodec.issue ⟨1700000000, 0⟩ (.ofPairs [("user", .int 1)])
      (Span.ofParts 1 500000000) []).toOption.map fun issued =>
        (issued.expiresAt, decide issued.claims.Acceptable)) =
          some (⟨1700000001, 500000000⟩, true) := by
    decide +kernel
  obtain ⟨issued, found, seen⟩ := Option.map_eq_some_iff.mp made
  obtain ⟨late, acceptable⟩ := Prod.mk.inj seen
  have signed := toOption_eq_some.mp found
  obtain ⟨dated, originWord⟩ := (Codec.Issues.fresh signed).issuedFrom
  have reports := dated.reportsExpiry sharesSecrets_sampleCodec (by decide) (by decide) originWord
  refine ⟨issued, signed, ?_, ?_⟩
  · rw [late]
    decide
  · rw [reports.second (of_decide_eq_true acceptable), late]
    decide

end SessionTokens
