import SessionTokens.Proofs.Session.Effect
import SessionTokens.Proofs.Session.Preparation
import SessionTokens.Proofs.Session.Runs

/-!
# Opening a session

Opening signs an access token, makes and dates the refresh token, and puts one
record into the store, in this order.  Both lifetimes are spans of any length,
and signing and dating fail just when their exact sums lie beyond the calendar.
The store is reached only when all that succeeded.
-/

namespace SessionTokens

def SessionEngine.accessLifetime (engine : SessionEngine) (userData : Json) : Span :=
  engine.callbacks.lifetime (engine.callbacks.payload userData)

/-- Whether a store gained the record of a token, and is otherwise as it was. -/
structure Store.Gains (before after : Store) (token : String) (record : RefreshRecord) :
    Prop where
  present : after.memory.record? token = some record
  others : ∀ other, other ≠ token → after.memory.record? other = before.memory.record? other
  /-- Under a new token the record is one more. -/
  fresh : before.memory.record? token = none →
    after.memory.records = (token, record) :: before.memory.records
  settings : after.backend = before.backend ∧ after.faults = before.faults

/-- How the attempt to open a session at an instant ends. -/
structure OpensOrFails (engine : SessionEngine) (now : Instant) (draw : Bytes) (userData : Json)
    (before : Store) (result : Except SessionError TokenPair × Store) : Prop where
  unsigned : (∃ fault, result.1 = .error (.token (.signing fault))) ↔
    now.floor.Overruns (engine.accessLifetime userData)
  /-- Besides its date, a refresh token can miss octets that were not drawn. -/
  unkept : (∃ fault, result.1 = .error (.internal fault)) ↔
    ¬ now.floor.Overruns (engine.accessLifetime userData) ∧
      (draw.length < refreshTokenSize ∨ now.floor.Overruns engine.config.refreshLifetime)
  opened : (∃ pair, result.1 = .ok pair) ↔
    ¬ now.floor.Overruns (engine.accessLifetime userData) ∧
      refreshTokenSize ≤ draw.length ∧ ¬ now.floor.Overruns engine.config.refreshLifetime
  /-- What fails leaves no trace. -/
  unchanged : ∀ error, result.1 = .error error → result.2 = before
  pair : ∀ pair, result.1 = .ok pair → pair.refreshToken = refreshTokenOf draw ∧
    pair.createdAt = now.floor ∧ pair.expiresAt = now.floor.plus (engine.accessLifetime userData)
  stored : ∀ pair, result.1 = .ok pair → before.Gains result.2 pair.refreshToken
    { token := pair.refreshToken
      userData := SessionRecord.toJson ⟨userData, now.seconds⟩
      expiry := now.floor.plus engine.config.refreshLifetime
      created := now }

/-- How a login opens a session: by what the authenticator says of the credentials. -/
structure OpensByLogin (engine : SessionEngine) (now : Instant) (draw : Bytes) (before : Store) :
    Prop where
  accepted : ∀ {authenticator credentials userData},
    engine.callbacks.authenticator = some authenticator →
      authenticator credentials = .ok userData →
        OpensOrFails engine now draw userData before
          ((engine.login now draw credentials before).1.map SessionGrant.pair,
            (engine.login now draw credentials before).2)
  refused : ∀ {authenticator credentials refusal},
    engine.callbacks.authenticator = some authenticator →
      authenticator credentials = .error refusal →
        engine.login now draw credentials before = (.error (.authentication refusal), before)
  unasked : engine.callbacks.authenticator = none → ∀ credentials,
    engine.login now draw credentials before = (.error .missingAuthenticator, before)

/-! ## Both lifetimes -/

inductive Issuing (now : Instant) (lifetime : Span) (origin : Int) :
    Except TokenError IssuedToken → Prop where
  | beyond (overruns : now.floor.Overruns lifetime) (fault : SigningFault) :
      Issuing now lifetime origin (.error (.signing fault))
  | issued (fits : ¬ now.floor.Overruns lifetime) (token : String) (claims : Claims) :
      Issuing now lifetime origin
        (.ok ⟨token, now.floor.plus lifetime, now.floor, origin, claims⟩)

inductive Dating (issuedAt : Instant) (lifetime : Span) : Except SessionError Instant → Prop where
  | beyond (overruns : issuedAt.Overruns lifetime) (fault : InternalFault) :
      Dating issuedAt lifetime (.error (.internal fault))
  | dated (fits : ¬ issuedAt.Overruns lifetime) :
      Dating issuedAt lifetime (.ok (issuedAt.plus lifetime))

inductive Preparing (engine : SessionEngine) (now : Instant) (draw : Bytes) (userData : Json) :
    Except SessionError PendingPair → Prop where
  | unsigned (overruns : now.floor.Overruns (engine.accessLifetime userData))
      (fault : SigningFault) : Preparing engine now draw userData (.error (.token (.signing fault)))
  | unkept (fits : ¬ now.floor.Overruns (engine.accessLifetime userData))
      (cause : draw.length < refreshTokenSize ∨ now.floor.Overruns engine.config.refreshLifetime)
      (fault : InternalFault) : Preparing engine now draw userData (.error (.internal fault))
  | prepared (fits : ¬ now.floor.Overruns (engine.accessLifetime userData))
      (enough : refreshTokenSize ≤ draw.length)
      (keeps : ¬ now.floor.Overruns engine.config.refreshLifetime) (accessToken : String) :
      Preparing engine now draw userData
        (.ok {
          pair :=
            { accessToken
              tokenType := TokenPair.bearer
              refreshToken := refreshTokenOf draw
              expiresAt := now.floor.plus (engine.accessLifetime userData)
              createdAt := now.floor }
          record := ⟨userData, now.seconds⟩
          expiry := now.floor.plus engine.config.refreshLifetime })

variable {algorithm : Algorithm} {secret : Bytes} {now : Instant}

theorem Codec.issuing {codec : Codec}
    (loaded : KeyManager.ofSecret algorithm secret = .ok codec.keys) (inside : now.InCalendar)
    (claims : Claims) (lifetime : Span) (origin : Int) (seed : Bytes) :
    Issuing now lifetime origin (codec.issueFrom now claims lifetime origin seed) := by
  have moved := inside.floor.later?_eq lifetime
  rw [issueFrom]
  split
  · next long => exact .beyond (inside.floor.overruns_of_long long) _
  · by_cases overruns : now.floor.Overruns lifetime
    · rw [moved, if_pos overruns]
      exact .beyond overruns _
    · rw [moved, if_neg overruns]
      obtain ⟨token, encoded⟩ := exists_encode_of_secret loaded seed
        (codec.timed claims (now.floor.plus lifetime) origin)
      simp only [encoded]
      exact .issued overruns token _

namespace SessionEngine

variable {engine : SessionEngine}

theorem dating (engine : SessionEngine) {issuedAt : Instant} (inside : issuedAt.InCalendar) :
    Dating issuedAt engine.config.refreshLifetime (engine.refreshExpiry issuedAt) := by
  have moved := inside.later?_eq engine.config.refreshLifetime
  rw [refreshExpiry]
  split
  · next long => exact .beyond (inside.overruns_of_long long) _
  · by_cases overruns : issuedAt.Overruns engine.config.refreshLifetime
    · rw [moved, if_pos overruns]
      exact .beyond overruns _
    · rw [moved, if_neg overruns]
      exact .dated overruns

theorem preparing (loaded : KeyManager.ofSecret algorithm secret = .ok engine.keys)
    (inside : now.InCalendar) (draw : Bytes) (userData : Json) :
    Preparing engine now draw userData (engine.preparePair now draw userData none) := by
  have issuing : Issuing now (engine.accessLifetime userData) now.seconds
      (engine.codec.issue now (engine.callbacks.payload userData)
        (engine.accessLifetime userData) (draw.drop refreshTokenSize)) :=
    Codec.issuing loaded inside _ _ _ _
  have dating := engine.dating inside.floor
  simp only [preparePair, signSession]
  change Preparing engine now draw userData ((Except.mapError SessionError.token
    (engine.codec.issue now (engine.callbacks.payload userData)
      (engine.accessLifetime userData) (draw.drop refreshTokenSize))) >>= _)
  generalize engine.codec.issue now _ _ _ = issued at issuing ⊢
  cases issuing with
  | beyond overruns fault => exact .unsigned overruns fault
  | issued fits token claims =>
      simp only [mapError_ok, bind, Except.bind]
      by_cases short : draw.length < refreshTokenSize
      · rw [newRefreshToken, if_pos short]
        exact .unkept fits (.inl short) _
      · rw [newRefreshToken, if_neg short]
        change Preparing engine now draw userData (engine.refreshExpiry now.floor >>= _)
        generalize engine.refreshExpiry now.floor = dated at dating ⊢
        cases dating with
        | beyond overruns fault => exact .unkept fits (.inr overruns) fault
        | dated keeps => exact .prepared fits (Nat.le_of_not_lt short) keeps token

end SessionEngine

/-! ## The store -/

variable {before : Store}

theorem Store.gains_set (before : Store) (now : Instant) (token : String) (userData : Json)
    (expiry : Instant) :
    before.Gains { before with memory := before.memory.set now token userData expiry } token
      ⟨token, userData, expiry, now⟩ where
  present := before.memory.record?_set_self now token userData expiry
  others _ differs := MemoryStore.record?_set_of_ne differs
  fresh absent := by simp only [MemoryStore.records_set, MemoryStore.delete_eq_self absent]
  settings := ⟨rfl, rfl⟩

namespace SessionEngine

variable {engine : SessionEngine}

theorem opensOrFails (loaded : KeyManager.ofSecret algorithm secret = .ok engine.keys)
    (inside : now.InCalendar) (draw : Bytes) (whole : before.faults = []) (userData : Json) :
    OpensOrFails engine now draw userData before
      (engine.generateTokenPair now draw userData before) := by
  have preparing := preparing loaded inside draw userData
  rw [generateTokenPair, issuePair]
  generalize engine.preparePair now draw userData none = prepared at preparing ⊢
  cases preparing with
  | unsigned overruns fault =>
      constructor
      · simp [overruns]
      · simp [overruns]
      · simp [overruns]
      · intro error failed
        rfl
      · intro pair opened
        cases opened
      · intro pair opened
        cases opened
  | unkept fits cause fault =>
      constructor
      · simp [fits]
      · simp [fits, cause]
      · rcases cause with short | overruns
        · simp [Nat.not_le.mpr short]
        · simp [overruns]
      · intro error failed
        rfl
      · intro pair opened
        cases opened
      · intro pair opened
        cases opened
  | prepared fits enough keeps accessToken =>
      simp only [deposit_of_faults whole]
      constructor
      · simp [fits]
      · simp [keeps, Nat.not_lt.mpr enough]
      · simp [fits, enough, keeps]
      · intro error failed
        cases failed
      · intro pair opened
        cases opened
        exact ⟨rfl, rfl, rfl⟩
      · intro pair opened
        cases opened
        exact before.gains_set now _ _ _

/-- A login that is accepted is the opening of a session. -/
theorem login_of_accepted {authenticator : Json → Except AuthenticationError Json}
    {credentials userData : Json} (asks : engine.callbacks.authenticator = some authenticator)
    (accepts : authenticator credentials = .ok userData) (draw : Bytes) :
    ((engine.login now draw credentials before).1.map SessionGrant.pair,
        (engine.login now draw credentials before).2) =
      engine.generateTokenPair now draw userData before := by
  simp only [login, authenticate, asks, accepts, mapError_ok]
  rcases engine.generateTokenPair now draw userData before with ⟨error | pair, after⟩
  · rfl
  · rfl

theorem opensByLogin (loaded : KeyManager.ofSecret algorithm secret = .ok engine.keys)
    (inside : now.InCalendar) (draw : Bytes) (whole : before.faults = []) :
    OpensByLogin engine now draw before := by
  constructor
  · intro authenticator credentials userData asks accepts
    rw [login_of_accepted asks accepts]
    exact opensOrFails loaded inside draw whole userData
  · intro authenticator credentials refusal asks refuses
    simp only [login, authenticate, asks, refuses, mapError_error]
  · intro missing credentials
    simp only [login, authenticate, missing]

end SessionEngine

/--
Under a shared secret a session is opened as a whole or not at all.  Signing
fails just when the lifetime of the access token leads beyond the calendar,
dating just when that of the refresh token does, and a failure leaves the store
as it was.  Between the two the refresh token is made, which fails just when
the source of randomness drew too few octets.  A success adds one record, under the token that is handed out.
-/
theorem opening_is_all_or_nothing (engine : SessionEngine) {algorithm : Algorithm}
    {secret : Bytes} (loaded : KeyManager.ofSecret algorithm secret = .ok engine.keys)
    {now : Instant} (inside : now.InCalendar) (draw : Bytes) {before : Store}
    (whole : before.faults = []) :
    (∀ userData, OpensOrFails engine now draw userData before
      (engine.generateTokenPair now draw userData before)) ∧
      OpensByLogin engine now draw before :=
  ⟨SessionEngine.opensOrFails loaded inside draw whole,
    SessionEngine.opensByLogin loaded inside draw whole⟩

/-- Settings under which access tokens live for a second less a nanosecond. -/
def brinkConfig (refreshLifetime : Span) : SessionConfig :=
  { timeout := ⟨999999999⟩, refreshLifetime }

def brinkEngine (refreshLifetime : Span) : SessionEngine where
  config := brinkConfig refreshLifetime
  keys := ⟨.hs256, .fixed (.secret [1, 2, 3]) (.secret [1, 2, 3])⟩
  callbacks :=
    { Callbacks.standard (brinkConfig refreshLifetime) with
      authenticator := some fun credentials =>
        if credentials = .null then .error .missingLoginValues else .ok credentials }

/-- At the end of the calendar one nanosecond decides. -/
theorem opening_is_all_or_nothing_last :
    KeyManager.ofSecret .hs256 [1, 2, 3] = .ok (brinkEngine ⟨999999999⟩).keys ∧
      Instant.last.InCalendar ∧ ({} : Store).faults = [] ∧
      (∃ pair, ((brinkEngine ⟨999999999⟩).generateTokenPair Instant.last (sampleDraw 0)
          (.string "alice") {}).1 = .ok pair ∧
        pair.createdAt = ⟨8210266876799, 0⟩ ∧ pair.expiresAt = Instant.last ∧
        ((brinkEngine ⟨999999999⟩).generateTokenPair Instant.last (sampleDraw 0)
          (.string "alice") {}).2.memory.records = [(pair.refreshToken, ⟨pair.refreshToken,
            SessionRecord.toJson ⟨.string "alice", 8210266876799⟩, Instant.last,
            Instant.last⟩)]) ∧
      (∃ fault, (brinkEngine ⟨1000000000⟩).generateTokenPair Instant.last (sampleDraw 0)
        (.string "alice") {} = (.error (.internal fault), {})) ∧
      (brinkEngine ⟨1000000000⟩).login Instant.last (sampleDraw 0) .null {} =
        (.error (.authentication .missingLoginValues), {}) := by
  have loaded (span : Span) : KeyManager.ofSecret .hs256 [1, 2, 3] = .ok (brinkEngine span).keys :=
    rfl
  have inside : Instant.last.InCalendar := by decide
  have whole : ({} : Store).faults = [] := rfl
  obtain ⟨opens, -⟩ :=
    opening_is_all_or_nothing (brinkEngine ⟨999999999⟩) (loaded _) inside (sampleDraw 0) whole
  obtain ⟨fails, byLogin⟩ :=
    opening_is_all_or_nothing (brinkEngine ⟨1000000000⟩) (loaded _) inside (sampleDraw 0) whole
  have reaches : ¬ Instant.last.floor.Overruns ⟨999999999⟩ := by decide
  have overruns : Instant.last.floor.Overruns ⟨1000000000⟩ := by decide
  obtain ⟨pair, opened⟩ := (opens (.string "alice")).opened.mpr ⟨reaches, by decide, reaches⟩
  obtain ⟨-, createdAt, expiresAt⟩ := (opens _).pair pair opened
  have stored := ((opens _).stored pair opened).fresh rfl
  obtain ⟨fault, failed⟩ := (fails (.string "alice")).unkept.mpr ⟨reaches, .inr overruns⟩
  exact ⟨loaded _, inside, whole,
    ⟨pair, opened, createdAt, expiresAt.trans (by decide +kernel), stored⟩,
    ⟨fault, Prod.ext failed ((fails _).unchanged _ failed)⟩, byLogin.refused rfl rfl⟩

end SessionTokens
