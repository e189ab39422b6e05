import SessionTokens.Proofs.Session.FailedRotation
import SessionTokens.Proofs.Session.Handout
import SessionTokens.Proofs.Session.Ownership
import SessionTokens.Proofs.Token.Verdict

/-!
# The refresh window

A session may be refreshed for a while after it began.  The first second of the
window is computed in signed words, which saturate; but the check it serves is
exact, for every second in which a session can have begun.  Time and a shorter
window can only close it.
-/

namespace SessionTokens

namespace SessionEngine

/-- Whether a session that began in a second is too old to be refreshed. -/
def PastWindow (engine : SessionEngine) (now : Instant) (origin : Int) : Prop :=
  (engine.config.maxRefresh.seconds : Int) < now.seconds - origin

instance (engine : SessionEngine) (now : Instant) (origin : Int) :
    Decidable (engine.PastWindow now origin) :=
  inferInstanceAs (Decidable (_ < _))

def withMaxRefresh (engine : SessionEngine) (span : Span) : SessionEngine :=
  { engine with config := { engine.config with maxRefresh := span } }

/-- Whether a request carries an access token for claims that is valid or only expired. -/
def Presents (engine : SessionEngine) (now : Instant) (request : Request) (claims : Claims) :
    Prop :=
  ∃ token, engine.accessToken request = .ok token ∧
    (engine.codec.verify now token = .ok claims ∨
      engine.codec.verify now token = .error (.expired claims))

end SessionEngine

/-- Whether a store holds a session under a refresh token that is not over. -/
structure Store.Holds (store : Store) (now : Instant) (token : String)
    (session : SessionRecord) : Prop where
  whole : store.faults = []
  filled : token ≠ ""
  live : ∃ record, store.memory.record? token = some record ∧ record.isExpiredAt now = false ∧
    SessionRecord.read? record.userData = some session

structure ExactWindow (engine : SessionEngine) : Prop where
  /-- The first second of a session is a number, cut to a second and kept in a word. -/
  claimed : ∀ {now request claims value number}, engine.Presents now request claims →
    claims.get? Claims.originName = some value → value.rational? = some number →
      engine.checkRefreshable now request =
        if engine.PastWindow now (Claims.secondOf number) then .error .expiredToken
        else .ok claims
  unclaimed : ∀ {now request claims}, engine.Presents now request claims →
    (∀ value, claims.get? Claims.originName = some value → value.rational? = none) →
      engine.checkRefreshable now request = .error (.token (.invalid .origin))
  stored : ∀ {now token session} {store : Store} (draw : Bytes), store.Holds now token session →
    ((engine.refreshTokenPair now draw token store).1 = .error .expiredToken ↔
      engine.PastWindow now session.origin)
  /-- A session is refused alike by its access token and by its record. -/
  alike : ∀ {now request claims token session} {store : Store} (draw : Bytes),
    engine.Presents now request claims → store.Holds now token session →
      claims.get? Claims.originName = some (.int session.origin) →
        (engine.checkRefreshable now request = .error .expiredToken ↔
          (engine.refreshTokenPair now draw token store).1 = .error .expiredToken)

structure MonotoneWindow (engine : SessionEngine) : Prop where
  later : ∀ {now later request}, now ≤ later →
    engine.checkRefreshable now request = .error .expiredToken →
      engine.checkRefreshable later request = .error .expiredToken
  laterStored : ∀ {now later token} {store : Store} (draw redrawn : Bytes), store.faults = [] →
    now ≤ later → (engine.refreshTokenPair now draw token store).1 = .error .expiredToken →
      ∃ record, store.memory.record? token = some record ∧
        (engine.refreshTokenPair later redrawn token store).1 =
          .error (if record.isExpiredAt later then .refreshTokenNotFound else .expiredToken)
  wider : ∀ {now request} {span : Span}, engine.config.maxRefresh.nanos ≤ span.nanos →
    engine.checkRefreshable now request ≠ .error .expiredToken →
      (engine.withMaxRefresh span).checkRefreshable now request =
        engine.checkRefreshable now request
  widerStored : ∀ {now draw token store} {span : Span},
    engine.config.maxRefresh.nanos ≤ span.nanos →
      (engine.refreshTokenPair now draw token store).1 ≠ .error .expiredToken →
        (engine.withMaxRefresh span).refreshTokenPair now draw token store =
          engine.refreshTokenPair now draw token store

/-! ## The first second of the window -/

namespace Claims

theorem secondOf_bounds (number : ℚ) :
    Decimal.minInt64 ≤ secondOf number ∧ secondOf number ≤ Decimal.maxInt64 := by
  rw [secondOf, clampInt64]
  exact ⟨le_max_left _ _, max_le (by decide) (min_le_left _ _)⟩

theorem secondOf_intCast {second : Int} (low : Decimal.minInt64 ≤ second)
    (high : second ≤ Decimal.maxInt64) : secondOf second = second := by
  rw [secondOf, Int.floor_intCast, Int.ceil_intCast, ite_self, clampInt64, min_eq_right high,
    max_eq_right low]

theorem origin?_of_rational? {claims : Claims} {value : Json} {number : ℚ}
    (present : claims.get? originName = some value) (read : value.rational? = some number) :
    claims.origin? = some (secondOf number) := by
  rw [origin?, present, Option.bind_some, Json.wholeSeconds?_eq, read, Option.map_some]

theorem origin?_eq_none {claims : Claims}
    (unread : ∀ value, claims.get? originName = some value → value.rational? = none) :
    claims.origin? = none := by
  rw [origin?, Option.bind_eq_none_iff]
  intro value present
  rw [Json.wholeSeconds?_eq, unread value present, Option.map_none]

end Claims

namespace SessionEngine

variable {engine : SessionEngine} {now later : Instant} {request : Request} {claims : Claims}
variable {origin : Int} {span : Span}

/-- Saturation moves the start of the window only beyond all seconds of a word. -/
theorem checkWindow_eq (bounded : engine.config.maxRefresh.seconds < 2 ^ 63)
    (low : Decimal.minInt64 ≤ origin) :
    engine.checkWindow now origin =
      if engine.PastWindow now origin then .error .expiredToken else .ok () := by
  have same : origin < engine.windowStart now ↔ engine.PastWindow now origin := by
    rw [windowStart, PastWindow, Decimal.maxInt64]
    omega
  simp only [checkWindow, same]

/-- The window only closes as time passes. -/
theorem checkWindow_later (forward : now ≤ later)
    (closed : engine.checkWindow now origin = .error .expiredToken) :
    engine.checkWindow later origin = .error .expiredToken := by
  rw [checkWindow] at closed ⊢
  split at closed
  · next before =>
      have moved : engine.windowStart now ≤ engine.windowStart later := by
        rw [Instant.le_iff] at forward
        rw [windowStart, windowStart]
        omega
      rw [if_pos (lt_of_lt_of_le before moved)]
  · cases closed

/-- A longer window is open wherever a shorter one is. -/
theorem checkWindow_wider (wider : engine.config.maxRefresh.nanos ≤ span.nanos)
    (opened : engine.checkWindow now origin = .ok ()) :
    (engine.withMaxRefresh span).checkWindow now origin = .ok () := by
  rw [checkWindow] at opened ⊢
  split at opened
  · cases opened
  · next inside =>
      have seconds : engine.config.maxRefresh.seconds ≤ span.seconds :=
        Nat.div_le_div_right wider
      have moved : (engine.withMaxRefresh span).windowStart now ≤ engine.windowStart now := by
        simp only [windowStart, withMaxRefresh]
        omega
      rw [if_neg fun before => inside (lt_of_lt_of_le before moved)]

/-! ## Access tokens -/

theorem checkRefreshable_of_presents (presents : engine.Presents now request claims) :
    engine.checkRefreshable now request =
      (engine.checkClaims now claims).map fun _ => claims := by
  obtain ⟨token, carried, verified⟩ := presents
  have accepted : engine.verifyAllowingExpiry now token = .ok claims := by
    rw [verifyAllowingExpiry]
    rcases verified with valid | expired
    · rw [valid]
    · rw [expired]
  rw [checkRefreshable, carried]
  simp only [bind, Except.bind, refreshableClaims, accepted]
  cases engine.checkClaims now claims <;> rfl

theorem presents_of_checkRefreshable
    (refused : engine.checkRefreshable now request = .error .expiredToken) :
    ∃ claims origin, engine.Presents now request claims ∧ claims.origin? = some origin ∧
      engine.checkWindow now origin = .error .expiredToken := by
  rw [checkRefreshable] at refused
  obtain missing | ⟨token, carried, refused⟩ := bind_eq_error.mp refused
  · obtain ⟨fault, -, same⟩ := mapError_eq_error.mp missing
    cases same
  obtain unverified | ⟨claims, verified, refused⟩ := bind_eq_error.mp refused
  · cases verifyAllowingExpiry_error unverified
  obtain closed | ⟨-, -, closed⟩ := bind_eq_error.mp refused
  · have presents : engine.Presents now request claims := by
      refine ⟨token, carried, ?_⟩
      rw [verifyAllowingExpiry] at verified
      split at verified
      · next valid => exact .inl (by rw [valid, Except.ok.inj verified])
      · next expired => exact .inr (by rw [expired, Except.ok.inj verified])
      · cases verified
    rw [checkClaims] at closed
    split at closed
    · cases closed
    · next origin first => exact ⟨claims, origin, presents, first, closed⟩
  · cases closed

/-- An access token keeps its claims when it expires. -/
theorem Presents.still (presents : engine.Presents now request claims) (forward : now ≤ later) :
    engine.Presents later request claims := by
  obtain ⟨token, carried, verified⟩ := presents
  refine ⟨token, carried, ?_⟩
  rcases engine.codec.verify_of_later token forward with same | ⟨held, valid, expired⟩
  · rwa [same]
  · rcases verified with accepted | stale
    · cases valid.symm.trans accepted
      exact .inr expired
    · cases valid.symm.trans stale

theorem checkRefreshable_later (forward : now ≤ later)
    (refused : engine.checkRefreshable now request = .error .expiredToken) :
    engine.checkRefreshable later request = .error .expiredToken := by
  obtain ⟨claims, origin, presents, first, closed⟩ := presents_of_checkRefreshable refused
  rw [checkRefreshable_of_presents (presents.still forward), checkClaims, first]
  simp only [checkWindow_later forward closed]
  rfl

theorem checkClaims_wider (wider : engine.config.maxRefresh.nanos ≤ span.nanos)
    (opened : engine.checkClaims now claims ≠ .error .expiredToken) :
    (engine.withMaxRefresh span).checkClaims now claims = engine.checkClaims now claims := by
  rw [checkClaims] at opened
  rw [checkClaims, checkClaims]
  cases first : claims.origin? with
  | none => rfl
  | some origin =>
      simp only [first] at opened ⊢
      cases window : engine.checkWindow now origin with
      | error error =>
          cases checkWindow_error window
          exact absurd window opened
      | ok => exact checkWindow_wider wider window

theorem checkRefreshable_wider (wider : engine.config.maxRefresh.nanos ≤ span.nanos)
    (admitted : engine.checkRefreshable now request ≠ .error .expiredToken) :
    (engine.withMaxRefresh span).checkRefreshable now request =
      engine.checkRefreshable now request := by
  have sameToken : (engine.withMaxRefresh span).accessToken request =
      engine.accessToken request := rfl
  have sameVerdict (token : String) : (engine.withMaxRefresh span).verifyAllowingExpiry now token =
      engine.verifyAllowingExpiry now token := rfl
  rw [checkRefreshable] at admitted
  rw [checkRefreshable, checkRefreshable, sameToken]
  cases carried : engine.accessToken request with
  | error error => rfl
  | ok token =>
      simp only [carried, bind, Except.bind, refreshableClaims, sameVerdict] at admitted ⊢
      cases verified : engine.verifyAllowingExpiry now token with
      | error error => rfl
      | ok claims =>
          simp only [verified] at admitted ⊢
          rw [checkClaims_wider wider]
          intro refused
          rw [refused] at admitted
          exact admitted rfl

/-! ## Records -/

variable {draw : Bytes} {token : String} {store : Store} {record : RefreshRecord}

theorem renew_eq_expired :
    engine.renew now draw record = .error .expiredToken ↔
      ∃ session, SessionRecord.read? record.userData = some session ∧
        engine.checkWindow now session.origin = .error .expiredToken := by
  rw [renew]
  cases read : SessionRecord.read? record.userData with
  | none => simp
  | some session =>
      dsimp only
      rw [bind_eq_error]
      constructor
      · rintro (closed | ⟨-, -, failed⟩)
        · exact ⟨session, rfl, closed⟩
        · cases preparePair_error failed
      · rintro ⟨_, ⟨⟩, closed⟩
        exact .inl closed

theorem renew_wider (wider : engine.config.maxRefresh.nanos ≤ span.nanos)
    (renewable : engine.renew now draw record ≠ .error .expiredToken) :
    (engine.withMaxRefresh span).renew now draw record = engine.renew now draw record := by
  have samePair (userData : Json) (origin : Option Int) :
      (engine.withMaxRefresh span).preparePair now draw userData origin =
        engine.preparePair now draw userData origin := rfl
  cases read : SessionRecord.read? record.userData with
  | none => rw [renew, renew, read]
  | some session =>
      cases window : engine.checkWindow now session.origin with
      | error error =>
          cases checkWindow_error window
          exact absurd (renew_eq_expired.mpr ⟨session, read, window⟩) renewable
      | ok =>
          rw [renew, renew, read]
          simp only [checkWindow_wider wider window, window, samePair]

/-- Only a live record outside the window is refused as too old. -/
theorem exists_record_of_rotate (whole : store.faults = [])
    (refused : (engine.rotate now draw token store).1 = .error .expiredToken) :
    ∃ record session, store.memory.record? token = some record ∧
      SessionRecord.read? record.userData = some session ∧
      engine.checkWindow now session.origin = .error .expiredToken := by
  rw [fst_rotate whole] at refused
  split at refused
  · cases refused
  · next record found =>
      split at refused
      · cases refused
      · obtain ⟨session, read, closed⟩ := renew_eq_expired.mp (map_eq_error.mp refused)
        exact ⟨record, session, found, read, closed⟩

theorem refreshTokenPair_of_holds {session : SessionRecord}
    (holds : store.Holds now token session) :
    (engine.refreshTokenPair now draw token store).1 = .error .expiredToken ↔
      engine.checkWindow now session.origin = .error .expiredToken := by
  obtain ⟨record, found, live, read⟩ := holds.live
  rw [refreshTokenPair, if_neg holds.filled, fst_rotate holds.whole, found]
  simp only [live, Bool.false_eq_true, if_false]
  rw [map_eq_error, renew_eq_expired, read]
  simp

theorem refreshTokenPair_later {redrawn : Bytes} (whole : store.faults = []) (forward : now ≤ later)
    (refused : (engine.refreshTokenPair now draw token store).1 = .error .expiredToken) :
    ∃ record, store.memory.record? token = some record ∧
      (engine.refreshTokenPair later redrawn token store).1 =
        .error (if record.isExpiredAt later then .refreshTokenNotFound else .expiredToken) := by
  rw [refreshTokenPair] at refused ⊢
  split at refused
  · cases refused
  · next filled =>
      obtain ⟨record, session, found, read, closed⟩ := exists_record_of_rotate whole refused
      refine ⟨record, found, ?_⟩
      rw [if_neg filled, fst_rotate whole, found]
      by_cases expired : record.isExpiredAt later = true
      · simp only [expired, if_true]
      · have failed : engine.renew later redrawn record = .error .expiredToken :=
          renew_eq_expired.mpr ⟨session, read, checkWindow_later forward closed⟩
        simp only [expired, failed]
        rfl

theorem rotate_wider (wider : engine.config.maxRefresh.nanos ≤ span.nanos)
    (renewable : (engine.rotate now draw token store).1 ≠ .error .expiredToken) :
    (engine.withMaxRefresh span).rotate now draw token store =
      engine.rotate now draw token store := by
  rw [rotate] at renewable
  rw [rotate, rotate]
  rcases taken : takeRecord now token store with ⟨error | record, left⟩
  · rfl
  · rw [taken] at renewable
    have same : (engine.withMaxRefresh span).renew now draw record =
        engine.renew now draw record := by
      refine renew_wider wider fun refused => renewable ?_
      simp only [refused]
    simp only [same]

end SessionEngine

/-! ## The whole window -/

theorem SessionEngine.exactWindow (engine : SessionEngine)
    (bounded : engine.config.maxRefresh.seconds < 2 ^ 63) : ExactWindow engine := by
  have stored {now token session} {store : Store} (draw : Bytes)
      (holds : store.Holds now token session) :
      (engine.refreshTokenPair now draw token store).1 = .error .expiredToken ↔
        engine.PastWindow now session.origin := by
    obtain ⟨record, -, -, read⟩ := holds.live
    rw [refreshTokenPair_of_holds holds,
      checkWindow_eq bounded (SessionRecord.signed_bounds read).1]
    simp
  have claimed {now request claims value number} (presents : engine.Presents now request claims)
      (present : claims.get? Claims.originName = some value)
      (read : value.rational? = some number) :
      engine.checkRefreshable now request =
        if engine.PastWindow now (Claims.secondOf number) then .error .expiredToken
        else .ok claims := by
    rw [checkRefreshable_of_presents presents, checkClaims,
      Claims.origin?_of_rational? present read]
    dsimp only
    rw [checkWindow_eq bounded (Claims.secondOf_bounds number).1]
    split <;> rfl
  constructor
  · exact claimed
  · intro now request claims presents unread
    rw [checkRefreshable_of_presents presents, checkClaims, Claims.origin?_eq_none unread]
    rfl
  · exact stored
  · intro now request claims token session store draw presents holds first
    obtain ⟨record, -, -, read⟩ := holds.live
    obtain ⟨low, high⟩ := SessionRecord.signed_bounds read
    rw [stored draw holds, claimed presents first rfl, Claims.secondOf_intCast low high]
    simp

theorem SessionEngine.monotoneWindow (engine : SessionEngine) : MonotoneWindow engine := by
  constructor
  · exact checkRefreshable_later
  · exact fun _ _ => refreshTokenPair_later
  · exact checkRefreshable_wider
  · intro now draw token store span wider renewable
    rw [refreshTokenPair] at renewable
    rw [refreshTokenPair, refreshTokenPair]
    split
    · rfl
    · next filled =>
        rw [if_neg filled] at renewable
        exact rotate_wider wider renewable

/--
The refresh window is exact for every second in which a session can have begun,
and the same for the access token and the record of the session.  It only closes
as time passes, and a longer one admits all that a shorter one does.
-/
theorem refresh_window_is_exact (engine : SessionEngine)
    (bounded : engine.config.maxRefresh.seconds < 2 ^ 63) :
    ExactWindow engine ∧ MonotoneWindow engine :=
  ⟨engine.exactWindow bounded, engine.monotoneWindow⟩

def widestEngine : SessionEngine := sampleEngine.withMaxRefresh (Span.ofSeconds (2 ^ 63 - 1))

/-- Claims of a session that began in the second `-1e300`, before all seconds of a word. -/
def ancientClaims : Claims :=
  .ofPairs [("exp", .int 4000000000), ("orig_iat", .float ⟨true, 6724873095247260, 944⟩)]

/-- A token over these claims is presented by the request that carries it. -/
theorem exists_ancientToken :
    ∃ token, widestEngine.codec.Signs ancientClaims token ∧
      widestEngine.Presents ⟨-1, 0⟩ (sampleRequest none (some token)) ancientClaims := by
  have loaded : KeyManager.ofSecret .hs256 [1, 2, 3] = .ok widestEngine.codec.keys := rfl
  obtain ⟨token, encoded⟩ := Codec.exists_encode_of_secret loaded [] ancientClaims
  have signs : widestEngine.codec.Signs ancientClaims token := ⟨_, encoded⟩
  have same : ancientClaims.reread? = some ancientClaims := by decide +kernel
  have accepted : widestEngine.codec.authenticate token = .ok ancientClaims := by
    rw [Codec.authenticate_of_signs (.single loaded) signs, same]
    rfl
  have expiry : widestEngine.codec.expiry ancientClaims = .ok 4000000000 := by decide +kernel
  have valid : widestEngine.codec.verify ⟨-1, 0⟩ token = .ok ancientClaims :=
    Codec.verify_of_authenticate accepted expiry (by decide)
  obtain ⟨graphic, filled⟩ := Codec.isGraphic_of_signs signs
  exact ⟨token, signs, token, accessToken_sampleRequest rfl rfl graphic filled none, .inl valid⟩

def ancientStore : Store where
  memory.records := [("ancient", ⟨"ancient",
    SessionRecord.toJson ⟨.string "alice", Decimal.minInt64⟩, ⟨4000000000, 0⟩, ⟨-1, 0⟩⟩)]

theorem refresh_window_is_exact_ancient :
    widestEngine.config.maxRefresh.seconds < 2 ^ 63 ∧
      (∃ token, widestEngine.codec.Signs ancientClaims token ∧
        widestEngine.checkRefreshable ⟨-1, 999999999⟩ (sampleRequest none (some token)) =
          .ok ancientClaims ∧
        ∀ later, ⟨0, 0⟩ ≤ later → widestEngine.checkRefreshable later
          (sampleRequest none (some token)) = .error .expiredToken) ∧
      ancientStore.Holds ⟨-1, 999999999⟩ "ancient" ⟨.string "alice", Decimal.minInt64⟩ ∧
      ancientStore.Holds ⟨0, 0⟩ "ancient" ⟨.string "alice", Decimal.minInt64⟩ ∧
      (widestEngine.refreshTokenPair ⟨-1, 999999999⟩ (sampleDraw 0) "ancient" ancientStore).1 ≠
        .error .expiredToken ∧
      (widestEngine.refreshTokenPair ⟨0, 0⟩ (sampleDraw 0) "ancient" ancientStore).1 =
        .error .expiredToken := by
  have bounded : widestEngine.config.maxRefresh.seconds < 2 ^ 63 := by decide +kernel
  obtain ⟨exact, monotone⟩ := refresh_window_is_exact widestEngine bounded
  obtain ⟨token, encoded, presents⟩ := exists_ancientToken
  have first : Claims.secondOf (Binary64.value ⟨true, 6724873095247260, 944⟩) =
      Decimal.minInt64 := by
    have cut : (Json.float ⟨true, 6724873095247260, 944⟩).wholeSeconds? =
        some Decimal.minInt64 := by decide +kernel
    rw [Json.wholeSeconds?_eq] at cut
    exact Option.some.inj cut
  -- The end of the window lies between the last nanosecond of one second and the next second.
  have inside : ¬ widestEngine.PastWindow ⟨-1, 999999999⟩ Decimal.minInt64 := by decide +kernel
  have past : widestEngine.PastWindow ⟨0, 0⟩ Decimal.minInt64 := by decide +kernel
  have admitted : widestEngine.checkRefreshable ⟨-1, 999999999⟩
      (sampleRequest none (some token)) = .ok ancientClaims := by
    rw [exact.claimed (presents.still (by decide)) rfl rfl, first, if_neg inside]
  have refused : widestEngine.checkRefreshable ⟨0, 0⟩ (sampleRequest none (some token)) =
      .error .expiredToken := by
    rw [exact.claimed (presents.still (by decide)) rfl rfl, first, if_pos past]
  have held (now : Instant) (live : now < ⟨4000000000, 0⟩) :
      ancientStore.Holds now "ancient" ⟨.string "alice", Decimal.minInt64⟩ :=
    ⟨rfl, by decide, _, rfl, RefreshRecord.isExpiredAt_eq_false.mpr live, by decide +kernel⟩
  have before := held ⟨-1, 999999999⟩ (by decide)
  have after := held ⟨0, 0⟩ (by decide)
  exact ⟨bounded, ⟨token, encoded, admitted, fun later forward => monotone.later forward refused⟩,
    before, after, fun closed => inside ((exact.stored _ before).mp closed),
    (exact.stored _ after).mpr past⟩

end SessionTokens
