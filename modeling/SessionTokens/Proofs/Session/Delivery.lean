import SessionTokens.Proofs.Session.FailedRotation
import SessionTokens.Proofs.Session.Identity
import SessionTokens.Proofs.Session.Opening

/-!
# Refresh tokens as they are handed out

A refresh token lives from the start of the second in which it is issued, while
the store looks at the clock to the nanosecond.  So a token is over when it is
handed out if its whole lifetime is no longer than what has passed of that
second; every other token can be used at once.
-/

namespace SessionTokens

/-- Whether a refresh token outlives what has passed of the second in which it is issued. -/
def SessionEngine.OutlivesSecond (engine : SessionEngine) (now : Instant) : Prop :=
  now.nanos < engine.config.refreshLifetime.nanos ∨
    Span.nanosPerSecond ≤ engine.config.refreshLifetime.nanos

instance (engine : SessionEngine) (now : Instant) : Decidable (engine.OutlivesSecond now) :=
  inferInstanceAs (Decidable (_ ∨ _))

/-- Whether a refresh token of a store can be used at an instant. -/
structure Usable (engine : SessionEngine) (now : Instant) (store : Store) (token : String) :
    Prop where
  read : ∃ userData, (store.get now token).1 = .ok userData
  /-- It is counted besides the live records of the other tokens. -/
  counted : (store.count now).1 = .ok ((store.memory.delete token).count now + 1)
  traded : ∀ draw,
    (engine.refreshTokenPair now draw token store).1 ≠ .error .refreshTokenNotFound

/-- Whether a refresh token of a store is over at an instant. -/
structure Lapsed (engine : SessionEngine) (now : Instant) (store : Store) (token : String) :
    Prop where
  unread : (store.get now token).1 = .error .notFound
  uncounted : (store.count now).1 = .ok ((store.memory.delete token).count now)
  untraded : token ≠ "" → ∀ draw,
    (engine.refreshTokenPair now draw token store).1 = .error .refreshTokenNotFound

/-- Whether the latest record of a store is that of a token, issued at an instant. -/
structure Deposited (engine : SessionEngine) (now : Instant) (store : Store) (token : String)
    (expiry : Instant) : Prop where
  whole : store.faults = []
  set : ∃ others userData, store.memory = MemoryStore.set others now token userData expiry
  lifetime : now.floor.later? engine.config.refreshLifetime = some expiry

variable {engine : SessionEngine} {now expiry : Instant} {store : Store} {token : String}

/-! ## A record that was just put into the store -/

namespace Deposited

/-- Whether a record is live at once depends on the parts of the second alone. -/
theorem live_iff (deposited : Deposited engine now store token expiry) :
    now < expiry ↔ engine.OutlivesSecond now := by
  have seconds := Instant.seconds_of_later? deposited.lifetime
  have nanos := Instant.nanos_of_later? deposited.lifetime
  rw [Instant.lt_iff, seconds, nanos, SessionEngine.OutlivesSecond]
  simp only [Span.seconds, Span.subsecond, Span.nanosPerSecond]
  omega

theorem count (deposited : Deposited engine now store token expiry) :
    (store.count now).1 =
      .ok ((store.memory.delete token).count now + if now < expiry then 1 else 0) := by
  obtain ⟨others, userData, set⟩ := deposited.set
  rw [Store.count_of_faults deposited.whole, set, MemoryStore.count_set, MemoryStore.delete_set]

theorem record? (deposited : Deposited engine now store token expiry) :
    ∃ userData, store.memory.record? token = some ⟨token, userData, expiry, now⟩ := by
  obtain ⟨others, userData, set⟩ := deposited.set
  exact ⟨userData, set ▸ others.record?_set_self now token userData expiry⟩

theorem usable (deposited : Deposited engine now store token expiry)
    (outlives : engine.OutlivesSecond now) : Usable engine now store token := by
  have live := deposited.live_iff.mpr outlives
  obtain ⟨userData, found⟩ := deposited.record?
  have held : RefreshRecord.isExpiredAt ⟨token, userData, expiry, now⟩ now = false :=
    RefreshRecord.isExpiredAt_eq_false.mpr live
  constructor
  · refine ⟨userData, ?_⟩
    rw [Store.get_of_faults deposited.whole, MemoryStore.get, found]
    simp only [held, Bool.false_eq_true, if_false]
  · rw [deposited.count, if_pos live]
  · intro draw
    rw [SessionEngine.refreshTokenPair]
    split
    · intro missing
      cases missing
    · rw [SessionEngine.fst_rotate deposited.whole, found]
      simp only [held, Bool.false_eq_true, if_false]
      intro refused
      -- What fails after the record was found is the window or the signing.
      rcases SessionEngine.renew_error (map_eq_error.mp refused) with late | failure
      · cases late
      · cases failure

theorem lapsed (deposited : Deposited engine now store token expiry)
    (outlived : ¬ engine.OutlivesSecond now) : Lapsed engine now store token := by
  have late : ¬ now < expiry := fun live => outlived (deposited.live_iff.mp live)
  obtain ⟨userData, found⟩ := deposited.record?
  have held : RefreshRecord.isExpiredAt ⟨token, userData, expiry, now⟩ now = true :=
    RefreshRecord.isExpiredAt_eq_true.mpr (not_not.mp fun later => late (Instant.not_le.mp later))
  constructor
  · rw [Store.get_of_faults deposited.whole, MemoryStore.get, found]
    simp only [held, if_true]
  · rw [deposited.count, if_neg late, Nat.add_zero]
  · intro filled draw
    rw [SessionEngine.refreshTokenPair, if_neg filled, SessionEngine.fst_rotate deposited.whole,
      found]
    simp only [held, if_true]

end Deposited

/-! ## Every pair that is handed out -/

/-- Whatever call hands out a pair has just put its record into the store. -/
theorem SessionEngine.deposited_of_perform {call : Call} {pair : TokenPair}
    (whole : store.faults = [])
    (delivered : (engine.perform now store call).1.pair? = some pair) :
    ∃ expiry, Deposited engine now (engine.perform now store call).2 pair.refreshToken expiry := by
  obtain ⟨effect, still⟩ := engine.perform_effect whole now call
  have silent (answer : (engine.perform now store call).1.pair? = none) : False := by
    cases delivered.symm.trans answer
  have deposited {others : MemoryStore} {draw : Bytes} {userData : Json} {origin : Option Int}
      {pending : PendingPair} (prepared : engine.preparePair now draw userData origin = .ok pending)
      (answer : (engine.perform now store call).1.pair? = some pending.pair)
      (set : (engine.perform now store call).2.memory =
        others.set now pending.pair.refreshToken pending.record.toJson pending.expiry) :
      ∃ expiry,
        Deposited engine now (engine.perform now store call).2 pair.refreshToken expiry := by
    cases delivered.symm.trans answer
    exact ⟨pending.expiry, still, ⟨_, _, set⟩, (expiry_of_preparePair prepared).2⟩
  generalize after : (engine.perform now store call).2.memory = memory at effect
  cases effect with
  | opened opens prepared answer => exact deposited prepared answer after
  | rotated trades found renewed answer =>
      obtain ⟨session, -, -, prepared⟩ := renew_eq_ok.mp renewed
      exact deposited prepared answer after
  | lost trades found answer => exact (silent answer).elim
  | refused trades absent answer => exact (silent answer).elim
  | ended ends presents answer => exact (silent answer).elim
  | purged purges answer => exact (silent answer).elim
  | kept trades answer => exact (silent answer).elim

/--
The refresh token of every pair that a call hands out can be used at once if it
outlives what has passed of the second, as every lifetime of a second or more
does.  Otherwise it is over when it is handed out.
-/
theorem delivered_tokens_live_from_the_second (engine : SessionEngine) {now : Instant}
    {before : Store} (whole : before.faults = []) (call : Call) {pair : TokenPair}
    (delivered : (engine.perform now before call).1.pair? = some pair) :
    (engine.OutlivesSecond now →
        Usable engine now (engine.perform now before call).2 pair.refreshToken) ∧
      (¬ engine.OutlivesSecond now →
        Lapsed engine now (engine.perform now before call).2 pair.refreshToken) := by
  obtain ⟨expiry, deposited⟩ := SessionEngine.deposited_of_perform whole delivered
  exact ⟨deposited.usable, deposited.lapsed⟩

/-! ## A lifetime of half a second -/

/-- Settings under which refresh tokens live for half a second. -/
def briefConfig : SessionConfig :=
  { sampleConfig "identity" "exp" with refreshLifetime := ⟨500000000⟩ }

theorem signsWith_briefConfig : briefConfig.SignsWith "secret key" where
  accepted := by decide
  symmetric := rfl
  given := rfl
  filled := by decide
  timely := (signsWith_sampleConfig "identity" "exp" (by decide)).timely

def briefEngine : SessionEngine := briefConfig.sharedEngine "secret key"

def briefStore (nanos : Nat) : Store :=
  (briefEngine.generateTokenPair ⟨1750000000, nanos⟩ (sampleDraw 0) (.string "alice") {}).2

/-- Whatever has passed of the second, the session is opened. -/
theorem exists_briefPair (nanos : Nat) :
    ∃ pair, briefEngine.generateTokenPair ⟨1750000000, nanos⟩ (sampleDraw 0) (.string "alice") {} =
        (.ok pair, briefStore nanos) ∧
      pair.refreshToken ≠ "" ∧ (briefStore nanos).memory.delete pair.refreshToken = {} := by
  have inside : Instant.InCalendar ⟨1750000000, nanos⟩ :=
    ⟨.inl (by decide : Instant.first.seconds < 1750000000),
      .inl (by decide : 1750000000 < Instant.last.seconds)⟩
  have whole : ({} : Store).faults = [] := rfl
  have loaded : KeyManager.ofSecret briefConfig.algorithm (Utf8.ofString "secret key") =
      .ok briefEngine.keys := signsWith_briefConfig.loaded
  have opens := SessionEngine.opensOrFails loaded inside (sampleDraw 0) whole (.string "alice")
  have fits : ¬ (Instant.ofSeconds 1750000000).Overruns (Span.ofSeconds 3600) := by decide
  have keeps : ¬ (Instant.ofSeconds 1750000000).Overruns ⟨500000000⟩ := by decide
  obtain ⟨pair, opened⟩ := opens.opened.mpr ⟨fits, by decide, keeps⟩
  obtain ⟨drawn, -⟩ := opens.pair pair opened
  have filled : refreshTokenOf (sampleDraw 0) ≠ "" := by decide
  have records := (opens.stored pair opened).fresh rfl
  refine ⟨pair, by rw [briefStore, ← opened], drawn ▸ filled, ?_⟩
  rw [briefStore]
  exact MemoryStore.delete_of_single records

theorem delivered_tokens_live_from_the_second_brief :
    briefEngine.OutlivesSecond ⟨1750000000, 499999999⟩ ∧
      ∃ pair, (briefEngine.perform ⟨1750000000, 499999999⟩ {}
          (.generateTokenPair (sampleDraw 0) (.string "alice"))).1.pair? = some pair ∧
        Usable briefEngine ⟨1750000000, 499999999⟩ (briefStore 499999999) pair.refreshToken := by
  obtain ⟨pair, opened, -, -⟩ := exists_briefPair 499999999
  have outlives : briefEngine.OutlivesSecond ⟨1750000000, 499999999⟩ := by decide
  have delivered : (briefEngine.perform ⟨1750000000, 499999999⟩ {}
      (.generateTokenPair (sampleDraw 0) (.string "alice"))).1.pair? = some pair := by
    rw [SessionEngine.perform, opened]
    rfl
  have whole : ({} : Store).faults = [] := rfl
  obtain ⟨usable, -⟩ := delivered_tokens_live_from_the_second briefEngine whole _ delivered
  exact ⟨outlives, pair, delivered, usable outlives⟩

/-- A nanosecond later the refresh token of accepted settings is over when it is handed out. -/
theorem accepted_lifetime_is_over_at_once :
    briefConfig.validate = .ok () ∧
      (EngineBuilder.ofConfig briefConfig).build (fun _ => .ok []) = .ok (briefEngine, {}) ∧
      ∃ pair, briefEngine.generateTokenPair ⟨1750000000, 500000000⟩ (sampleDraw 0)
          (.string "alice") {} = (.ok pair, briefStore 500000000) ∧
        ((briefStore 500000000).get ⟨1750000000, 500000000⟩ pair.refreshToken).1 =
          .error .notFound ∧
        ((briefStore 500000000).count ⟨1750000000, 500000000⟩).1 = .ok 0 ∧
        ∀ draw, (briefEngine.refreshTokenPair ⟨1750000000, 500000000⟩ draw pair.refreshToken
          (briefStore 500000000)).1 = .error .refreshTokenNotFound := by
  obtain ⟨pair, opened, filled, alone⟩ := exists_briefPair 500000000
  have delivered : (briefEngine.perform ⟨1750000000, 500000000⟩ {}
      (.generateTokenPair (sampleDraw 0) (.string "alice"))).1.pair? = some pair := by
    rw [SessionEngine.perform, opened]
    rfl
  have whole : ({} : Store).faults = [] := rfl
  obtain ⟨expiry, deposited⟩ := SessionEngine.deposited_of_perform whole delivered
  have lapsed : Lapsed briefEngine ⟨1750000000, 500000000⟩ (briefStore 500000000)
      pair.refreshToken := deposited.lapsed (by decide)
  have counted := lapsed.uncounted
  rw [alone] at counted
  exact ⟨signsWith_briefConfig.accepted, signsWith_briefConfig.build_ofConfig _, pair, opened,
    lapsed.unread, counted, lapsed.untraded filled⟩

end SessionTokens
