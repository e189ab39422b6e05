import SessionTokens.Proofs.Session.Preparation
import SessionTokens.Proofs.Session.Runs
import SessionTokens.Session.History

/-!
# Records and pairs of a session

A stored record holds the data and the first second of the session of its token.
A pair that is handed out was signed over them, and no later than the window of
the session allows.  Every effect of a call preserves the first, from which the
second follows.
-/

namespace SessionTokens

def OpenedSession.Signed (engine : SessionEngine) (session : OpenedSession) : Prop :=
  ∃ pending, Prepared engine session.start session.userData session.start.seconds pending ∧
    pending.pair = session.first

/-- Whether each stored record is the record of the session of its token. -/
def Recorded (engine : SessionEngine) (store : MemoryStore) (history : List Event) : Prop :=
  ∀ entry ∈ store.records, ∃ session, engine.sessionOf? history entry.1 = some session ∧
    session.Signed engine ∧
      SessionRecord.read? entry.2.userData = some ⟨session.userData, session.start.seconds⟩

/-- What is known of a pair that is handed out at an instant in a session. -/
structure HandedOut (engine : SessionEngine) (session : OpenedSession) (now : Instant)
    (pair : TokenPair) : Prop where
  first : session.Signed engine
  prepared : ∃ pending,
    Prepared engine now session.userData session.start.seconds pending ∧ pending.pair = pair
  window : now.seconds ≤ session.start.seconds + engine.config.maxRefresh.seconds

/-- Whether the pair of an event is one of the session that it belongs to. -/
def Belongs (engine : SessionEngine) (event : Event) (earlier : List Event) : Prop :=
  ∀ pair, event.answer.pair? = some pair →
    ∃ session, event.session? engine (engine.sessionOf? earlier) = some session ∧
      HandedOut engine session event.now pair

variable {engine : SessionEngine}

theorem SessionRecord.read?_toJson {record : SessionRecord}
    (low : Decimal.minInt64 ≤ record.origin) (high : record.origin ≤ Decimal.maxInt64) :
    read? record.toJson = some record := by
  have second : readSecond? (.int record.origin) = some record.origin := if_pos ⟨low, high⟩
  simp [read?, toJson, Json.fields?, Members.get?, second]

theorem SessionEngine.le_of_checkWindow {now : Instant} {origin : Int}
    (inside : engine.checkWindow now origin = .ok ()) :
    now.seconds ≤ origin + engine.config.maxRefresh.seconds := by
  rw [checkWindow, windowStart] at inside
  split at inside
  · cases inside
  · omega

/-- A refresh token belongs to the session of the last event that handed it out. -/
theorem SessionEngine.sessionOf?_append {later earlier : List Event} {token : String}
    (silent : ∀ past ∈ later, ¬ past.Mints token) :
    engine.sessionOf? (later ++ earlier) token = engine.sessionOf? earlier token := by
  induction later with
  | nil => rfl
  | cons latest later ih =>
      rw [List.cons_append, sessionOf?, if_neg (silent latest List.mem_cons_self)]
      exact ih fun past inside => silent past (List.mem_cons_of_mem _ inside)

section Step

variable {before after : MemoryStore} {event : Event} {history : List Event}

theorem sessionOf?_of_pair? {pair : TokenPair} (answer : event.answer.pair? = some pair)
    (token : String) :
    engine.sessionOf? (event :: history) token =
      if pair.refreshToken = token then event.session? engine (engine.sessionOf? history)
      else engine.sessionOf? history token := by
  simp only [SessionEngine.sessionOf?, Event.Mints, answer, Option.map_some, Option.some.injEq]

/-- Without a pair the records that remain are those of the same sessions. -/
theorem Recorded.fewer (recorded : Recorded engine before history)
    (answer : event.answer.pair? = none)
    (fewer : ∀ entry ∈ after.records, entry ∈ before.records) :
    Recorded engine after (event :: history) := by
  intro entry inside
  have same : engine.sessionOf? (event :: history) entry.1 =
      engine.sessionOf? history entry.1 := by
    simp [SessionEngine.sessionOf?, Event.Mints, answer]
  rw [same]
  exact recorded entry (fewer entry inside)

/-- A pair that is put into the store is recorded as one of its session. -/
theorem Recorded.deposit (recorded : Recorded engine before history) {session : OpenedSession}
    {pending : PendingPair} (answer : event.answer.pair? = some pending.pair)
    (belongs : event.session? engine (engine.sessionOf? history) = some session)
    (signed : session.Signed engine)
    (prepared : Prepared engine event.now session.userData session.start.seconds pending)
    (fewer : ∀ entry ∈ after.records, entry ∈ before.records) :
    Recorded engine
      (after.set event.now pending.pair.refreshToken pending.record.toJson pending.expiry)
      (event :: history) := by
  intro entry inside
  rw [sessionOf?_of_pair? answer]
  rcases MemoryStore.mem_set.mp inside with rfl | ⟨old, differs⟩
  · obtain ⟨first, opened, same⟩ := signed
    refine ⟨session, by rw [if_pos rfl, belongs], ⟨first, opened, same⟩, ?_⟩
    dsimp only
    rw [prepared.record]
    exact SessionRecord.read?_toJson opened.now_bounds.1 opened.now_bounds.2
  · rw [if_neg (Ne.symm differs)]
    exact recorded entry (fewer entry old)

/-- Every effect of a call preserves that records are those of their sessions. -/
theorem Recorded.step (recorded : Recorded engine before history)
    (effect : Effect engine before event after) :
    Belongs engine event history ∧ Recorded engine after (event :: history) := by
  have silent (answer : event.answer.pair? = none) : Belongs engine event history := by
    intro pair handed
    cases answer.symm.trans handed
  cases effect with
  | @opened _ userData pending opens prepared answer =>
      have known := SessionEngine.preparePair_ok prepared
      let session : OpenedSession := ⟨userData, event.now, pending.pair⟩
      have belongs : event.session? engine (engine.sessionOf? history) = some session := by
        rw [Event.session?, answer, Option.bind_some, opens]
      have signed : session.Signed engine := ⟨pending, known, rfl⟩
      refine ⟨fun pair handed => ?_, recorded.deposit answer belongs signed known fun _ => id⟩
      cases answer.symm.trans handed
      refine ⟨session, belongs, signed, ⟨pending, known, rfl⟩, ?_⟩
      exact Int.le_add_of_nonneg_right (Int.natCast_nonneg _)
  | @rotated _ token record pending trades found renewed answer =>
      -- The record that was found names the session, and signing starts from the record.
      obtain ⟨session, owner, signed, stored⟩ :=
        recorded (token, record) (MemoryStore.mem_of_record? found)
      obtain ⟨read, same, window, prepared⟩ := SessionEngine.renew_eq_ok.mp renewed
      cases stored.symm.trans same
      have known := SessionEngine.preparePair_ok prepared
      have unopened : event.call.opened? engine = none := by
        cases opens : event.call.opened? engine with
        | none => rfl
        | some userData =>
            cases (Call.traded?_eq_none_of_opened? opens event.now).symm.trans trades
      have belongs : event.session? engine (engine.sessionOf? history) = some session := by
        rw [Event.session?, answer, Option.bind_some, unopened, trades]
        exact owner
      refine ⟨fun pair handed => ?_, recorded.deposit answer belongs signed known ?_⟩
      · cases answer.symm.trans handed
        exact ⟨session, belongs, signed, ⟨pending, known, rfl⟩,
          SessionEngine.le_of_checkWindow window⟩
      · exact fun entry inside => (MemoryStore.mem_delete.mp inside).1
  | lost trades found answer =>
      refine ⟨silent answer, recorded.fewer answer fun entry inside => ?_⟩
      exact (MemoryStore.mem_delete.mp inside).1
  | refused trades absent answer => exact ⟨silent answer, recorded.fewer answer fun _ => id⟩
  | ended ends presents answer =>
      refine ⟨silent answer, recorded.fewer answer fun entry inside => ?_⟩
      exact (MemoryStore.mem_delete.mp inside).1
  | purged purges answer =>
      refine ⟨silent answer, recorded.fewer answer fun entry inside => ?_⟩
      exact MemoryStore.mem_of_mem_cleanup inside
  | kept trades answer => exact ⟨silent answer, recorded.fewer answer fun _ => id⟩

end Step

/-- In every run pairs belong to sessions, and records are those of their sessions. -/
theorem SessionEngine.run_belongs (engine : SessionEngine) (start : Instant) (calls : List Call) :
    Throughout (Belongs engine) (engine.run start calls).history ∧
      Recorded engine (engine.run start calls).store.memory (engine.run start calls).history := by
  refine engine.run_induction
    (motive := fun store history => Throughout (Belongs engine) history ∧
      Recorded engine store history)
    ⟨trivial, nofun⟩ ?_ start calls
  intro before history event after effect held
  obtain ⟨belongs, recorded⟩ := held.2.step effect
  exact ⟨⟨belongs, held.1⟩, recorded⟩

end SessionTokens
