import SessionTokens.Proofs.Outcome
import SessionTokens.Proofs.Store.Memory
import SessionTokens.Session.History

/-!
# What a call does to the store

Over a store in memory every call has one of seven effects: it opens a session,
rotates one, loses the record it took, finds no record, ends a session, purges
the store, or leaves it alone.  `perform_effect` says so once; whatever is proved
about histories is proved by these cases.
-/

namespace SessionTokens

/-- What trading a refresh token does to the records of a store. -/
inductive Trade (engine : SessionEngine) (now : Instant) (draw : Bytes) (token : String)
    (before : MemoryStore) : Except SessionError TokenPair → MemoryStore → Prop where
  | refused (absent : before.record? token = none) :
      Trade engine now draw token before (.error .refreshTokenNotFound) before
  | lost {record : RefreshRecord} (found : before.record? token = some record)
      (error : SessionError) :
      Trade engine now draw token before (.error error) (before.delete token)
  | rotated {record : RefreshRecord} {pending : PendingPair}
      (found : before.record? token = some record)
      (renewed : engine.renew now draw record = .ok pending) :
      Trade engine now draw token before (.ok pending.pair)
        ((before.delete token).set now pending.pair.refreshToken pending.record.toJson
          pending.expiry)

/-- How a rotation ends over a store: what it answers, and the store that it leaves. -/
inductive Rotation (engine : SessionEngine) (now : Instant) (draw : Bytes) (token : String)
    (before : Store) : Except SessionError TokenPair × Store → Prop where
  | absent (missing : before.memory.record? token = none) :
      Rotation engine now draw token before (.error .refreshTokenNotFound, before)
  | outdated {record : RefreshRecord} (found : before.memory.record? token = some record)
      (expired : record.isExpiredAt now = true) :
      Rotation engine now draw token before
        (.error .refreshTokenNotFound, { before with memory := before.memory.delete token })
  | failed {record : RefreshRecord} {error : SessionError}
      (found : before.memory.record? token = some record)
      (live : record.isExpiredAt now = false)
      (refused : engine.renew now draw record = .error error) :
      Rotation engine now draw token before
        (.error error, { before with memory := before.memory.delete token })
  | rotated {record : RefreshRecord} {pending : PendingPair}
      (found : before.memory.record? token = some record)
      (live : record.isExpiredAt now = false)
      (renewed : engine.renew now draw record = .ok pending) :
      Rotation engine now draw token before
        (.ok pending.pair,
          { before with
            memory := (before.memory.delete token).set now pending.pair.refreshToken
              pending.record.toJson pending.expiry })

/-- What an event does to the records of a store. -/
inductive Effect (engine : SessionEngine) (before : MemoryStore) (event : Event) :
    MemoryStore → Prop where
  | opened {draw : Bytes} {userData : Json} {pending : PendingPair}
      (opens : event.call.opened? engine = some userData)
      (prepared : engine.preparePair event.now draw userData none = .ok pending)
      (answer : event.answer.pair? = some pending.pair) :
      Effect engine before event
        (before.set event.now pending.pair.refreshToken pending.record.toJson pending.expiry)
  | rotated {draw : Bytes} {token : String} {record : RefreshRecord} {pending : PendingPair}
      (trades : event.call.traded? engine event.now = some token)
      (found : before.record? token = some record)
      (renewed : engine.renew event.now draw record = .ok pending)
      (answer : event.answer.pair? = some pending.pair) :
      Effect engine before event
        ((before.delete token).set event.now pending.pair.refreshToken pending.record.toJson
          pending.expiry)
  | lost {token : String} {record : RefreshRecord}
      (trades : event.call.traded? engine event.now = some token)
      (found : before.record? token = some record) (answer : event.answer.pair? = none) :
      Effect engine before event (before.delete token)
  | refused {token : String} (trades : event.call.traded? engine event.now = some token)
      (absent : before.record? token = none) (answer : event.answer.pair? = none)
      (refusal : event.answer.refusal? = some .refreshTokenNotFound) :
      Effect engine before event before
  | ended {token : String} (ends : event.call.isEnding = true)
      (presents : event.call.presented? engine = some token)
      (answer : event.answer.pair? = none) : Effect engine before event (before.delete token)
  | purged (purges : event.call = .cleanup) (answer : event.answer.pair? = none) :
      Effect engine before event (before.cleanup event.now).2
  | kept (trades : event.call.traded? engine event.now = none)
      (answer : event.answer.pair? = none)
      (ends : event.call.isEnding = true →
        ∀ token, event.call.presented? engine = some token → token = "") :
      Effect engine before event before

namespace SessionEngine

variable {engine : SessionEngine} {store : Store}

theorem renew_eq_ok {now : Instant} {draw : Bytes} {record : RefreshRecord}
    {pending : PendingPair} :
    engine.renew now draw record = .ok pending ↔
      ∃ session, SessionRecord.read? record.userData = some session ∧
        engine.checkWindow now session.origin = .ok () ∧
        engine.preparePair now draw session.userData (some session.origin) = .ok pending := by
  rw [renew]
  cases SessionRecord.read? record.userData with
  | none => simp
  | some session =>
      cases window : engine.checkWindow now session.origin with
      | error error => simp [bind, Except.bind, window]
      | ok => simp [bind, Except.bind, window]

theorem takeRecord_of_faults (whole : store.faults = []) (now : Instant) (token : String) :
    takeRecord now token store =
      ((store.memory.take now token).1.mapError .ofStore,
        { store with memory := (store.memory.take now token).2 }) := by
  rw [takeRecord, Store.take_of_faults whole]

theorem deposit_of_faults (whole : store.faults = []) (pending : PendingPair) (now : Instant) :
    pending.deposit now store =
      (.ok pending.pair,
        { store with
          memory := store.memory.set now pending.pair.refreshToken pending.record.toJson
            pending.expiry }) := by
  rw [PendingPair.deposit, Store.set_of_faults whole]

theorem rotate_rotation (whole : store.faults = []) (now : Instant) (draw : Bytes)
    (token : String) :
    Rotation engine now draw token store (engine.rotate now draw token store) := by
  rw [rotate, takeRecord_of_faults whole, MemoryStore.take]
  cases found : store.memory.record? token with
  | none => exact .absent found
  | some record =>
      by_cases expired : record.isExpiredAt now = true
      · simp only [expired, ↓reduceIte]
        exact .outdated found expired
      · have live : record.isExpiredAt now = false := by simpa using expired
        simp only [live, Bool.false_eq_true, ↓reduceIte, mapError_ok]
        cases renewed : engine.renew now draw record with
        | error error => exact .failed found live renewed
        | ok pending =>
            simp only
            rw [deposit_of_faults (by exact whole)]
            exact .rotated found live renewed

/-- What a rotation answers depends on the record of its token alone. -/
theorem fst_rotate (whole : store.faults = []) (now : Instant) (draw : Bytes) (token : String) :
    (engine.rotate now draw token store).1 =
      match store.memory.record? token with
      | none => .error .refreshTokenNotFound
      | some record =>
          if record.isExpiredAt now then .error .refreshTokenNotFound
          else (engine.renew now draw record).map PendingPair.pair := by
  have rotation := @rotate_rotation engine _ whole now draw token
  generalize engine.rotate now draw token store = result at rotation ⊢
  cases rotation with
  | absent missing => rw [missing]
  | outdated found expired => simp [found, expired]
  | failed found live refused =>
      simp only [found, live, refused]
      rfl
  | rotated found live renewed =>
      simp only [found, live, renewed]
      rfl

theorem rotate_trade (whole : store.faults = []) (now : Instant) (draw : Bytes)
    (token : String) :
    Trade engine now draw token store.memory (engine.rotate now draw token store).1
        (engine.rotate now draw token store).2.memory ∧
      (engine.rotate now draw token store).2.faults = [] := by
  have rotation := @rotate_rotation engine _ whole now draw token
  cases ends : engine.rotate now draw token store with
  | mk outcome after =>
      rw [ends] at rotation
      cases rotation with
      | absent missing => exact ⟨.refused missing, whole⟩
      | outdated found expired => exact ⟨.lost found _, whole⟩
      | failed found live refused => exact ⟨.lost found _, whole⟩
      | rotated found live renewed => exact ⟨.rotated found renewed, whole⟩

/-- Opening a session puts the record of its pair into the store, or changes nothing. -/
theorem generateTokenPair_cases (whole : store.faults = []) (now : Instant) (draw : Bytes)
    (userData : Json) :
    (∃ error, engine.generateTokenPair now draw userData store = (.error error, store)) ∨
      ∃ pending, engine.preparePair now draw userData none = .ok pending ∧
        engine.generateTokenPair now draw userData store =
          (.ok pending.pair,
            { store with
              memory := store.memory.set now pending.pair.refreshToken pending.record.toJson
                pending.expiry }) := by
  rw [generateTokenPair, issuePair]
  cases engine.preparePair now draw userData none with
  | error error => exact .inl ⟨error, rfl⟩
  | ok pending => exact .inr ⟨pending, rfl, deposit_of_faults whole pending now⟩

theorem revoke_of_faults (whole : store.faults = []) (token : String) :
    revoke token store =
      (.ok (),
        if token = "" then store else { store with memory := store.memory.delete token }) := by
  by_cases empty : token = "" <;> simp [revoke, empty, Store.delete_of_faults whole]

end SessionEngine

/-! ## Calls -/

namespace Call

variable {engine : SessionEngine} {call : Call}

theorem traded?_eq_none_of_opened? {userData : Json} (opens : call.opened? engine = some userData)
    (now : Instant) : call.traded? engine now = none := by
  cases call <;> first | rfl | cases opens

theorem isEnding_eq_false_of_opened? {userData : Json}
    (opens : call.opened? engine = some userData) : call.isEnding = false := by
  cases call <;> first | rfl | cases opens

theorem traded?_eq_none_of_isEnding (ends : call.isEnding = true) (now : Instant) :
    call.traded? engine now = none := by
  cases call <;> first | rfl | cases ends

end Call

namespace Effect

variable {engine : SessionEngine} {store : Store} {now : Instant} {draw : Bytes} {call : Call}

/-- A call that neither trades a token nor ends a session leaves the records alone. -/
theorem still {records : MemoryStore} {event : Event}
    (trades : event.call.traded? engine event.now = none) (answer : event.answer.pair? = none)
    (remains : event.call.isEnding = false) : Effect engine records event records := by
  refine .kept trades answer fun ends => ?_
  rw [remains] at ends
  cases ends

theorem opening (whole : store.faults = []) {userData : Json}
    (opens : call.opened? engine = some userData)
    {answer : Except SessionError TokenPair → Answer}
    (pair : ∀ outcome, (answer outcome).pair? = outcome.toOption) :
    Effect engine store.memory
        ⟨now, call, answer (engine.generateTokenPair now draw userData store).1⟩
        (engine.generateTokenPair now draw userData store).2.memory ∧
      (engine.generateTokenPair now draw userData store).2.faults = [] := by
  rcases engine.generateTokenPair_cases whole now draw userData with
    ⟨error, failed⟩ | ⟨pending, prepared, opened⟩
  · rw [failed]
    refine ⟨.still ?_ (pair _) ?_, whole⟩
    · exact Call.traded?_eq_none_of_opened? opens now
    · exact Call.isEnding_eq_false_of_opened? opens
  · rw [opened]
    exact ⟨.opened opens prepared (pair _), whole⟩

theorem rotation (whole : store.faults = []) {token : String}
    (trades : call.traded? engine now = some token)
    {answer : Except SessionError TokenPair → Answer}
    (pair : ∀ outcome, (answer outcome).pair? = outcome.toOption)
    (refusal : ∀ error, (answer (.error error)).refusal? = some error) :
    Effect engine store.memory ⟨now, call, answer (engine.rotate now draw token store).1⟩
        (engine.rotate now draw token store).2.memory ∧
      (engine.rotate now draw token store).2.faults = [] := by
  obtain ⟨trade, stays⟩ := engine.rotate_trade whole now draw token
  generalize engine.rotate now draw token store = result at trade stays ⊢
  obtain ⟨outcome, backend, records, faults⟩ := result
  refine ⟨?_, stays⟩
  cases trade with
  | refused absent => exact .refused trades absent (pair _) (refusal _)
  | lost found error => exact .lost trades found (pair _)
  | rotated found renewed => exact .rotated trades found renewed (pair _)

theorem ending (whole : store.faults = []) {token : String} (ends : call.isEnding = true)
    (presents : call.presented? engine = some token) (answer : Except SessionError Unit → Answer)
    (pair : ∀ outcome, (answer outcome).pair? = none) :
    Effect engine store.memory ⟨now, call, answer (SessionEngine.revoke token store).1⟩
        (SessionEngine.revoke token store).2.memory ∧
      (SessionEngine.revoke token store).2.faults = [] := by
  rw [SessionEngine.revoke_of_faults whole]
  by_cases empty : token = ""
  · rw [if_pos empty]
    refine ⟨.kept (Call.traded?_eq_none_of_isEnding ends now) (pair _) ?_, whole⟩
    intro _ other presented
    cases presents.symm.trans presented
    exact empty
  · rw [if_neg empty]
    exact ⟨.ended ends presents (pair _), whole⟩

end Effect

namespace Answer

theorem pair?_granted {engine : SessionEngine} (outcome : Except SessionError TokenPair) :
    (Answer.granted (outcome.map engine.grant)).pair? = outcome.toOption := by
  cases outcome <;> rfl

theorem pair?_paired (outcome : Except SessionError TokenPair) :
    (Answer.paired outcome).pair? = outcome.toOption := by
  cases outcome <;> rfl

end Answer

def Call.HasEffect (engine : SessionEngine) (now : Instant) (store : Store) (call : Call) : Prop :=
  Effect engine store.memory ⟨now, call, (engine.perform now store call).1⟩
      (engine.perform now store call).2.memory ∧
    (engine.perform now store call).2.faults = []

namespace Call.HasEffect

variable {engine : SessionEngine} {store : Store} (whole : store.faults = []) (now : Instant)

include whole

theorem login (draw : Bytes) (credentials : Json) :
    (Call.login draw credentials).HasEffect engine now store := by
  simp only [HasEffect, SessionEngine.perform, SessionEngine.login]
  cases known : engine.authenticate credentials with
  | error error => exact ⟨.still rfl rfl rfl, whole⟩
  | ok userData =>
      exact Effect.opening whole (by simp [Call.opened?, known]) Answer.pair?_granted

theorem refresh (draw : Bytes) (request : Request) :
    (Call.refresh draw request).HasEffect engine now store := by
  simp only [HasEffect, SessionEngine.perform, SessionEngine.refresh]
  cases admitted : engine.admitRefresh now request with
  | error error => exact ⟨.still (by simp [Call.traded?, admitted]) rfl rfl, whole⟩
  | ok token =>
      have trades : (Call.refresh draw request).traded? engine now = some token := by
        simp [Call.traded?, admitted]
      exact Effect.rotation whole trades Answer.pair?_granted fun _ => rfl

theorem refreshTokenPair (draw : Bytes) (token : String) :
    (Call.refreshTokenPair draw token).HasEffect engine now store := by
  simp only [HasEffect, SessionEngine.perform, SessionEngine.refreshTokenPair]
  by_cases empty : token = ""
  · rw [if_pos empty]
    exact ⟨.still (by simp [Call.traded?, empty]) rfl rfl, whole⟩
  · rw [if_neg empty]
    have trades : (Call.refreshTokenPair draw token).traded? engine now = some token := by
      simp [Call.traded?, empty]
    exact Effect.rotation whole trades Answer.pair?_paired fun _ => rfl

theorem logout (request : Request) : (Call.logout request).HasEffect engine now store := by
  simp only [HasEffect, SessionEngine.perform, SessionEngine.logout]
  cases presented : engine.refreshToken request with
  | error error => exact ⟨.kept rfl rfl (by simp [Call.presented?, presented]), whole⟩
  | ok token =>
      have presents : (Call.logout request).presented? engine = some token := by
        simp [Call.presented?, presented]
      let answer (outcome : Except SessionError Unit) : Answer :=
        .loggedOut (outcome.map fun _ => ⟨true, engine.clearingCookies⟩)
      exact Effect.ending whole rfl presents answer fun _ => rfl

theorem get (token : String) : (Call.get token).HasEffect engine now store := by
  simp only [HasEffect, SessionEngine.perform, Store.get_of_faults whole, Prod.map]
  exact ⟨.still rfl rfl rfl, whole⟩

theorem count : Call.count.HasEffect engine now store := by
  simp only [HasEffect, SessionEngine.perform, Store.count_of_faults whole, Prod.map]
  exact ⟨.still rfl rfl rfl, whole⟩

theorem cleanup : Call.cleanup.HasEffect engine now store := by
  simp only [HasEffect, SessionEngine.perform, Store.cleanup_of_faults whole, Prod.map]
  exact ⟨.purged rfl rfl, whole⟩

end Call.HasEffect

/-- Over a store in order every call has one of the effects, and the store stays in order. -/
theorem SessionEngine.perform_effect (engine : SessionEngine) {store : Store}
    (whole : store.faults = []) (now : Instant) (call : Call) :
    Effect engine store.memory ⟨now, call, (engine.perform now store call).1⟩
        (engine.perform now store call).2.memory ∧
      (engine.perform now store call).2.faults = [] := by
  cases call with
  | login draw credentials => exact Call.HasEffect.login whole now draw credentials
  | generateTokenPair draw userData => exact Effect.opening whole rfl Answer.pair?_paired
  | refresh draw request => exact Call.HasEffect.refresh whole now draw request
  | refreshTokenPair draw token => exact Call.HasEffect.refreshTokenPair whole now draw token
  | logout request => exact Call.HasEffect.logout whole now request
  | revoke token => exact Effect.ending whole rfl rfl .revoked fun _ => rfl
  | get token => exact Call.HasEffect.get whole now token
  | count => exact Call.HasEffect.count whole now
  | cleanup => exact Call.HasEffect.cleanup whole now
  -- All other calls answer without the store.
  | _ => exact ⟨.still rfl rfl rfl, whole⟩

end SessionTokens
