import SessionTokens.Proofs.Store.Memory
import SessionTokens.Store.History

/-!
# A store is what its history says

After any history a store in memory holds a token exactly when a call set it and
no later call removed it, and the record that it holds is the one of the last
`set`.  The clock may have gone either way between the calls.  What each call
would answer next, and what it would leave, follows from the history alone.
-/

namespace SessionTokens

section History

variable {event : StoreEvent} {earlier history : List StoreEvent} {token : String}
  {record : RefreshRecord}

/-! ## Reading a history -/

theorem lastSet?_of_record? (made : event.record? = some record) :
    lastSet? (event :: earlier) record.token = some record := by
  simp [lastSet?, made]

theorem lastSet?_of_not_sets (other : ¬ event.Sets token) :
    lastSet? (event :: earlier) token = lastSet? earlier token := by
  cases made : event.record? with
  | none => simp [lastSet?, made]
  | some record =>
      have apart : record.token ≠ token := fun same => other ⟨record, made, same⟩
      simp [lastSet?, made, apart]

/-- The events after a `set` are the latest one, if there is any, and those before it. -/
theorem keeps_cons :
    Keeps (event :: earlier) token ↔
      event.Sets token ∨ Keeps earlier token ∧ ¬ event.Removes earlier token := by
  constructor
  · rintro ⟨later, setting, before, split, sets, kept⟩
    cases later with
    | nil =>
        cases split
        exact .inl sets
    | cons latest later =>
        cases split
        refine .inr ⟨⟨later, setting, before, rfl, sets, fun newer next older place => ?_⟩, ?_⟩
        · exact kept (event :: newer) next older (congrArg (event :: ·) place)
        · exact kept [] event later rfl
  · rintro (sets | ⟨⟨later, setting, before, rfl, sets, kept⟩, stays⟩)
    · exact ⟨[], event, earlier, rfl, sets, fun newer next older place => by simp at place⟩
    · refine ⟨event :: later, setting, before, rfl, sets, fun newer next older place => ?_⟩
      cases newer with
      | nil =>
          cases place
          exact stays
      | cons latest newer =>
          cases place
          exact kept newer next older rfl

theorem exists_lastSet?_of_keeps (kept : Keeps history token) :
    ∃ record, lastSet? history token = some record := by
  obtain ⟨later, setting, before, rfl, ⟨record, made, same⟩, -⟩ := kept
  rw [← Option.isSome_iff_exists, lastSet?, List.find?_isSome]
  exact ⟨record, by simp [made], by simpa using same⟩

/-- What removes a token is what removes the record of its last `set`. -/
theorem removes_iff (last : lastSet? earlier token = some record) :
    event.Removes earlier token ↔
      event.call = .take token ∨ event.call = .delete token ∨
        event.call = .cleanup ∧ record.expiry ≤ event.now := by
  simp [StoreEvent.Removes, last]

end History

/-! ## One call -/

namespace Store

variable {store : Store} {now : Instant} {call : StoreCall}

theorem perform_snd (whole : store.faults = []) (now : Instant) (call : StoreCall) :
    (store.perform now call).2 = { store with memory := call.leave now store.memory } := by
  cases call with
  | set token userData expiry =>
      rw [perform, set_of_faults whole]
      rfl
  | get token =>
      rw [perform, get_of_faults whole]
      rfl
  | take token =>
      rw [perform, take_of_faults whole, MemoryStore.take_snd]
      rfl
  | delete token =>
      rw [perform, delete_of_faults whole]
      rfl
  | cleanup =>
      rw [perform, cleanup_of_faults whole]
      rfl
  | count =>
      rw [perform, count_of_faults whole]
      rfl

end Store

namespace StoreCall

variable {records : MemoryStore} {now : Instant} {token : String} {record : RefreshRecord}

/-- A call about one token leaves the record of any other. -/
theorem record?_leave_of_other {call : StoreCall} {other : String}
    (about : call.token? = some token) (apart : other ≠ token) :
    (call.leave now records).record? other = records.record? other := by
  ext record
  cases call with
  | set token userData expiry =>
      cases about
      simp [leave, MemoryStore.record?_set, apart]
  | take token =>
      cases about
      simp [leave, MemoryStore.record?_delete, apart]
  | delete token =>
      cases about
      simp [leave, MemoryStore.record?_delete, apart]
  | get token => rfl
  | cleanup => cases about
  | count => cases about

/-- A call that does not set a token leaves its record, unless it removes it. -/
theorem record?_leave_of_not_sets {event : StoreEvent} (other : ¬ event.Sets token) :
    (event.call.leave event.now records).record? token = some record ↔
      records.record? token = some record ∧
        ¬ (event.call = .take token ∨ event.call = .delete token ∨
          event.call = .cleanup ∧ record.expiry ≤ event.now) := by
  obtain ⟨now, call⟩ := event
  cases call with
  | set set userData expiry =>
      have apart : token ≠ set := fun same => other ⟨_, rfl, same.symm⟩
      simp [leave, MemoryStore.record?_set, apart]
  | get token => simp [leave]
  | take taken => simp [leave, MemoryStore.record?_delete, eq_comm (a := taken)]
  | delete deleted => simp [leave, MemoryStore.record?_delete, eq_comm (a := deleted)]
  | cleanup =>
      simp [leave, MemoryStore.record?_cleanup, RefreshRecord.isExpiredAt_eq_false, Instant.not_le]
  | count => simp [leave]

theorem record?_leave_of_sets {event : StoreEvent} (made : event.record? = some record) :
    (event.call.leave event.now records).record? record.token = some record := by
  obtain ⟨now, call⟩ := event
  cases call with
  | set token userData expiry =>
      cases made
      exact MemoryStore.record?_set.mpr (.inl ⟨rfl, rfl⟩)
  | _ => cases made

end StoreCall

/-! ## Whole histories -/

/-- Whether a store holds what a history says. -/
structure Reflects (history : List StoreEvent) (store : Store) : Prop where
  whole : store.faults = []
  record : ∀ token record, store.memory.record? token = some record ↔
    Keeps history token ∧ lastSet? history token = some record

theorem Reflects.empty : Reflects [] {} where
  whole := rfl
  record token record := by
    refine ⟨nofun, fun ⟨⟨later, setting, earlier, split, _⟩, _⟩ => ?_⟩
    simp at split

/-- What one more call does to the record of a token is what it does to the history. -/
theorem Reflects.step {earlier : List StoreEvent} {store : Store}
    (reflects : Reflects earlier store) (event : StoreEvent) :
    Reflects (event :: earlier) (store.perform event.now event.call).2 := by
  rw [Store.perform_snd reflects.whole]
  refine ⟨reflects.whole, fun token record => ?_⟩
  by_cases sets : event.Sets token
  · obtain ⟨made, makes, rfl⟩ := sets
    have kept : Keeps (event :: earlier) made.token := keeps_cons.mpr (.inl ⟨made, makes, rfl⟩)
    simp [StoreCall.record?_leave_of_sets makes, lastSet?_of_record? makes, kept]
  · rw [StoreCall.record?_leave_of_not_sets sets, reflects.record, keeps_cons,
      lastSet?_of_not_sets sets]
    constructor
    · rintro ⟨⟨kept, last⟩, stays⟩
      exact ⟨.inr ⟨kept, mt (removes_iff last).mp stays⟩, last⟩
    · rintro ⟨again | ⟨kept, stays⟩, last⟩
      · exact absurd again sets
      · exact ⟨⟨kept, last⟩, mt (removes_iff last).mpr stays⟩

theorem reflects_after (history : List StoreEvent) : Reflects history (Store.after history) := by
  induction history with
  | nil => exact .empty
  | cons event earlier ih => exact ih.step event

/-! ## Counting and purging -/

namespace Store

variable {store : Store} (whole : store.faults = []) (now : Instant)

include whole

/-- The tokens that can be read are counted. -/
theorem exists_live : ∃ live : Finset String,
    (∀ token, token ∈ live ↔ ∃ userData, (store.get now token).1 = .ok userData) ∧
      (store.count now).1 = .ok live.card := by
  obtain ⟨live, inside, size⟩ :=
    store.memory.exists_tokens_where fun record => !record.isExpiredAt now
  refine ⟨live, fun token => ?_, ?_⟩
  · rw [inside, get_of_faults whole]
    simp only [MemoryStore.get_eq_ok, Bool.not_eq_true', RefreshRecord.isExpiredAt_eq_false]
    exact ⟨fun ⟨record, found, early⟩ => ⟨_, record, found, early, rfl⟩,
      fun ⟨_, record, found, early, _⟩ => ⟨record, found, early⟩⟩
  · rw [count_of_faults whole, MemoryStore.count, size]

/-- A cleanup removes the records that are over, counts them, and leaves nothing to clean up. -/
theorem exists_dead : ∃ dead : Finset String,
    (∀ token, token ∈ dead ↔
      ∃ record, store.memory.record? token = some record ∧ record.expiry ≤ now) ∧
      (store.cleanup now).1 = .ok dead.card ∧
      (∀ token, (store.cleanup now).2.memory.record? token =
        if token ∈ dead then none else store.memory.record? token) ∧
      ((store.cleanup now).2.cleanup now).1 = .ok 0 := by
  obtain ⟨dead, inside, size⟩ :=
    store.memory.exists_tokens_where fun record => record.isExpiredAt now
  simp only [RefreshRecord.isExpiredAt_eq_true] at inside
  rw [cleanup_of_faults whole]
  refine ⟨dead, inside, ?_, fun token => ?_, ?_⟩
  · rw [MemoryStore.cleanup_fst, size]
  · ext record
    rw [MemoryStore.record?_cleanup, RefreshRecord.isExpiredAt_eq_false, ← Instant.not_le]
    by_cases late : token ∈ dead
    · obtain ⟨found, held, past⟩ := (inside token).mp late
      rw [if_pos late, held]
      simp only [Option.some.injEq, reduceCtorEq, iff_false, not_and]
      rintro rfl early
      exact early past
    · rw [if_neg late]
      refine ⟨And.left, fun held => ⟨held, fun past => ?_⟩⟩
      exact late ((inside token).mpr ⟨record, held, past⟩)
  · rw [cleanup_of_faults (by exact whole), MemoryStore.cleanup_cleanup_fst]

end Store

/-! ## The account of a history -/

structure Accounted (history : List StoreEvent) (store : Store) : Prop where
  /-- The tokens with a record, whether or not it is over. -/
  stored : ∀ token, token ∈ store.memory.tokens ↔ Keeps history token
  read : ∀ now token userData, (store.get now token).1 = .ok userData ↔
    Keeps history token ∧ ∃ record, lastSet? history token = some record ∧
      now < record.expiry ∧ record.userData = userData
  taken : ∀ now token record, (store.take now token).1 = .ok record ↔
    Keeps history token ∧ lastSet? history token = some record ∧ now < record.expiry
  missing : ∀ now token error,
    (store.get now token).1 = .error error ∨ (store.take now token).1 = .error error →
      error = .notFound
  counted : ∀ now, ∃ live : Finset String,
    (∀ token, token ∈ live ↔ ∃ userData, (store.get now token).1 = .ok userData) ∧
      (store.count now).1 = .ok live.card
  /-- A cleanup removes the stored tokens that are over, counts them, and leaves all others. -/
  purged : ∀ now, ∃ dead : Finset String,
    (∀ token, token ∈ dead ↔
      Keeps history token ∧ ∃ record, lastSet? history token = some record ∧
        record.expiry ≤ now) ∧
      (store.cleanup now).1 = .ok dead.card ∧
      (∀ token, (store.cleanup now).2.memory.record? token =
        if token ∈ dead then none else store.memory.record? token) ∧
      ((store.cleanup now).2.cleanup now).1 = .ok 0
  apart : ∀ now call token other, call.token? = some token → other ≠ token →
    (store.perform now call).2.memory.record? other = store.memory.record? other

/--
After every sequence of calls, whatever the clock did between them, the store is
the one that the sequence says: what is stored, read, taken, counted and purged
depends on the calls alone, and a call about one token leaves all others alone.
-/
theorem store_accounted_by_history (history : List StoreEvent) :
    Accounted history (Store.after history) := by
  have reflects := reflects_after history
  have whole := reflects.whole
  constructor
  case stored =>
    intro token
    rw [MemoryStore.mem_tokens_iff_record?]
    simp only [reflects.record, exists_and_left, and_iff_left_iff_imp]
    exact exists_lastSet?_of_keeps
  case read =>
    intro now token userData
    rw [Store.get_of_faults whole, MemoryStore.get_eq_ok]
    simp only [reflects.record, and_assoc, exists_and_left]
  case taken =>
    intro now token record
    rw [Store.take_of_faults whole, MemoryStore.take_eq_ok, reflects.record, and_assoc]
  case missing =>
    intro now token error failed
    rw [Store.get_of_faults whole, Store.take_of_faults whole] at failed
    exact failed.elim MemoryStore.get_error MemoryStore.take_error
  case counted => exact Store.exists_live whole
  case purged =>
    intro now
    obtain ⟨dead, inside, purged⟩ := Store.exists_dead whole now
    refine ⟨dead, fun token => ?_, purged⟩
    rw [inside]
    simp only [reflects.record, and_assoc, exists_and_left]
  case apart =>
    intro now call token other about different
    rw [Store.perform_snd whole]
    exact StoreCall.record?_leave_of_other about different

end SessionTokens
