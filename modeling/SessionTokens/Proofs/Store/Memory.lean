import Mathlib.Data.Finset.Card
import SessionTokens.Proofs.Outcome
import SessionTokens.Proofs.Time.Instant
import SessionTokens.Store.Basic

/-!
# Records of a store in memory

What each operation does to the entries of a store in memory, and that a store
none of whose operations is out of order performs them.  As no token occurs
twice, the record of a token is the one that it is stored with.
-/

namespace SessionTokens

theorem RefreshRecord.isExpiredAt_eq_true {record : RefreshRecord} {now : Instant} :
    record.isExpiredAt now = true ↔ record.expiry ≤ now :=
  decide_eq_true_iff

theorem RefreshRecord.isExpiredAt_eq_false {record : RefreshRecord} {now : Instant} :
    record.isExpiredAt now = false ↔ now < record.expiry := by
  rw [← Instant.not_le]
  exact decide_eq_false_iff_not

namespace MemoryStore

/-! ## Entries -/

@[simp] theorem mem_keep {store : MemoryStore} {admits : String × RefreshRecord → Bool}
    {entry : String × RefreshRecord} :
    entry ∈ (store.keep admits).records ↔ entry ∈ store.records ∧ admits entry = true :=
  List.mem_filter

@[simp] theorem mem_delete {store : MemoryStore} {token : String} {entry : String × RefreshRecord} :
    entry ∈ (store.delete token).records ↔ entry ∈ store.records ∧ entry.1 ≠ token := by
  rw [delete, mem_keep, decide_eq_true_iff]

theorem records_set (store : MemoryStore) (now : Instant) (token : String) (userData : Json)
    (expiry : Instant) :
    (store.set now token userData expiry).records =
      (token, ⟨token, userData, expiry, now⟩) :: (store.delete token).records :=
  rfl

theorem mem_set {store : MemoryStore} {now : Instant} {token : String} {userData : Json}
    {expiry : Instant} {entry : String × RefreshRecord} :
    entry ∈ (store.set now token userData expiry).records ↔
      entry = (token, ⟨token, userData, expiry, now⟩) ∨
        entry ∈ store.records ∧ entry.1 ≠ token := by
  rw [records_set, List.mem_cons, mem_delete]

theorem mem_cleanup {store : MemoryStore} {now : Instant} {entry : String × RefreshRecord} :
    entry ∈ (store.cleanup now).2.records ↔
      entry ∈ store.records ∧ entry.2.isExpiredAt now = false := by
  simp [cleanup]

theorem mem_of_mem_cleanup {store : MemoryStore} {now : Instant} {entry : String × RefreshRecord}
    (inside : entry ∈ (store.cleanup now).2.records) : entry ∈ store.records :=
  (mem_cleanup.mp inside).1

theorem mem_of_record? {store : MemoryStore} {token : String} {record : RefreshRecord}
    (found : store.record? token = some record) : (token, record) ∈ store.records := by
  obtain ⟨front, back, split, -⟩ := List.lookup_eq_some_iff.mp found
  simp [split]

/-! ## Tokens -/

theorem mem_tokens {store : MemoryStore} {token : String} :
    token ∈ store.tokens ↔ ∃ record, (token, record) ∈ store.records := by
  simp [tokens]

theorem mem_tokens_of_record? {store : MemoryStore} {token : String} {record : RefreshRecord}
    (found : store.record? token = some record) : token ∈ store.tokens :=
  mem_tokens.mpr ⟨record, mem_of_record? found⟩

@[simp] theorem mem_tokens_delete {store : MemoryStore} {token other : String} :
    other ∈ (store.delete token).tokens ↔ other ∈ store.tokens ∧ other ≠ token := by
  simp only [mem_tokens, mem_delete, exists_and_right]

@[simp] theorem mem_tokens_set {store : MemoryStore} {now : Instant} {token : String}
    {userData : Json} {expiry : Instant} {other : String} :
    other ∈ (store.set now token userData expiry).tokens ↔
      other = token ∨ other ∈ store.tokens := by
  rw [tokens, records_set, List.map_cons, List.mem_cons]
  change other = token ∨ other ∈ (store.delete token).tokens ↔ _
  rw [mem_tokens_delete]
  by_cases same : other = token <;> simp [same]

theorem mem_tokens_of_mem_cleanup {store : MemoryStore} {now : Instant} {token : String}
    (inside : token ∈ (store.cleanup now).2.tokens) : token ∈ store.tokens := by
  obtain ⟨record, present⟩ := mem_tokens.mp inside
  exact mem_tokens.mpr ⟨record, mem_of_mem_cleanup present⟩

theorem tokens_delete (store : MemoryStore) (token : String) :
    (store.delete token).tokens = store.tokens.filter (· ≠ token) := by
  rw [tokens, tokens, List.filter_map]
  rfl

theorem tokens_delete_sublist (store : MemoryStore) (token : String) :
    (store.delete token).tokens.Sublist store.tokens := by
  rw [tokens_delete]
  exact List.filter_sublist

/-! ## Lookup -/

theorem record?_set_self (store : MemoryStore) (now : Instant) (token : String) (userData : Json)
    (expiry : Instant) :
    (store.set now token userData expiry).record? token =
      some ⟨token, userData, expiry, now⟩ :=
  List.lookup_cons_self

theorem record?_delete_of_ne {store : MemoryStore} {token other : String}
    (differs : other ≠ token) : (store.delete token).record? other = store.record? other := by
  obtain ⟨records, distinct⟩ := store
  simp only [record?, delete, keep]
  clear distinct
  induction records with
  | nil => rfl
  | cons entry records ih =>
      obtain ⟨name, record⟩ := entry
      by_cases same : name = token
      · -- The entry that is removed is none of the other token.
        rw [List.filter_cons_of_neg (by simpa using same), ih, same, List.lookup_cons,
          beq_false_of_ne differs]
      · rw [List.filter_cons_of_pos (by simpa using same), List.lookup_cons, List.lookup_cons, ih]

theorem record?_set_of_ne {store : MemoryStore} {token other : String} (differs : other ≠ token)
    {now : Instant} {userData : Json} {expiry : Instant} :
    (store.set now token userData expiry).record? other = store.record? other := by
  rw [record?, records_set, List.lookup_cons, beq_false_of_ne differs]
  exact record?_delete_of_ne differs

/-- A token without a record is in no entry. -/
theorem delete_eq_self {store : MemoryStore} {token : String}
    (absent : store.record? token = none) : store.delete token = store := by
  have others : ∀ entry ∈ store.records, decide (entry.1 ≠ token) = true := by
    intro entry inside
    have apart := List.lookup_eq_none_iff.mp absent entry inside
    exact decide_eq_true fun same => bne_iff_ne.mp apart same.symm
  exact MemoryStore.ext (List.filter_eq_self.mpr others)

/-- Without its only token a map is empty. -/
theorem delete_of_single {store : MemoryStore} {token : String} {record : RefreshRecord}
    (single : store.records = [(token, record)]) : store.delete token = {} := by
  ext1
  simp [delete, keep, single]

theorem delete_set (store : MemoryStore) (now : Instant) (token : String) (userData : Json)
    (expiry : Instant) :
    (store.set now token userData expiry).delete token = store.delete token := by
  simp [set, delete, keep]

/-- The record of a token is the one that it is stored with. -/
theorem record?_eq_some_iff {store : MemoryStore} {token : String} {record : RefreshRecord} :
    store.record? token = some record ↔ (token, record) ∈ store.records := by
  refine ⟨mem_of_record?, fun present => ?_⟩
  obtain ⟨front, back, split⟩ := List.append_of_mem present
  refine List.lookup_eq_some_iff.mpr ⟨front, back, split, fun entry before => ?_⟩
  have distinct := store.distinct
  rw [split, List.map_append, List.map_cons] at distinct
  have apart := (List.nodup_append.mp distinct).2.2 entry.1 (List.mem_map_of_mem before) token
    List.mem_cons_self
  simpa using apart.symm

theorem mem_tokens_iff_record? {store : MemoryStore} {token : String} :
    token ∈ store.tokens ↔ ∃ record, store.record? token = some record := by
  simp only [mem_tokens, record?_eq_some_iff]

theorem record?_delete {store : MemoryStore} {token other : String} {record : RefreshRecord} :
    (store.delete token).record? other = some record ↔
      store.record? other = some record ∧ other ≠ token := by
  rw [record?_eq_some_iff, record?_eq_some_iff, mem_delete]

theorem record?_set {store : MemoryStore} {now : Instant} {token other : String}
    {userData : Json} {expiry : Instant} {record : RefreshRecord} :
    (store.set now token userData expiry).record? other = some record ↔
      (other = token ∧ ⟨token, userData, expiry, now⟩ = record) ∨
        store.record? other = some record ∧ other ≠ token := by
  rw [record?_eq_some_iff, record?_eq_some_iff, mem_set, Prod.mk.injEq, eq_comm (a := record)]

theorem record?_cleanup {store : MemoryStore} {now : Instant} {token : String}
    {record : RefreshRecord} :
    (store.cleanup now).2.record? token = some record ↔
      store.record? token = some record ∧ record.isExpiredAt now = false := by
  rw [record?_eq_some_iff, record?_eq_some_iff, mem_cleanup]

/-! ## Reading and taking -/

theorem get_eq_ok {store : MemoryStore} {now : Instant} {token : String} {userData : Json} :
    store.get now token = .ok userData ↔
      ∃ record, store.record? token = some record ∧ now < record.expiry ∧
        record.userData = userData := by
  rw [get]
  cases store.record? token with
  | none => simp
  | some record =>
      by_cases passed : record.expiry ≤ now
      · have late : ¬ now < record.expiry := fun early => Instant.not_le.mpr early passed
        simp [passed, late, RefreshRecord.isExpiredAt_eq_true]
      · simp [passed, Instant.not_le.mp passed, RefreshRecord.isExpiredAt_eq_true]

theorem get_error {store : MemoryStore} {now : Instant} {token : String} {error : StoreError}
    (failed : store.get now token = .error error) : error = .notFound := by
  rw [get] at failed
  split at failed
  · split at failed <;> cases failed
    rfl
  · cases failed
    rfl

theorem take_eq_ok {store : MemoryStore} {now : Instant} {token : String}
    {record : RefreshRecord} :
    (store.take now token).1 = .ok record ↔
      store.record? token = some record ∧ now < record.expiry := by
  rw [take]
  cases store.record? token with
  | none => simp
  | some found =>
      dsimp only
      split
      · next passed =>
          refine ⟨nofun, fun ⟨same, early⟩ => ?_⟩
          cases same
          exact absurd (RefreshRecord.isExpiredAt_eq_true.mp passed) (Instant.not_le.mpr early)
      · next early =>
          rw [RefreshRecord.isExpiredAt_eq_true, Instant.not_le] at early
          simp only [Except.ok.injEq, Option.some.injEq]
          exact ⟨fun same => ⟨same, same ▸ early⟩, And.left⟩

theorem take_error {store : MemoryStore} {now : Instant} {token : String} {error : StoreError}
    (failed : (store.take now token).1 = .error error) : error = .notFound := by
  rw [take] at failed
  split at failed
  · dsimp only at failed
    split at failed <;> cases failed
    rfl
  · cases failed
    rfl

/-- Whatever a `take` answers, the token is gone. -/
theorem take_snd (store : MemoryStore) (now : Instant) (token : String) :
    (store.take now token).2 = store.delete token := by
  rw [take]
  cases found : store.record? token with
  | some record => rfl
  | none => exact (delete_eq_self found).symm

/-! ## Counting -/

theorem cleanup_fst (store : MemoryStore) (now : Instant) :
    (store.cleanup now).1 = (store.keep fun entry => entry.2.isExpiredAt now).records.length := by
  have parts := List.length_eq_length_filter_add (l := store.records)
    fun entry => entry.2.isExpiredAt now
  simp only [cleanup, keep]
  omega

/-- A record that is set is counted if it is not over, besides those of the other tokens. -/
theorem count_set (store : MemoryStore) (now written : Instant) (token : String) (userData : Json)
    (expiry : Instant) :
    (store.set written token userData expiry).count now =
      (store.delete token).count now + if now < expiry then 1 else 0 := by
  simp only [count, keep, records_set, List.filter_cons]
  by_cases live : now < expiry
  · rw [RefreshRecord.isExpiredAt_eq_false.mpr live, if_pos live]
    rfl
  · have past : expiry ≤ now := not_not.mp fun later => live (Instant.not_le.mp later)
    rw [RefreshRecord.isExpiredAt_eq_true.mpr past, if_neg live]
    rfl

/-- A cleanup right after another one finds nothing. -/
theorem cleanup_cleanup_fst (store : MemoryStore) (now : Instant) :
    ((store.cleanup now).2.cleanup now).1 = 0 := by
  rw [cleanup_fst, List.length_eq_zero_iff, keep, List.filter_eq_nil_iff]
  simp [cleanup]

/-- The records of a kind are as many as the tokens whose record is of that kind. -/
theorem exists_tokens_where (store : MemoryStore) (kind : RefreshRecord → Bool) :
    ∃ tokens : Finset String,
      (∀ token, token ∈ tokens ↔ ∃ record, store.record? token = some record ∧ kind record) ∧
        (store.keep fun entry => kind entry.2).records.length = tokens.card := by
  let kept := store.keep fun entry => kind entry.2
  refine ⟨kept.tokens.toFinset, fun token => ?_, ?_⟩
  · simp [kept, mem_tokens, record?_eq_some_iff]
  · rw [tokens, List.toFinset_card_of_nodup kept.distinct, List.length_map]

end MemoryStore

namespace Store

/-! ## Stores in order -/

variable {store : Store}

theorem attempt_of_faults {α : Type} (whole : store.faults = []) (operation : StoreOperation)
    (run : MemoryStore → Except StoreError α × MemoryStore) :
    store.attempt operation run =
      ((run store.memory).1, { store with memory := (run store.memory).2 }) := by
  simp [attempt, fault?, whole]

theorem take_of_faults (whole : store.faults = []) (now : Instant) (token : String) :
    store.take now token =
      ((store.memory.take now token).1,
        { store with memory := (store.memory.take now token).2 }) :=
  attempt_of_faults whole .take _

theorem set_of_faults (whole : store.faults = []) (now : Instant) (token : String)
    (userData : Json) (expiry : Instant) :
    store.set now token userData expiry =
      (.ok (), { store with memory := store.memory.set now token userData expiry }) :=
  attempt_of_faults whole .set _

theorem delete_of_faults (whole : store.faults = []) (token : String) :
    store.delete token = (.ok (), { store with memory := store.memory.delete token }) :=
  attempt_of_faults whole .delete _

theorem cleanup_of_faults (whole : store.faults = []) (now : Instant) :
    store.cleanup now =
      (.ok (store.memory.cleanup now).1,
        { store with memory := (store.memory.cleanup now).2 }) :=
  attempt_of_faults whole .cleanup _

theorem get_of_faults (whole : store.faults = []) (now : Instant) (token : String) :
    store.get now token = (store.memory.get now token, store) :=
  attempt_of_faults whole .get _

theorem count_of_faults (whole : store.faults = []) (now : Instant) :
    store.count now = (.ok (store.memory.count now), store) :=
  attempt_of_faults whole .count _

end Store

end SessionTokens
