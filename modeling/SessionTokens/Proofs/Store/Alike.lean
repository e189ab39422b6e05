import SessionTokens.Proofs.Store.Memory
import SessionTokens.Store.History

/-!
# Stores that cannot be told apart

From an instant on, two stores are alike when they hold the same records that
are not over at it; records that are over may be in one and not in the other.
No operation but a cleanup answers differently over stores that are alike, every
operation leaves them alike, a cleanup of one of them included, and so does time
that passes.
-/

namespace SessionTokens

namespace MemoryStore

/-- Whether two maps of records agree on all records that are not over at an instant. -/
def Alike (now : Instant) (left right : MemoryStore) : Prop :=
  ∀ token record, now < record.expiry →
    (left.record? token = some record ↔ right.record? token = some record)

namespace Alike

variable {now later : Instant} {left right : MemoryStore} {token : String}

/-- Records that are over stay so while the clock goes forward. -/
theorem mono (alike : Alike now left right) (forward : now ≤ later) : Alike later left right :=
  fun token record early => alike token record (Instant.lt_of_le_of_lt forward early)

theorem set (alike : Alike now left right) (made : Instant) (token : String) (userData : Json)
    (expiry : Instant) :
    Alike now (left.set made token userData expiry) (right.set made token userData expiry) := by
  intro other record early
  rw [record?_set, record?_set, alike other record early]

theorem delete (alike : Alike now left right) (token : String) :
    Alike now (left.delete token) (right.delete token) := by
  intro other record early
  rw [record?_delete, record?_delete, alike other record early]

/-- A cleanup removes only what is over. -/
theorem cleanup_left (alike : Alike now left right) : Alike now (left.cleanup now).2 right := by
  intro token record early
  rw [record?_cleanup, ← alike token record early]
  exact and_iff_left (RefreshRecord.isExpiredAt_eq_false.mpr early)

theorem get (alike : Alike now left right) (token : String) :
    left.get now token = right.get now token := by
  refine eq_of_ok_iff (fun userData => ?_) (fun _ => get_error) (fun _ => get_error)
  rw [get_eq_ok, get_eq_ok]
  exact exists_congr fun record => and_congr_left fun ⟨early, _⟩ => alike token record early

theorem take (alike : Alike now left right) (token : String) :
    (left.take now token).1 = (right.take now token).1 := by
  refine eq_of_ok_iff (fun record => ?_) (fun _ => take_error) (fun _ => take_error)
  rw [take_eq_ok, take_eq_ok]
  exact and_congr_left fun early => alike token record early

theorem count (alike : Alike now left right) : left.count now = right.count now := by
  let live (record : RefreshRecord) : Bool := !record.isExpiredAt now
  obtain ⟨tokens, inside, size⟩ := left.exists_tokens_where live
  obtain ⟨others, within, extent⟩ := right.exists_tokens_where live
  have same : tokens = others := by
    ext token
    rw [inside, within]
    refine exists_congr fun record => and_congr_left fun current => ?_
    exact alike token record (by simpa [live, RefreshRecord.isExpiredAt_eq_false] using current)
  rw [MemoryStore.count, MemoryStore.count, size, extent, same]

end Alike

end MemoryStore

namespace Store

/-- Whether two stores in order hold records that are alike. -/
structure Alike (now : Instant) (left right : Store) : Prop where
  left_whole : left.faults = []
  right_whole : right.faults = []
  records : left.memory.Alike now right.memory

/-- Two outcomes over stores: the same answer, and stores that are alike. -/
inductive SameAnswer (now : Instant) {α : Type} : α × Store → α × Store → Prop where
  | intro (answer : α) {left right : Store} (alike : Alike now left right) :
      SameAnswer now (answer, left) (answer, right)

namespace SameAnswer

variable {now : Instant} {α β : Type} {left right : α × Store}

theorem map (same : SameAnswer now left right) (change : α → β) :
    SameAnswer now (left.map change id) (right.map change id) := by
  cases same with
  | intro answer alike => exact .intro (change answer) alike

end SameAnswer

namespace Alike

variable {now later : Instant} {left right : Store}

theorem mono (alike : Alike now left right) (forward : now ≤ later) : Alike later left right :=
  ⟨alike.left_whole, alike.right_whole, alike.records.mono forward⟩

theorem cleanup_left (alike : Alike now left right) : Alike now (left.cleanup now).2 right := by
  rw [cleanup_of_faults alike.left_whole]
  exact ⟨alike.left_whole, alike.right_whole, alike.records.cleanup_left⟩

theorem set (alike : Alike now left right) (token : String) (userData : Json)
    (expiry : Instant) :
    SameAnswer now (left.set now token userData expiry) (right.set now token userData expiry) := by
  rw [set_of_faults alike.left_whole, set_of_faults alike.right_whole]
  exact .intro _ ⟨alike.left_whole, alike.right_whole, alike.records.set now token userData expiry⟩

theorem get (alike : Alike now left right) (token : String) :
    SameAnswer now (left.get now token) (right.get now token) := by
  rw [get_of_faults alike.left_whole, get_of_faults alike.right_whole, alike.records.get]
  exact .intro _ alike

theorem take (alike : Alike now left right) (token : String) :
    SameAnswer now (left.take now token) (right.take now token) := by
  rw [take_of_faults alike.left_whole, take_of_faults alike.right_whole, alike.records.take,
    MemoryStore.take_snd, MemoryStore.take_snd]
  exact .intro _ ⟨alike.left_whole, alike.right_whole, alike.records.delete token⟩

theorem delete (alike : Alike now left right) (token : String) :
    SameAnswer now (left.delete token) (right.delete token) := by
  rw [delete_of_faults alike.left_whole, delete_of_faults alike.right_whole]
  exact .intro _ ⟨alike.left_whole, alike.right_whole, alike.records.delete token⟩

theorem count (alike : Alike now left right) :
    SameAnswer now (left.count now) (right.count now) := by
  rw [count_of_faults alike.left_whole, count_of_faults alike.right_whole, alike.records.count]
  exact .intro _ alike

/-- Stores that are alike answer every call but a cleanup in the same way. -/
theorem perform (alike : Alike now left right) {call : StoreCall} (other : call ≠ .cleanup) :
    SameAnswer now (left.perform now call) (right.perform now call) := by
  cases call with
  | set token userData expiry => exact (alike.set token userData expiry).map _
  | get token => exact (alike.get token).map _
  | take token => exact (alike.take token).map _
  | delete token => exact (alike.delete token).map _
  | cleanup => exact absurd rfl other
  | count => exact alike.count.map _

end Alike

end Store

end SessionTokens
