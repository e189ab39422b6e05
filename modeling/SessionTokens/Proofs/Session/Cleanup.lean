import SessionTokens.Proofs.Session.Matching
import SessionTokens.Proofs.Session.Runs
import SessionTokens.Proofs.Store.Alike
import SessionTokens.Session.Operations

/-!
# Cleanup cannot be seen

A cleanup pass removes records that are over, and while the clock goes forward
nothing asks for them again.  So cleanup passes may be put anywhere into a run, or
left out of it, and all other operations are answered as before.
-/

namespace SessionTokens

/-! ## The clock -/

theorem Operation.clockAfter_of_isCleanup {operation : Operation}
    (cleans : operation.isCleanup = true) (now : Instant) : operation.clockAfter now = now := by
  cases operation with
  | engine call =>
      cases call with
      | cleanup => rfl
      | _ => cases cleans
  | store call => rfl

/-- Cleanup passes do not move the clock. -/
theorem forward_withoutCleanup {now : Instant} {operations : List Operation} :
    Forward now (withoutCleanup operations) ↔ Forward now operations := by
  induction operations generalizing now with
  | nil => exact Iff.rfl
  | cons operation rest ih =>
      cases cleans : operation.isCleanup with
      | true =>
          have standing : now ≤ now := Instant.le_refl now
          rw [withoutCleanup, List.filter_cons_of_neg (by simp [cleans]), Forward,
            operation.clockAfter_of_isCleanup cleans, ← ih]
          exact (and_iff_right standing).symm
      | false =>
          rw [withoutCleanup, List.filter_cons_of_pos (by simp [cleans]), Forward, Forward, ← ih]
          exact Iff.rfl

theorem Store.SameAnswer.of_matches {now : Instant} {α : Type} {left right : α × Store}
    (same : Store.Matches (MemoryStore.Alike now) left right) : SameAnswer now left right := by
  cases same with
  | intro answer after =>
      exact .intro answer ⟨after.left_whole, after.right_whole, after.records⟩

namespace SessionEngine

variable {engine : SessionEngine} {now : Instant} {left right : Store}

open Store (Alike SameAnswer)

/-! ## Operations over stores that are alike -/

theorem keptByChanges_alike (now : Instant) :
    MemoryStore.KeptByChanges now (MemoryStore.Alike now) where
  set alike token userData expiry := alike.set now token userData expiry
  delete alike token := alike.delete token

/-- Over stores that are alike every operation but a cleanup pass is answered in the same way. -/
theorem operate_alike (alike : Alike now left right) {operation : Operation}
    (other : operation.isCleanup = false) :
    SameAnswer now (engine.operate now left operation) (engine.operate now right operation) := by
  cases operation with
  | store call =>
      refine (alike.perform fun same => ?_).map _
      rw [same] at other
      cases other
  | engine call =>
      have visible : call ≠ .cleanup := by
        rintro rfl
        cases other
      have same := engine.perform_matches (keptByChanges_alike now)
        ⟨alike.left_whole, alike.right_whole, alike.records⟩ visible
        (fun token _ => alike.records.take token) (fun token _ => alike.records.get token)
        fun _ => alike.records.count
      exact (SameAnswer.of_matches same).map _

/-! ## Cleanup passes -/

theorem operate_cleanup_alike (alike : Alike now left right) {operation : Operation}
    (cleans : operation.isCleanup = true) :
    Alike now (engine.operate now left operation).2 right := by
  cases operation with
  | engine call =>
      cases call with
      | cleanup => exact alike.cleanup_left
      | _ => cases cleans
  | store call =>
      cases call with
      | cleanup => exact alike.cleanup_left
      | _ => cases cleans

/-- A run is answered as the run without its cleanup passes, over a store that is alike. -/
theorem visible_trace {operations : List Operation} (alike : Alike now left right)
    (forward : Forward now operations) :
    visible (engine.trace now left operations) =
      engine.trace now right (withoutCleanup operations) := by
  induction operations generalizing now left right with
  | nil => rfl
  | cons operation rest ih =>
      obtain ⟨ahead, forward⟩ := forward
      cases cleans : operation.isCleanup with
      | true =>
          rw [operation.clockAfter_of_isCleanup cleans] at forward
          rw [withoutCleanup, List.filter_cons_of_neg (by simp [cleans]), trace, visible,
            List.filter_cons_of_neg (by simp [cleans]), operation.clockAfter_of_isCleanup cleans]
          exact ih (engine.operate_cleanup_alike alike cleans) forward
      | false =>
          have answered := engine.operate_alike alike cleans
          rw [withoutCleanup, List.filter_cons_of_pos (by simp [cleans]), trace, visible, trace,
            List.filter_cons_of_pos (by simp [cleans])]
          generalize engine.operate now left operation = before at answered ⊢
          generalize engine.operate now right operation = other at answered ⊢
          cases answered with
          | intro answer alike =>
              exact congrArg (_ :: ·) (ih (alike.mono ahead) forward)

end SessionEngine

/--
Over a store in memory and under a clock that never goes backward, two runs that
differ only in their cleanup passes answer all their other operations alike, at
the same instants and with the same values, errors and counts.
-/
theorem cleanup_is_invisible (engine : SessionEngine) {start : Instant}
    {operations others : List Operation} (forward : Forward start operations)
    (same : withoutCleanup operations = withoutCleanup others) :
    visible (engine.trace start {} operations) = visible (engine.trace start {} others) := by
  have alike : Store.Alike start {} {} :=
    ⟨rfl, rfl, fun _ _ _ => Iff.rfl⟩
  have ahead : Forward start others := by
    rw [← forward_withoutCleanup, ← same, forward_withoutCleanup]
    exact forward
  rw [engine.visible_trace alike forward, engine.visible_trace alike ahead, same]

/-- A session and a record of its store go over, a cleanup pass comes by, and both are asked for. -/
def purgedOperations : List Operation :=
  [.engine (.generateTokenPair (sampleDraw 0) (.string "alice")),
    .store (.set "other" .null ⟨1700000060, 0⟩), .store .cleanup, .engine (.setClock ⟨1800000000, 0⟩),
    .engine .cleanup, .engine (.refreshTokenPair (sampleDraw 1) (refreshTokenOf (sampleDraw 0))),
    .store (.take "other"), .store .cleanup, .store .count]

/-- The run of these operations is answered as the run without its three cleanup passes. -/
theorem cleanup_is_invisible_purged :
    Forward ⟨1700000000, 0⟩ purgedOperations ∧
      withoutCleanup purgedOperations = withoutCleanup (withoutCleanup purgedOperations) ∧
      visible (sampleEngine.trace ⟨1700000000, 0⟩ {} purgedOperations) =
        visible (sampleEngine.trace ⟨1700000000, 0⟩ {} (withoutCleanup purgedOperations)) := by
  have forward : Forward ⟨1700000000, 0⟩ purgedOperations := by decide
  have same : withoutCleanup purgedOperations =
      withoutCleanup (withoutCleanup purgedOperations) := by rfl
  exact ⟨forward, same, cleanup_is_invisible sampleEngine forward same⟩

end SessionTokens
