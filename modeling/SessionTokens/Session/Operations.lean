import SessionTokens.Session.History
import SessionTokens.Store.History

/-!
# An engine and its store side by side

The store of an engine is also called on its own: to look at it, to change it,
and to purge it.  An operation is a call of either, both read one clock, and a
trace records what each operation was answered and when.
-/

namespace SessionTokens

inductive Operation where
  | engine (call : Call)
  | store (call : StoreCall)

inductive OperationAnswer where
  | engine (answer : Answer)
  | store (answer : StoreAnswer)

namespace Operation

def isCleanup : Operation → Bool
  | .engine .cleanup | .store .cleanup => true
  | _ => false

def clockAfter (now : Instant) : Operation → Instant
  | .engine call => (call.moveClock ⟨now⟩).now
  | .store _ => now

end Operation

def Forward : Instant → List Operation → Prop
  | _, [] => True
  | now, operation :: rest =>
      now ≤ operation.clockAfter now ∧ Forward (operation.clockAfter now) rest

instance Forward.decidable : ∀ now operations, Decidable (Forward now operations)
  | _, [] => inferInstanceAs (Decidable True)
  | now, operation :: rest =>
      have := decidable (operation.clockAfter now) rest
      inferInstanceAs (Decidable (now ≤ operation.clockAfter now ∧ _))

structure Occurrence where
  now : Instant
  operation : Operation
  answer : OperationAnswer

namespace SessionEngine

def operate (engine : SessionEngine) (now : Instant) (store : Store) :
    Operation → OperationAnswer × Store
  | .engine call => (engine.perform now store call).map .engine id
  | .store call => (store.perform now call).map .store id

def trace (engine : SessionEngine) : Instant → Store → List Operation → List Occurrence
  | _, _, [] => []
  | now, store, operation :: rest =>
      let (answer, after) := engine.operate now store operation
      ⟨now, operation, answer⟩ :: engine.trace (operation.clockAfter now) after rest

end SessionEngine

def withoutCleanup (operations : List Operation) : List Operation :=
  operations.filter fun operation => !operation.isCleanup

/-- What happened, the cleanup passes left out. -/
def visible (trace : List Occurrence) : List Occurrence :=
  trace.filter fun occurrence => !occurrence.operation.isCleanup

end SessionTokens
