import SessionTokens.Store.Basic

/-!
# Periodic cleanup

Records that are over are purged at the end of every period, on a timer of its
own that counts milliseconds.  Several periods that end while the clock stands
still purge as much as one.
-/

namespace SessionTokens

/-- A running cleanup: its period and the time since it was started. -/
structure CleanupTimer where
  period : Span
  elapsed : Span := ⟨0⟩
  deriving DecidableEq, Repr

namespace CleanupTimer

/-- Starts a cleanup; the period must not be empty. -/
def start (period : Span) : Except StoreError CleanupTimer :=
  if period.isZero then .error (.configuration "cleanup period must be greater than zero")
  else .ok { period }

/-- A span rounded up to whole milliseconds. -/
def roundUp (span : Span) : Span := ⟨(span.nanos + 999999) / 1000000 * 1000000⟩

def ended (timer : CleanupTimer) : Nat := timer.elapsed.nanos / timer.period.nanos

/-- Lets time pass: purges the store if a period ends; a failure changes nothing. -/
def pass (timer : CleanupTimer) (span : Span) (now : Instant) (store : Store) :
    CleanupTimer × Store :=
  let later := { timer with elapsed := ⟨timer.elapsed.nanos + (roundUp span).nanos⟩ }
  (later, if timer.ended < later.ended then (store.cleanup now).2 else store)

end CleanupTimer

end SessionTokens
