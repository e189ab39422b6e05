import SessionTokens.Time.Span

/-!
# Instants

An instant is a whole second of the epoch and nanoseconds after it.  A second
that was added to the calendar has nanoseconds from one to two thousand
million; every other instant has fewer.  Moving an instant fails outside the
calendar.
-/

namespace SessionTokens

/-- A point in time: seconds since 1970-01-01T00:00:00Z and nanoseconds. -/
structure Instant where
  seconds : Int
  nanos : Nat
  deriving DecidableEq, Repr

namespace Instant

def ofSeconds (seconds : Int) : Instant := ⟨seconds, 0⟩

def first : Instant := ⟨-8334601228800, 0⟩

def last : Instant := ⟨8210266876799, 999999999⟩

/-- The nanoseconds since the epoch. -/
def total (instant : Instant) : Int :=
  instant.seconds * Span.nanosPerSecond + instant.nanos

def ofTotal (nanos : Int) : Instant :=
  ⟨nanos / Span.nanosPerSecond, (nanos % Span.nanosPerSecond).toNat⟩

/-- Seconds decide, then nanoseconds. -/
def le (left right : Instant) : Prop :=
  left.seconds < right.seconds ∨ left.seconds = right.seconds ∧ left.nanos ≤ right.nanos

instance : LE Instant := ⟨le⟩

instance (left right : Instant) : Decidable (left ≤ right) :=
  inferInstanceAs (Decidable (_ ∨ _))

def lt (left right : Instant) : Prop :=
  left.seconds < right.seconds ∨ left.seconds = right.seconds ∧ left.nanos < right.nanos

instance : LT Instant := ⟨lt⟩

instance (left right : Instant) : Decidable (left < right) :=
  inferInstanceAs (Decidable (_ ∨ _))

/-- Whether an instant lies in the calendar. -/
def InCalendar (instant : Instant) : Prop := first ≤ instant ∧ instant ≤ last

instance (instant : Instant) : Decidable instant.InCalendar :=
  inferInstanceAs (Decidable (_ ∧ _))

def ofSeconds? (seconds : Int) : Option Instant :=
  if (ofSeconds seconds).InCalendar then some (ofSeconds seconds) else none

/-- The instant moved by a signed number of nanoseconds, when the calendar has it. -/
def moved? (instant : Instant) (nanos : Int) : Option Instant :=
  let target := ofTotal (instant.total + nanos)
  if target.InCalendar then some target else none

def later? (instant : Instant) (span : Span) : Option Instant :=
  if span.nanos ≤ Span.longestMove.nanos then instant.moved? span.nanos else none

def earlier? (instant : Instant) (span : Span) : Option Instant :=
  if span.nanos ≤ Span.longestMove.nanos then instant.moved? (-(span.nanos : Int)) else none

def floor (instant : Instant) : Instant := ofSeconds instant.seconds

def secondOfDay (instant : Instant) : Int := instant.seconds % 86400

/--
Nanoseconds from an earlier instant to a later one.  An added second counts
once it has passed: on the later side always, and when the times of day are in
the other order for the side that holds it.
-/
def since (later earlier : Instant) : Int :=
  let added : Int :=
    if earlier.secondOfDay < later.secondOfDay ∧ Span.nanosPerSecond ≤ earlier.nanos then 1
    else if later.secondOfDay < earlier.secondOfDay ∧ Span.nanosPerSecond ≤ later.nanos then -1
    else 0
  later.total - earlier.total + added * Span.nanosPerSecond

end Instant

/-- A clock that moves only when told to; it stops at the ends of the calendar. -/
structure Clock where
  now : Instant
  deriving DecidableEq, Repr

namespace Clock

def advance (clock : Clock) (span : Span) : Clock :=
  ⟨(clock.now.later? span).getD .last⟩

def rewind (clock : Clock) (span : Span) : Clock :=
  ⟨(clock.now.earlier? span).getD .first⟩

end Clock

end SessionTokens
