import SessionTokens.Decimal.Reading
import SessionTokens.Time.Instant

/-!
# Comparing and moving instants

Instants are in one order.  An instant at the start of a second moves by the
whole seconds of a span; the rest of the span stays below a second.  An instant
of the calendar moves by every span whose exact sum with it is not beyond the
calendar, however long the span is.
-/

namespace SessionTokens.Instant

variable {instant now target : Instant} {span : Span}

def plus (instant : Instant) (span : Span) : Instant := ofTotal (instant.total + span.nanos)

/-- Whether the exact sum of an instant and a span lies beyond the calendar. -/
def Overruns (instant : Instant) (span : Span) : Prop := last.total < instant.total + span.nanos

instance (instant : Instant) (span : Span) : Decidable (instant.Overruns span) :=
  inferInstanceAs (Decidable (_ < _))

theorem le_iff {left right : Instant} :
    left ≤ right ↔
      left.seconds < right.seconds ∨
        left.seconds = right.seconds ∧ left.nanos ≤ right.nanos := Iff.rfl

theorem lt_iff {left right : Instant} :
    left < right ↔
      left.seconds < right.seconds ∨
        left.seconds = right.seconds ∧ left.nanos < right.nanos := Iff.rfl

theorem le_refl (instant : Instant) : instant ≤ instant :=
  .inr ⟨rfl, Nat.le_refl _⟩

theorem lt_of_le_of_lt {first second third : Instant} (before : first ≤ second)
    (after : second < third) : first < third := by
  rw [le_iff] at before
  rw [lt_iff] at after ⊢
  omega

theorem not_le {left right : Instant} : ¬ left ≤ right ↔ right < left := by
  rw [le_iff, lt_iff]
  omega

theorem eq_of_later? (moved : now.later? span = some target) :
    target = ofTotal (now.total + span.nanos) ∧ target.InCalendar := by
  rw [later?, moved?] at moved
  split at moved
  · split at moved
    · next inside =>
        cases moved
        exact ⟨rfl, inside⟩
    · cases moved
  · cases moved

theorem seconds_of_later? (moved : now.floor.later? span = some target) :
    target.seconds = now.seconds + span.seconds := by
  obtain ⟨rfl, -⟩ := eq_of_later? moved
  simp only [ofTotal, total, floor, ofSeconds, Span.seconds, Span.nanosPerSecond]
  omega

/-- From the start of a second an instant moves by what a span has beyond its seconds. -/
theorem nanos_of_later? (moved : now.floor.later? span = some target) :
    target.nanos = span.subsecond := by
  obtain ⟨rfl, -⟩ := eq_of_later? moved
  simp only [ofTotal, total, floor, ofSeconds, Span.subsecond, Span.nanosPerSecond]
  omega

/-- No added second lies between the start of a second and an instant that was reached by moving. -/
theorem since_floor_of_later? (moved : now.floor.later? span = some target) :
    target.since now.floor = span.nanos := by
  have seconds := seconds_of_later? moved
  have nanos := nanos_of_later? moved
  have start : ¬ Span.nanosPerSecond ≤ now.floor.nanos :=
    Nat.not_le.mpr (by decide : 0 < Span.nanosPerSecond)
  have short : ¬ Span.nanosPerSecond ≤ target.nanos := by
    rw [nanos]
    exact Nat.not_le.mpr (Nat.mod_lt _ (by decide))
  rw [since, if_neg fun added => start added.2, if_neg fun added => short added.2]
  simp only [total, seconds, nanos, floor, ofSeconds, Span.seconds, Span.subsecond,
    Span.nanosPerSecond]
  omega

theorem floor_le_iff {expiry : Instant} : expiry.floor ≤ now ↔ expiry.seconds ≤ now.seconds := by
  simp only [le_iff, floor, ofSeconds]
  omega

theorem floor_eq_self (whole : instant.nanos = 0) : instant.floor = instant := by
  obtain ⟨seconds, nanos⟩ := instant
  cases whole
  rfl

/-! ## The calendar -/

theorem InCalendar.seconds_bounds (inside : instant.InCalendar) :
    -8334601228800 ≤ instant.seconds ∧ instant.seconds ≤ 8210266876799 := by
  obtain ⟨low, high⟩ := inside
  simp only [LE.le, le, first, last] at low high
  omega

theorem InCalendar.signed_bounds (inside : instant.InCalendar) :
    Decimal.minInt64 ≤ instant.seconds ∧ instant.seconds ≤ Decimal.maxInt64 := by
  have bounds := inside.seconds_bounds
  simp only [Decimal.minInt64, Decimal.maxInt64]
  omega

/-- No span that an instant may be moved by leads from outside a signed word into the calendar. -/
theorem InCalendar.signed_bounds_of_moved (inside : target.InCalendar)
    (short : span.nanos ≤ Span.longestMove.nanos)
    (moved : target.seconds = now.seconds + span.seconds) :
    Decimal.minInt64 ≤ now.seconds ∧ now.seconds ≤ Decimal.maxInt64 := by
  have bounds := inside.seconds_bounds
  simp only [Span.longestMove, Span.seconds, Span.nanosPerSecond] at short moved
  simp only [Decimal.minInt64, Decimal.maxInt64]
  omega

theorem InCalendar.floor (inside : instant.InCalendar) : instant.floor.InCalendar := by
  have bounds := inside.seconds_bounds
  simp only [InCalendar, le_iff, first, last, Instant.floor, ofSeconds]
  omega

theorem ofTotal_le_last {nanos : Int} : ofTotal nanos ≤ last ↔ nanos ≤ last.total := by
  simp only [le_iff, ofTotal, last, total, Span.nanosPerSecond]
  omega

theorem first_le_ofTotal {nanos : Int} : first ≤ ofTotal nanos ↔ first.total ≤ nanos := by
  simp only [le_iff, ofTotal, first, total, Span.nanosPerSecond]
  omega

theorem InCalendar.first_le_total (inside : instant.InCalendar) :
    first.total ≤ instant.total := by
  have bounds := inside.seconds_bounds
  simp only [total, first, Span.nanosPerSecond]
  omega

/-- A span that is too long for every move leads beyond the calendar. -/
theorem InCalendar.overruns_of_long (inside : instant.InCalendar)
    (long : Span.longestMove.nanos < span.nanos) : instant.Overruns span := by
  have low := inside.first_le_total
  simp only [Overruns, first, last, total, Span.longestMove, Span.nanosPerSecond] at low long ⊢
  omega

/-- Only the calendar bounds the spans by which an instant of it moves. -/
theorem InCalendar.later?_eq (inside : instant.InCalendar) (span : Span) :
    instant.later? span = if instant.Overruns span then none else some (instant.plus span) := by
  by_cases long : Span.longestMove.nanos < span.nanos
  · rw [later?, if_neg (Nat.not_le.mpr long), if_pos (inside.overruns_of_long long)]
  have low : first ≤ instant.plus span := by
    have start := inside.first_le_total
    rw [plus, first_le_ofTotal]
    omega
  have high : instant.plus span ≤ last ↔ ¬ instant.Overruns span := by
    rw [plus, ofTotal_le_last, Overruns, Int.not_lt]
  rw [later?, if_pos (Nat.not_lt.mp long), moved?]
  change (if (instant.plus span).InCalendar then some (instant.plus span) else none) = _
  by_cases overruns : instant.Overruns span
  · rw [if_pos overruns, if_neg fun within => high.mp within.2 overruns]
  · rw [if_neg overruns, if_pos ⟨low, high.mpr overruns⟩]

end SessionTokens.Instant
