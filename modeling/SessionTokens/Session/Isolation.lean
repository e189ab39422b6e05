import SessionTokens.Session.History

/-!
# Leaving sessions out of a run

A group of sessions is left out of a run by leaving out the events that touch
it: those that open one of its sessions, and those that address a refresh token
of one.  What remains of a history is compared event by event, and numbers of
records are not looked at.
-/

namespace SessionTokens

/-- The refresh token that a call addresses: the one that it presents, or that it reads. -/
def Call.addressed? (engine : SessionEngine) : Call → Option String
  | .get token => some token
  | call => call.presented? engine

/-- An answer without the number of records that it may tell. -/
def Answer.uncounted : Answer → Answer
  | .counted (.ok _) => .counted (.ok 0)
  | answer => answer

namespace Event

def uncounted (event : Event) : Event := { event with answer := event.answer.uncounted }

/-- Whether an event opens a session of a group, or addresses a refresh token of one. -/
def touches (engine : SessionEngine) (group : OpenedSession → Bool) (event : Event)
    (earlier : List Event) : Bool :=
  (event.call.opened? engine).isSome
      && (event.session? engine (engine.sessionOf? earlier)).any group
    || (event.call.addressed? engine).any fun token => (engine.sessionOf? earlier token).any group

/-- Whether an event was answered as if no record of its refresh token were there. -/
structure AsIfUnknown (engine : SessionEngine) (event : Event) : Prop where
  unpaired : event.answer.pair? = none
  unfound : ∀ token, event.call.traded? engine event.now = some token →
    event.answer.refusal? = some .refreshTokenNotFound
  unread : ∀ userData, event.answer ≠ .read (.ok userData)

/-- Whether a refresh token that an event hands out was never handed out before. -/
def MintsFresh (event : Event) (earlier : List Event) : Prop :=
  ∀ pair ∈ event.answer.pair?, ∀ past ∈ earlier, ¬ past.Mints pair.refreshToken

instance (event : Event) (earlier : List Event) : Decidable (event.MintsFresh earlier) :=
  inferInstanceAs (Decidable (∀ pair ∈ event.answer.pair?, _))

end Event

def remaining (leaves : Event → List Event → Bool) : List Event → List Event
  | [] => []
  | event :: earlier =>
      if leaves event earlier then remaining leaves earlier
      else event :: remaining leaves earlier

/--
Whether a choice leaves the sessions of a group out: it leaves out only events
that touch the group, and all of them, except that events may stay that were
answered as if no record were there.
-/
structure LeavesOut (engine : SessionEngine) (group : OpenedSession → Bool)
    (leaves : Event → List Event → Bool) : Prop where
  touching : ∀ event earlier, leaves event earlier = true →
    event.touches engine group earlier = true
  all : ∀ event earlier, event.touches engine group earlier = true →
    leaves event earlier = true ∨ event.AsIfUnknown engine

def EngineRun.remainingCalls (leaves : Event → List Event → Bool) (run : EngineRun) : List Call :=
  ((remaining leaves run.history).map Event.call).reverse

end SessionTokens
