import SessionTokens.Session.History

/-!
# Calls at the same time

Calls that run at the same time share the store, and only the operations of the
store are indivisible.  A rotation passes the gate of the access token, takes a
record, checks the window, signs a pair, and puts its record into the store; each
of these steps has its own instant, and steps of other calls may come between any
two of them.
-/

namespace SessionTokens

inductive Stage where
  | entered
  | taking (token : String)
  | checking (record : RefreshRecord)
  | signing (userData : Json) (origin : Option Int)
  | storing (pending : PendingPair)
  | deleting (token : String)
  | answered (answer : Answer)

structure Task where
  call : Call
  stage : Stage := .entered
  /-- Whether the call has asked the store for a record. -/
  asked : Bool := false
  /-- The refresh token whose record the call obtained. -/
  taken : Option String := none

namespace Call

def draw : Call → Bytes
  | .login draw _ | .generateTokenPair draw _ | .refresh draw _ | .refreshTokenPair draw _ => draw
  | _ => []

def settle (engine : SessionEngine) (call : Call) (outcome : Except SessionError TokenPair) :
    Answer :=
  match call with
  | .login .. | .refresh .. => .granted (outcome.map engine.grant)
  | _ => .paired outcome

def close (engine : SessionEngine) (call : Call) (outcome : Except SessionError Unit) : Answer :=
  match call with
  | .logout _ => .loggedOut (outcome.map fun _ => ⟨true, engine.clearingCookies⟩)
  | _ => .revoked outcome

end Call

namespace SessionEngine

/-- The first step of a call: all that it does before it waits for the store. -/
def enter (engine : SessionEngine) (now : Instant) (store : Store) : Call → Stage × Store
  | .login _ credentials =>
      match engine.authenticate credentials with
      | .error error => (.answered (.granted (.error error)), store)
      | .ok userData => (.signing userData none, store)
  | .generateTokenPair _ userData => (.signing userData none, store)
  | .refresh _ request =>
      match engine.admitRefresh now request with
      | .error error => (.answered (.granted (.error error)), store)
      | .ok token => (.taking token, store)
  | .refreshTokenPair _ token =>
      if token = "" then (.answered (.paired (.error .missingRefreshToken)), store)
      else (.taking token, store)
  | .logout request =>
      match engine.refreshToken request with
      | .error _ => (.answered (.loggedOut (.ok ⟨false, engine.clearingCookies⟩)), store)
      | .ok token =>
          if token = "" then (.answered ((Call.logout request).close engine (.ok ())), store)
          else (.deleting token, store)
  | .revoke token =>
      if token = "" then (.answered (.revoked (.ok ())), store) else (.deleting token, store)
  | call => (engine.perform now store call).map .answered id

def step (engine : SessionEngine) (now : Instant) (task : Task) (store : Store) : Task × Store :=
  match task.stage with
  | .entered =>
      let (stage, store) := engine.enter now store task.call
      ({ task with stage }, store)
  | .taking token =>
      match takeRecord now token store with
      | (.error error, store) =>
          ({ task with asked := true, stage := .answered (task.call.settle engine (.error error)) },
            store)
      | (.ok record, store) =>
          ({ task with asked := true, taken := some token, stage := .checking record }, store)
  | .checking record =>
      match SessionRecord.read? record.userData with
      | none =>
          let answer := task.call.settle engine (.error (.internal .corruptRecord))
          ({ task with stage := .answered answer }, store)
      | some session =>
          match engine.checkWindow now session.origin with
          | .error error =>
              ({ task with stage := .answered (task.call.settle engine (.error error)) }, store)
          | .ok () =>
              ({ task with stage := .signing session.userData (some session.origin) }, store)
  | .signing userData origin =>
      match engine.preparePair now task.call.draw userData origin with
      | .error error =>
          ({ task with stage := .answered (task.call.settle engine (.error error)) }, store)
      | .ok pending => ({ task with stage := .storing pending }, store)
  | .storing pending =>
      let (outcome, store) := pending.deposit now store
      ({ task with stage := .answered (task.call.settle engine outcome) }, store)
  | .deleting token =>
      let (outcome, store) := store.delete token
      let answer := task.call.close engine (outcome.mapError .ofStore)
      ({ task with stage := .answered answer }, store)
  | .answered _ => (task, store)

/-- A number of steps of a call, all at one instant and with no other call between them. -/
def stepAlone (engine : SessionEngine) (now : Instant) : Nat → Task → Store → Task × Store
  | 0, task, store => (task, store)
  | count + 1, task, store =>
      let (task, store) := engine.step now task store
      stepAlone engine now count task store

end SessionEngine

namespace Task

/-- The fresh refresh token that a call has signed a pair for and not stored yet. -/
def drawn? (task : Task) : Option String :=
  match task.stage with
  | .storing pending => some pending.pair.refreshToken
  | _ => none

/-- The refresh token whose record a rotation holds between taking it and storing the next. -/
def held? (task : Task) : Option String :=
  match task.stage with
  | .checking _ | .signing .. | .storing _ => task.taken
  | _ => none

def answer? (task : Task) : Option Answer :=
  match task.stage with
  | .answered answer => some answer
  | _ => none

def Rotates (engine : SessionEngine) (task : Task) (token : String) : Prop :=
  task.call.isRotation = true ∧ task.call.presented? engine = some token

instance (engine : SessionEngine) (task : Task) (token : String) :
    Decidable (task.Rotates engine token) :=
  inferInstanceAs (Decidable (_ ∧ _))

end Task

structure Traffic where
  store : Store := {}
  tasks : List Task := []
  /-- Each refresh token that was ever stored, with the first one of its session. -/
  lineage : List (String × String) := []

/-- What happens next: another call starts, or a call under way takes its next step. -/
inductive Turn where
  | start (call : Call)
  | step (index : Nat) (now : Instant)

namespace Traffic

/-- The first refresh token of the session that a refresh token belongs to. -/
def first? (traffic : Traffic) (token : String) : Option String := traffic.lineage.lookup token

/-- Whether a refresh token was neither stored yet nor drawn by a call under way. -/
def Unused (traffic : Traffic) (token : String) : Prop :=
  token ∉ traffic.lineage.map Prod.fst ∧ ∀ task ∈ traffic.tasks, task.drawn? ≠ some token

instance (traffic : Traffic) (token : String) : Decidable (traffic.Unused token) :=
  inferInstanceAs (Decidable (_ ∧ _))

/--
The tokens with their sessions after a step of a call: a pair that a rotation
stores belongs to the session of the token taken, any other opens a session.
-/
def lineageAfter (traffic : Traffic) (task : Task) : List (String × String) :=
  match task.drawn? with
  | some token => (token, (task.taken.bind traffic.first?).getD token) :: traffic.lineage
  | none => traffic.lineage

/-- The calls under way after a turn; a token that is drawn must be fresh. -/
def turn? (engine : SessionEngine) (traffic : Traffic) : Turn → Option Traffic
  | .start call => some { traffic with tasks := traffic.tasks ++ [{ call }] }
  | .step index now => do
      let task ← traffic.tasks[index]?
      let (next, store) := engine.step now task traffic.store
      if ∀ token ∈ next.drawn?, traffic.Unused token then
        some
          { store
            tasks := traffic.tasks.set index next
            lineage := traffic.lineageAfter task }
      else none

/-- The stored records of a session, and its rotations between taking one and storing the next. -/
def load (traffic : Traffic) (first : String) : Nat :=
  traffic.store.memory.tokens.countP (fun token => traffic.first? token = some first) +
    traffic.tasks.countP (fun task => task.held?.bind traffic.first? = some first)

end Traffic

/-- The calls under way after turns in their order, from an empty store. -/
def SessionEngine.interleave? (engine : SessionEngine) (turns : List Turn) : Option Traffic :=
  turns.foldlM (Traffic.turn? engine) {}

end SessionTokens
