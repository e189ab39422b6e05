import SessionTokens.Session.Rotation

/-!
# Histories of an engine

An engine over one store answers calls one after another.  A run keeps its
clock, its store, and a history: every call with its instant and its answer, the
latest first.  Of a call it matters which refresh token it presents; of an answer,
which pair it hands out.

A login or a pair without a login opens a session; every rotation hands the
session of the token that it trades on to the token that it hands out.  Of two
events that hand out one token the later one counts.
-/

namespace SessionTokens

/-- A call of an engine or of its store, with the octets that it draws at random. -/
inductive Call where
  | login (draw : Bytes) (credentials : Json)
  | generateTokenPair (draw : Bytes) (userData : Json)
  | generateAccessToken (draw : Bytes) (userData : Json)
  | validate (request : Request)
  | parseToken (token : String)
  | checkRefreshable (request : Request)
  | refresh (draw : Bytes) (request : Request)
  | refreshTokenPair (draw : Bytes) (token : String)
  | logout (request : Request)
  | revoke (token : String)
  | get (token : String)
  | count
  | cleanup
  /-- Sets the clock, forward or backward. -/
  | setClock (now : Instant)

inductive Answer where
  | granted (outcome : Except SessionError SessionGrant)
  | paired (outcome : Except SessionError TokenPair)
  | issued (outcome : Except SessionError IssuedToken)
  | validated (outcome : Except SessionError ValidatedRequest)
  | verified (outcome : Except SessionError Claims)
  | loggedOut (outcome : Except SessionError LogoutOutcome)
  | revoked (outcome : Except SessionError Unit)
  | read (outcome : Except StoreError Json)
  | counted (outcome : Except StoreError Nat)
  | clockSet

namespace Answer

def pair? : Answer → Option TokenPair
  | .granted (.ok grant) => some grant.pair
  | .paired (.ok pair) => some pair
  | _ => none

/-- Why no pair was handed out to a call that asked for one. -/
def refusal? : Answer → Option SessionError
  | .granted (.error error) | .paired (.error error) => some error
  | _ => none

end Answer

namespace SessionEngine

def perform (engine : SessionEngine) (now : Instant) (store : Store) : Call → Answer × Store
  | .login draw credentials => (engine.login now draw credentials store).map .granted id
  | .generateTokenPair draw userData =>
      (engine.generateTokenPair now draw userData store).map .paired id
  | .generateAccessToken draw userData =>
      (.issued (engine.generateAccessToken now userData draw), store)
  | .validate request => (.validated (engine.validate now request), store)
  | .parseToken token => (.verified (engine.parseToken now token), store)
  | .checkRefreshable request => (.verified (engine.checkRefreshable now request), store)
  | .refresh draw request => (engine.refresh now draw request store).map .granted id
  | .refreshTokenPair draw token => (engine.refreshTokenPair now draw token store).map .paired id
  | .logout request => (engine.logout request store).map .loggedOut id
  | .revoke token => (revoke token store).map .revoked id
  | .get token => (store.get now token).map .read id
  | .count => (store.count now).map .counted id
  | .cleanup => (store.cleanup now).map .counted id
  | .setClock _ => (.clockSet, store)

end SessionEngine

namespace Call

def isRotation : Call → Bool
  | .refresh .. | .refreshTokenPair .. => true
  | _ => false

def isEnding : Call → Bool
  | .logout _ | .revoke _ => true
  | _ => false

/-- The refresh token that a call presents, whatever becomes of the call. -/
def presented? (engine : SessionEngine) : Call → Option String
  | .refresh _ request | .logout request => (engine.refreshToken request).toOption
  | .refreshTokenPair _ token | .revoke token => some token
  | _ => none

/-- The refresh token that a call asks the store for, after the gate of an access token. -/
def traded? (engine : SessionEngine) (now : Instant) : Call → Option String
  | .refresh _ request => (engine.admitRefresh now request).toOption
  | .refreshTokenPair _ token => if token = "" then none else some token
  | _ => none

def opened? (engine : SessionEngine) : Call → Option Json
  | .login _ credentials => (engine.authenticate credentials).toOption
  | .generateTokenPair _ userData => some userData
  | _ => none

def moveClock (clock : Clock) : Call → Clock
  | .setClock now => ⟨now⟩
  | _ => clock

end Call

structure Event where
  now : Instant
  call : Call
  answer : Answer

namespace Event

def Mints (event : Event) (token : String) : Prop :=
  event.answer.pair?.map TokenPair.refreshToken = some token

instance (event : Event) (token : String) : Decidable (event.Mints token) :=
  inferInstanceAs (Decidable (_ = _))

def Presents (engine : SessionEngine) (event : Event) (token : String) : Prop :=
  event.call.presented? engine = some token

instance (engine : SessionEngine) (event : Event) (token : String) :
    Decidable (event.Presents engine token) :=
  inferInstanceAs (Decidable (_ = _))

/-- Whether a refresh token was traded for a new pair. -/
def Redeems (engine : SessionEngine) (event : Event) (token : String) : Prop :=
  event.call.isRotation = true ∧ event.Presents engine token ∧ event.answer.pair?.isSome = true

instance (engine : SessionEngine) (event : Event) (token : String) :
    Decidable (event.Redeems engine token) :=
  inferInstanceAs (Decidable (_ ∧ _ ∧ _))

/-- Whether a refresh token was redeemed, or its session ended by a logout or a revocation. -/
def Retires (engine : SessionEngine) (event : Event) (token : String) : Prop :=
  event.Redeems engine token ∨ event.call.isEnding = true ∧ event.Presents engine token

/-- Whether a trade of a refresh token got past the gate of an access token. -/
def Attempts (engine : SessionEngine) (event : Event) (token : String) : Prop :=
  event.call.traded? engine event.now = some token

/-- Whether a refresh token that an event hands out was never handed out or presented before. -/
def FreshAfter (engine : SessionEngine) (event : Event) (earlier : List Event) : Prop :=
  ∀ pair ∈ event.answer.pair?, ¬ event.Presents engine pair.refreshToken ∧
    ∀ past ∈ earlier,
      ¬ past.Mints pair.refreshToken ∧ ¬ past.Presents engine pair.refreshToken

instance (engine : SessionEngine) (event : Event) (earlier : List Event) :
    Decidable (event.FreshAfter engine earlier) :=
  inferInstanceAs (Decidable (∀ pair ∈ event.answer.pair?, _))

end Event

/-- Whether a law holds of every event of a history and the events before it. -/
def Throughout (law : Event → List Event → Prop) : List Event → Prop
  | [] => True
  | event :: earlier => law event earlier ∧ Throughout law earlier

instance Throughout.decidable {law : Event → List Event → Prop}
    [∀ event earlier, Decidable (law event earlier)] :
    ∀ history, Decidable (Throughout law history)
  | [] => inferInstanceAs (Decidable True)
  | event :: earlier =>
      have := @decidable law _ earlier
      inferInstanceAs (Decidable (law event earlier ∧ Throughout law earlier))

/-- An engine at work: its clock, its store, and all events so far, the latest first. -/
structure EngineRun where
  clock : Clock
  store : Store := {}
  history : List Event := []

namespace EngineRun

def perform (engine : SessionEngine) (run : EngineRun) (call : Call) : EngineRun :=
  let (answer, store) := engine.perform run.clock.now run.store call
  { clock := call.moveClock run.clock
    store
    history := ⟨run.clock.now, call, answer⟩ :: run.history }

end EngineRun

/-- The run of an engine from an empty store in memory, over calls in their order. -/
def SessionEngine.run (engine : SessionEngine) (start : Instant) (calls : List Call) : EngineRun :=
  calls.foldl (EngineRun.perform engine) { clock := ⟨start⟩ }

/-! ## Sessions -/

/-- A session as it was opened: for whom, at which instant, and with which pair. -/
structure OpenedSession where
  userData : Json
  start : Instant
  first : TokenPair

/-- The session to which the pair that an event hands out belongs. -/
def Event.session? (engine : SessionEngine) (owner : String → Option OpenedSession)
    (event : Event) : Option OpenedSession :=
  event.answer.pair?.bind fun pair =>
    match event.call.opened? engine with
    | some userData => some ⟨userData, event.now, pair⟩
    | none => (event.call.traded? engine event.now).bind owner

def SessionEngine.sessionOf? (engine : SessionEngine) :
    List Event → String → Option OpenedSession
  | [], _ => none
  | event :: earlier, token =>
      if event.Mints token then event.session? engine (engine.sessionOf? earlier)
      else engine.sessionOf? earlier token

end SessionTokens
