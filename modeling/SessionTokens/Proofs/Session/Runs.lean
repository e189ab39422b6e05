import SessionTokens.Proofs.Lookup
import SessionTokens.Proofs.Outcome
import SessionTokens.Proofs.Request.Field
import SessionTokens.Proofs.Session.Effect

/-!
# Laws of whole runs

What the effects of calls preserve holds at the end of every run.  A law of
events that holds at each step holds throughout the history.
-/

namespace SessionTokens

/-- The store of a run is in order, and what every effect preserves holds of its records. -/
theorem SessionEngine.run_whole_and {motive : MemoryStore → List Event → Prop}
    (engine : SessionEngine) (empty : motive {} [])
    (step : ∀ before history event after, Effect engine before event after →
      motive before history → motive after (event :: history))
    (start : Instant) (calls : List Call) :
    (engine.run start calls).store.faults = [] ∧
      motive (engine.run start calls).store.memory (engine.run start calls).history := by
  have general : ∀ run : EngineRun, run.store.faults = [] →
      motive run.store.memory run.history →
        (calls.foldl (EngineRun.perform engine) run).store.faults = [] ∧
          motive (calls.foldl (EngineRun.perform engine) run).store.memory
            (calls.foldl (EngineRun.perform engine) run).history := by
    induction calls with
    | nil => exact fun _ whole held => ⟨whole, held⟩
    | cons call rest ih =>
        intro run whole held
        obtain ⟨effect, stays⟩ := engine.perform_effect whole run.clock.now call
        exact ih (run.perform engine call) stays (step _ _ _ _ effect held)
  exact general _ rfl empty

/-- A statement about records and history that every effect preserves holds after every run. -/
theorem SessionEngine.run_induction {motive : MemoryStore → List Event → Prop}
    (engine : SessionEngine) (empty : motive {} [])
    (step : ∀ before history event after, Effect engine before event after →
      motive before history → motive after (event :: history))
    (start : Instant) (calls : List Call) :
    motive (engine.run start calls).store.memory (engine.run start calls).history :=
  (engine.run_whole_and empty step start calls).2

theorem SessionEngine.run_whole (engine : SessionEngine) (start : Instant) (calls : List Call) :
    (engine.run start calls).store.faults = [] :=
  (engine.run_whole_and (motive := fun _ _ => True) trivial (fun _ _ _ _ _ _ => trivial)
    start calls).1

/-- A law holds throughout a history when it holds wherever the history is split at an event. -/
theorem throughout_iff {law : Event → List Event → Prop} {history : List Event} :
    Throughout law history ↔
      ∀ later event earlier, history = later ++ event :: earlier → law event earlier := by
  constructor
  · intro throughout later event earlier split
    induction later generalizing history with
    | nil =>
        subst split
        exact throughout.1
    | cons latest later ih =>
        subst split
        exact ih throughout.2 rfl
  · intro always
    induction history with
    | nil => trivial
    | cons event earlier ih =>
        refine ⟨always [] event earlier rfl, ih fun later past before split => ?_⟩
        exact always (event :: later) past before (by rw [split, List.cons_append])

/-- A law that follows from another for each event holds throughout with it. -/
theorem Throughout.mono {law other : Event → List Event → Prop} {history : List Event}
    (implies : ∀ event earlier, law event earlier → other event earlier)
    (throughout : Throughout law history) : Throughout other history := by
  rw [throughout_iff] at throughout ⊢
  intro later event earlier split
  exact implies event earlier (throughout later event earlier split)

/-! ## Tokens of calls -/

namespace Call

variable {engine : SessionEngine} {call : Call} {now : Instant} {token : String}

theorem refreshToken_of_admitRefresh {request : Request}
    (admitted : engine.admitRefresh now request = .ok token) :
    engine.refreshToken request = .ok token := by
  rw [SessionEngine.admitRefresh] at admitted
  obtain ⟨presented, extracted, gate⟩ := bind_eq_ok.mp admitted
  cases carried : engine.accessToken request with
  | error error =>
      simp only [carried, pure, Except.pure, Except.ok.injEq] at gate
      rw [extracted, gate]
  | ok accessToken =>
      simp only [carried] at gate
      obtain ⟨claims, -, passed⟩ := bind_eq_ok.mp gate
      cases passed
      exact extracted

theorem refreshToken_ne {request : Request}
    (presented : engine.refreshToken request = .ok token) : token ≠ "" := by
  rw [SessionEngine.refreshToken, mapError_eq_ok] at presented
  exact TokenLookup.extract_ne presented

/-- A call asks the store only for the token that it presents, and never for the empty one. -/
theorem presented?_of_traded? (trades : call.traded? engine now = some token) :
    call.isRotation = true ∧ call.presented? engine = some token ∧ token ≠ "" := by
  cases call with
  | refresh draw request =>
      have presented := refreshToken_of_admitRefresh (toOption_eq_some.mp trades)
      exact ⟨rfl, by simp [presented?, presented], refreshToken_ne presented⟩
  | refreshTokenPair draw other =>
      simp only [traded?] at trades
      split at trades
      · cases trades
      · next filled =>
          cases trades
          exact ⟨rfl, rfl, filled⟩
  | _ => cases trades

theorem isRotation_eq_false_of_opened? {userData : Json}
    (opens : call.opened? engine = some userData) : call.isRotation = false := by
  cases call <;> first | rfl | cases opens

theorem isRotation_eq_false_of_isEnding (ends : call.isEnding = true) :
    call.isRotation = false := by
  cases call <;> first | rfl | cases ends

end Call

/-! ## An engine for runs that can be evaluated -/

def sampleEngine : SessionEngine where
  config := {}
  keys := ⟨.hs256, .fixed (.secret [1, 2, 3]) (.secret [1, 2, 3])⟩
  callbacks := .standard {}

/-- The draw of 32 equal octets. -/
def sampleDraw (octet : UInt8) : Bytes := List.replicate 32 octet

def sampleRequest (refreshToken accessToken : Option String) : Request where
  method := "POST"
  target := ⟨"/refresh", none⟩
  fields := (accessToken.map fun token =>
    ("authorization", Utf8.ofString ("Bearer " ++ token))).toList
  form := (refreshToken.map fun token => ("refresh_token", token)).toList

/-- The access token of such a request is found by the standard settings. -/
theorem accessToken_sampleRequest {engine : SessionEngine} {token : String}
    (lookup : engine.config.tokenLookup = .standard) (named : engine.config.headName = "Bearer")
    (graphic : ∀ char ∈ token.toList, Text.isGraphic char = true) (filled : token ≠ "")
    (refreshToken : Option String) :
    engine.accessToken (sampleRequest refreshToken (some token)) = .ok token := by
  have headGraphic : ∀ char ∈ "Bearer".toList, Text.isGraphic char = true :=
    List.all_eq_true.mp (by decide)
  have headFilled : "Bearer" ≠ "" := by decide
  refine SessionEngine.accessToken_of_field lookup (named ▸ headGraphic) (named ▸ headFilled)
    graphic filled ?_
  rw [SessionEngine.authorizationValue, named]
  rfl

end SessionTokens
