import SessionTokens.Proofs.Session.Runs
import SessionTokens.Session.Interleaving

/-!
# Steps of calls at the same time

The steps of a call, taken at one instant and with no other call between them,
do what the call does.  Each step does one of four things to the tokens: it takes
one out of the store, draws one, puts the drawn one into the store, or does none
of this.
-/

namespace SessionTokens

namespace SessionEngine

variable {engine : SessionEngine} {now : Instant} {task : Task} {store : Store}

/-! ## A call alone -/

theorem stepAlone_of_answered {answer : Answer} (count : Nat) (done : task.stage = .answered answer)
    (store : Store) : engine.stepAlone now count task store = (task, store) := by
  induction count with
  | zero => rfl
  | succ count ih => simpa [stepAlone, step, done] using ih

def Answers (engine : SessionEngine) (now : Instant) (count : Nat) (task : Task) (store : Store)
    (answer : Answer) (after : Store) : Prop :=
  (engine.stepAlone now count task store).1.stage = .answered answer ∧
    (engine.stepAlone now count task store).2 = after

theorem answers_of_answered {answer : Answer} (count : Nat) (done : task.stage = .answered answer)
    (store : Store) : engine.Answers now count task store answer store := by
  rw [Answers, stepAlone_of_answered count done]
  exact ⟨done, rfl⟩

theorem answers_of_step {count : Nat} {answer : Answer} {after : Store}
    (rest : engine.Answers now count (engine.step now task store).1 (engine.step now task store).2
      answer after) : engine.Answers now (count + 1) task store answer after := rest

theorem answers_of_storing {pending : PendingPair} (count : Nat)
    (stage : task.stage = .storing pending) (store : Store) :
    engine.Answers now (count + 1) task store
      (task.call.settle engine (pending.deposit now store).1) (pending.deposit now store).2 := by
  apply answers_of_step
  simp only [step, stage]
  exact answers_of_answered _ rfl _

theorem answers_of_signing {userData : Json} {origin : Option Int} (count : Nat)
    (stage : task.stage = .signing userData origin) (store : Store) :
    engine.Answers now (count + 2) task store
      (task.call.settle engine (engine.issuePair now task.call.draw userData origin store).1)
      (engine.issuePair now task.call.draw userData origin store).2 := by
  apply answers_of_step
  simp only [step, stage, issuePair]
  cases engine.preparePair now task.call.draw userData origin with
  | error error => exact answers_of_answered _ rfl _
  | ok pending => exact answers_of_storing count rfl store

theorem answers_of_taking {token : String} (count : Nat) (stage : task.stage = .taking token)
    (store : Store) :
    engine.Answers now (count + 4) task store
      (task.call.settle engine (engine.rotate now task.call.draw token store).1)
      (engine.rotate now task.call.draw token store).2 := by
  apply answers_of_step
  simp only [step, stage, rotate]
  obtain ⟨outcome, taken⟩ := takeRecord now token store
  cases outcome with
  | error error => exact answers_of_answered _ rfl _
  | ok record =>
      apply answers_of_step
      simp only [step, renew]
      cases SessionRecord.read? record.userData with
      | none => exact answers_of_answered _ rfl _
      | some session =>
          dsimp only
          cases engine.checkWindow now session.origin with
          | error error => exact answers_of_answered _ rfl _
          | ok =>
              let signing : Task :=
                { task with
                  asked := true
                  taken := some token
                  stage := .signing session.userData (some session.origin) }
              have signed := @answers_of_signing engine now signing _ _ count rfl taken
              simpa only [issuePair, bind, Except.bind] using signed

theorem answers_of_deleting {token : String} (count : Nat) (stage : task.stage = .deleting token)
    (store : Store) :
    engine.Answers now (count + 1) task store
      (task.call.close engine ((store.delete token).1.mapError .ofStore))
      (store.delete token).2 := by
  apply answers_of_step
  simp only [step, stage]
  exact answers_of_answered _ rfl _

/-- The steps of a call, taken alone, give its answer and leave the store that it leaves. -/
theorem answers_perform (engine : SessionEngine) (now : Instant) (call : Call) (store : Store) :
    engine.Answers now 5 { call } store (engine.perform now store call).1
      (engine.perform now store call).2 := by
  apply answers_of_step
  cases call with
  | login draw credentials =>
      simp only [step, enter, perform, login]
      cases engine.authenticate credentials with
      | error error => exact answers_of_answered _ rfl _
      | ok userData => exact answers_of_signing 2 rfl store
  | generateTokenPair draw userData => exact answers_of_signing 2 rfl store
  | refresh draw request =>
      simp only [step, enter, perform, refresh]
      cases engine.admitRefresh now request with
      | error error => exact answers_of_answered _ rfl _
      | ok token => exact answers_of_taking 0 rfl store
  | refreshTokenPair draw token =>
      simp only [step, enter, perform, refreshTokenPair]
      by_cases empty : token = ""
      · simp only [if_pos empty]
        exact answers_of_answered _ rfl _
      · simp only [if_neg empty]
        exact answers_of_taking 0 rfl store
  | logout request =>
      simp only [step, enter, perform, logout]
      cases engine.refreshToken request with
      | error error => exact answers_of_answered _ rfl _
      | ok token =>
          simp only [revoke]
          by_cases empty : token = ""
          · simp only [if_pos empty]
            exact answers_of_answered _ rfl _
          · simp only [if_neg empty]
            exact answers_of_deleting 3 rfl store
  | revoke token =>
      simp only [step, enter, perform, revoke]
      by_cases empty : token = ""
      · simp only [if_pos empty]
        exact answers_of_answered _ rfl _
      · simp only [if_neg empty]
        exact answers_of_deleting 3 rfl store
  | _ => exact answers_of_answered _ rfl _

end SessionEngine

/-! ## One step -/

namespace Task

/-- Whether a call has not asked the store for a record. -/
def Untouched (task : Task) : Prop := task.asked = false ∧ task.taken = none

/-- Whether a call obtained the record of the token that it presents. -/
def Holding (engine : SessionEngine) (task : Task) : Prop :=
  ∃ token, task.asked = true ∧ task.taken = some token ∧ task.Rotates engine token

def Sound (engine : SessionEngine) (task : Task) : Prop :=
  match task.stage with
  | .entered | .deleting _ => task.Untouched
  | .taking token => task.Untouched ∧ task.Rotates engine token
  | .checking _ => task.Holding engine
  | .signing .. | .storing _ =>
      task.Holding engine ∨ task.Untouched ∧ task.call.isRotation = false
  | .answered answer =>
      task.Holding engine ∨
        task.Untouched ∧ (task.call.isRotation = true → answer.pair? = none) ∨
        (task.asked = true ∧ task.taken = none) ∧ answer.pair? = none ∧
          answer.refusal? = some .refreshTokenNotFound

theorem taken_of_held? {task : Task} {token : String} (held : task.held? = some token) :
    task.taken = some token := by
  rw [held?] at held
  split at held <;> first | exact held | cases held

end Task

namespace Task.Sound

variable {engine : SessionEngine} {task : Task}

theorem holding (sound : task.Sound engine) (obtained : task.taken.isSome = true) :
    task.Holding engine := by
  have touched : ¬ task.Untouched := fun untouched => by simp [untouched.2] at obtained
  rw [Sound] at sound
  split at sound
  · exact absurd sound touched
  · exact absurd sound touched
  · exact absurd sound.1 touched
  · exact sound
  · exact sound.resolve_right fun untouched => touched untouched.1
  · exact sound.resolve_right fun untouched => touched untouched.1
  · rcases sound with holding | ⟨untouched, -⟩ | ⟨⟨-, untaken⟩, -⟩
    · exact holding
    · exact absurd untouched touched
    · simp [untaken] at obtained

theorem holding_of_pair? (sound : task.Sound engine) (rotates : task.call.isRotation = true)
    (paired : (task.answer?.bind Answer.pair?).isSome = true) : task.Holding engine := by
  obtain ⟨call, stage, asked, taken⟩ := task
  cases stage with
  | answered answer =>
      have returned : answer.pair?.isSome = true := paired
      rcases sound with holding | ⟨-, unpaired⟩ | ⟨-, unpaired, -⟩
      · exact holding
      · simp [unpaired rotates] at returned
      · simp [unpaired] at returned
  | _ => cases paired

theorem refusal (sound : task.Sound engine) (asked : task.asked = true)
    (untaken : task.taken = none) :
    task.answer?.bind Answer.refusal? = some .refreshTokenNotFound := by
  have touched : ¬ task.Untouched := fun untouched => by simp [untouched.1] at asked
  have empty : ¬ task.Holding engine := by
    rintro ⟨token, -, taken, -⟩
    cases untaken.symm.trans taken
  obtain ⟨call, stage, asked, taken⟩ := task
  cases stage with
  | answered answer =>
      rcases sound with holding | ⟨untouched, -⟩ | ⟨-, -, refusal⟩
      · exact absurd holding empty
      · exact absurd untouched touched
      · exact refusal
  | entered => exact absurd sound touched
  | deleting => exact absurd sound touched
  | taking => exact absurd sound.1 touched
  | checking => exact absurd sound empty
  | signing => exact absurd (sound.resolve_left empty).1 touched
  | storing => exact absurd (sound.resolve_left empty).1 touched

end Task.Sound

theorem Task.held?_of_untaken {task : Task} (untaken : task.taken = none) : task.held? = none := by
  cases held : task.held? with
  | none => rfl
  | some token => cases (taken_of_held? held).symm.trans untaken

/-- What a step of a call does to the tokens of a store. -/
inductive Advance (task : Task) (before : MemoryStore) (next : Task) : MemoryStore → Prop where
  | quiet {after : MemoryStore} (drawn : task.drawn? = none) (nextDrawn : next.drawn? = none)
      (taken : next.taken = task.taken) (held : next.held? = task.held? ∨ next.held? = none)
      (fewer : after.tokens.Sublist before.tokens) : Advance task before next after
  | took {token : String} (drawn : task.drawn? = none) (nextDrawn : next.drawn? = none)
      (untaken : task.taken = none) (taken : next.taken = some token)
      (held : next.held? = some token) (found : token ∈ before.tokens) :
      Advance task before next (before.delete token)
  | drew {token : String} (drawn : task.drawn? = none) (nextDrawn : next.drawn? = some token)
      (taken : next.taken = task.taken) (held : next.held? = task.held?) :
      Advance task before next before
  | stored {now : Instant} {token : String} {userData : Json} {expiry : Instant}
      (drawn : task.drawn? = some token) (nextDrawn : next.drawn? = none)
      (taken : next.taken = task.taken) (held : task.held? = task.taken)
      (nextHeld : next.held? = none) :
      Advance task before next (before.set now token userData expiry)

namespace Call

variable (engine : SessionEngine) (call : Call)

@[simp] theorem pair?_settle_error (error : SessionError) :
    (call.settle engine (.error error)).pair? = none := by
  cases call <;> rfl

@[simp] theorem refusal?_settle_error (error : SessionError) :
    (call.settle engine (.error error)).refusal? = some error := by
  cases call <;> rfl

@[simp] theorem pair?_close (outcome : Except SessionError Unit) :
    (call.close engine outcome).pair? = none := by
  cases call <;> rfl

end Call

/-- What every step of a call keeps. -/
structure SoundStep (engine : SessionEngine) (task : Task) (before : Store)
    (result : Task × Store) : Prop where
  advance : Advance task before.memory result.1 result.2.memory
  whole : result.2.faults = []
  sound : result.1.Sound engine

variable {engine : SessionEngine} {store : Store}

/-! ## The first step -/

inductive Entry (engine : SessionEngine) (call : Call) (before : Store) :
    Stage × Store → Prop where
  | answered {answer : Answer} {after : Store} (unpaired : answer.pair? = none)
      (whole : after.faults = []) (fewer : after.memory.tokens.Sublist before.memory.tokens) :
      Entry engine call before (.answered answer, after)
  | signing (opens : call.isRotation = false) (userData : Json) (origin : Option Int) :
      Entry engine call before (.signing userData origin, before)
  | taking {token : String} (rotates : call.isRotation = true)
      (presents : call.presented? engine = some token) :
      Entry engine call before (.taking token, before)
  | deleting (token : String) : Entry engine call before (.deleting token, before)

namespace Entry

variable (whole : store.faults = []) (now : Instant)

include whole

/-- A call that is answered at once, over a store that it leaves alone. -/
theorem still {call : Call} {answer : Answer} (unpaired : answer.pair? = none) :
    Entry engine call store (.answered answer, store) :=
  .answered unpaired whole (.refl _)

theorem login (draw : Bytes) (credentials : Json) :
    Entry engine (.login draw credentials) store
      (engine.enter now store (.login draw credentials)) := by
  rw [SessionEngine.enter]
  cases engine.authenticate credentials with
  | error error => exact still whole rfl
  | ok userData => exact .signing rfl userData none

theorem refresh (draw : Bytes) (request : Request) :
    Entry engine (.refresh draw request) store
      (engine.enter now store (.refresh draw request)) := by
  rw [SessionEngine.enter]
  cases admitted : engine.admitRefresh now request with
  | error error => exact still whole rfl
  | ok token =>
      have trades : (Call.refresh draw request).traded? engine now = some token := by
        simp [Call.traded?, admitted]
      obtain ⟨rotates, presents, -⟩ := Call.presented?_of_traded? trades
      exact .taking rotates presents

theorem refreshTokenPair (draw : Bytes) (token : String) :
    Entry engine (.refreshTokenPair draw token) store
      (engine.enter now store (.refreshTokenPair draw token)) := by
  rw [SessionEngine.enter]
  split
  · exact still whole rfl
  · exact .taking rfl rfl

theorem logout (request : Request) :
    Entry engine (.logout request) store (engine.enter now store (.logout request)) := by
  rw [SessionEngine.enter]
  cases engine.refreshToken request with
  | error error => exact still whole rfl
  | ok token =>
      dsimp only
      split
      · exact still whole rfl
      · exact .deleting token

theorem revoke (token : String) :
    Entry engine (.revoke token) store (engine.enter now store (.revoke token)) := by
  rw [SessionEngine.enter]
  split
  · exact still whole rfl
  · exact .deleting token

theorem cleanup : Entry engine .cleanup store (engine.enter now store .cleanup) := by
  simp only [SessionEngine.enter, SessionEngine.perform, Store.cleanup_of_faults whole, Prod.map]
  exact .answered rfl whole (.map _ List.filter_sublist)

end Entry

namespace SessionEngine

theorem entry_enter (whole : store.faults = []) (now : Instant) (call : Call) :
    Entry engine call store (engine.enter now store call) := by
  cases call with
  | login draw credentials => exact .login whole now draw credentials
  | generateTokenPair draw userData => exact .signing rfl userData none
  | refresh draw request => exact .refresh whole now draw request
  | refreshTokenPair draw token => exact .refreshTokenPair whole now draw token
  | logout request => exact .logout whole now request
  | revoke token => exact .revoke whole now token
  | get token =>
      simp only [enter, perform, Store.get_of_faults whole, Prod.map]
      exact .still whole rfl
  | count =>
      simp only [enter, perform, Store.count_of_faults whole, Prod.map]
      exact .still whole rfl
  | cleanup => exact .cleanup whole now
  | _ => exact .still whole rfl

/-- The first step asks the store for nothing, and finds out which token the call presents. -/
theorem enter_advance (whole : store.faults = []) (now : Instant) {task : Task}
    (entered : task.stage = .entered) (untouched : task.Untouched) :
    SoundStep engine task store
      ({ task with stage := (engine.enter now store task.call).1 },
        (engine.enter now store task.call).2) := by
  have quiet {stage : Stage} {after : MemoryStore}
      (undrawn : Task.drawn? { task with stage } = none)
      (fewer : after.tokens.Sublist store.memory.tokens) :
      Advance task store.memory { task with stage } after := by
    refine .quiet ?_ undrawn rfl (.inr ?_) fewer
    · rw [Task.drawn?, entered]
    · exact Task.held?_of_untaken untouched.2
  have entry := @entry_enter engine store whole now task.call
  generalize engine.enter now store task.call = result at entry ⊢
  cases entry with
  | answered unpaired whole fewer =>
      exact ⟨quiet rfl fewer, whole, .inr (.inl ⟨untouched, fun _ => unpaired⟩)⟩
  | signing opens userData origin =>
      exact ⟨quiet rfl (.refl _), whole, .inr ⟨untouched, opens⟩⟩
  | taking rotates presents => exact ⟨quiet rfl (.refl _), whole, untouched, rotates, presents⟩
  | deleting token => exact ⟨quiet rfl (.refl _), whole, untouched⟩

end SessionEngine

/-! ## Later steps -/

namespace SoundStep

variable {call : Call} {asked : Bool} {taken : Option String}

/-- Taking a record finds none, or takes it out; one that is over is not handed out. -/
theorem taking (whole : store.faults = []) (now : Instant) {token : String}
    (sound : Task.Sound engine ⟨call, .taking token, asked, taken⟩) :
    SoundStep engine ⟨call, .taking token, asked, taken⟩ store
      (engine.step now ⟨call, .taking token, asked, taken⟩ store) := by
  obtain ⟨untouched, rotates⟩ := sound
  have refused : Task.Sound engine
      ⟨call, .answered (call.settle engine (.error .refreshTokenNotFound)), true, taken⟩ :=
    .inr (.inr ⟨⟨rfl, untouched.2⟩, call.pair?_settle_error engine _,
      call.refusal?_settle_error engine _⟩)
  simp only [SessionEngine.step, SessionEngine.takeRecord_of_faults whole, MemoryStore.take]
  cases found : store.memory.record? token with
  | none => exact ⟨.quiet rfl rfl rfl (.inr rfl) (.refl _), whole, refused⟩
  | some record =>
      by_cases expired : record.isExpiredAt now = true
      · simp only [expired, if_true, mapError_error]
        have fewer := store.memory.tokens_delete_sublist token
        exact ⟨.quiet rfl rfl rfl (.inr rfl) fewer, whole, refused⟩
      · simp only [expired, Bool.false_eq_true, if_false, mapError_ok]
        have inside := MemoryStore.mem_tokens_of_record? found
        exact ⟨.took rfl rfl untouched.2 rfl rfl inside, whole, token, rfl, rfl, rotates⟩

theorem checking (whole : store.faults = []) (now : Instant) {record : RefreshRecord}
    (sound : Task.Sound engine ⟨call, .checking record, asked, taken⟩) :
    SoundStep engine ⟨call, .checking record, asked, taken⟩ store
      (engine.step now ⟨call, .checking record, asked, taken⟩ store) := by
  have answered (error : SessionError) :
      Task.Sound engine ⟨call, .answered (call.settle engine (.error error)), asked, taken⟩ :=
    .inl sound
  simp only [SessionEngine.step]
  cases SessionRecord.read? record.userData with
  | none => exact ⟨.quiet rfl rfl rfl (.inr rfl) (.refl _), whole, answered _⟩
  | some session =>
      dsimp only
      cases engine.checkWindow now session.origin with
      | error error => exact ⟨.quiet rfl rfl rfl (.inr rfl) (.refl _), whole, answered _⟩
      | ok => exact ⟨.quiet rfl rfl rfl (.inl rfl) (.refl _), whole, .inl sound⟩

theorem signing (whole : store.faults = []) (now : Instant) {userData : Json}
    {origin : Option Int}
    (sound : Task.Sound engine ⟨call, .signing userData origin, asked, taken⟩) :
    SoundStep engine ⟨call, .signing userData origin, asked, taken⟩ store
      (engine.step now ⟨call, .signing userData origin, asked, taken⟩ store) := by
  simp only [SessionEngine.step]
  cases engine.preparePair now call.draw userData origin with
  | error error =>
      refine ⟨.quiet rfl rfl rfl (.inr rfl) (.refl _), whole, ?_⟩
      rcases sound with holding | ⟨untouched, opens⟩
      · exact .inl holding
      · exact .inr (.inl ⟨untouched, fun _ => call.pair?_settle_error engine _⟩)
  | ok pending => exact ⟨.drew rfl rfl rfl rfl, whole, sound⟩

theorem storing (whole : store.faults = []) (now : Instant) {pending : PendingPair}
    (sound : Task.Sound engine ⟨call, .storing pending, asked, taken⟩) :
    SoundStep engine ⟨call, .storing pending, asked, taken⟩ store
      (engine.step now ⟨call, .storing pending, asked, taken⟩ store) := by
  simp only [SessionEngine.step, SessionEngine.deposit_of_faults whole]
  refine ⟨.stored rfl rfl rfl rfl rfl, whole, ?_⟩
  rcases sound with holding | ⟨untouched, opens⟩
  · exact .inl holding
  · refine .inr (.inl ⟨untouched, fun rotates => ?_⟩)
    rw [opens] at rotates
    cases rotates

theorem deleting (whole : store.faults = []) (now : Instant) {token : String}
    (sound : Task.Sound engine ⟨call, .deleting token, asked, taken⟩) :
    SoundStep engine ⟨call, .deleting token, asked, taken⟩ store
      (engine.step now ⟨call, .deleting token, asked, taken⟩ store) := by
  simp only [SessionEngine.step, Store.delete_of_faults whole]
  refine ⟨.quiet rfl rfl rfl (.inr rfl) ?_, whole, .inr (.inl ⟨sound, fun _ => ?_⟩)⟩
  · exact MemoryStore.tokens_delete_sublist _ _
  · exact call.pair?_close engine _

end SoundStep

/-- Every step of a call does one of the four things, and what is known of the call remains so. -/
theorem SessionEngine.step_advance (whole : store.faults = []) (now : Instant) {task : Task}
    (sound : task.Sound engine) :
    SoundStep engine task store (engine.step now task store) := by
  obtain ⟨call, stage, asked, taken⟩ := task
  cases stage with
  | entered => exact enter_advance whole now rfl sound
  | taking token => exact .taking whole now sound
  | checking record => exact .checking whole now sound
  | signing userData origin => exact .signing whole now sound
  | storing pending => exact .storing whole now sound
  | deleting token => exact .deleting whole now sound
  | answered answer => exact ⟨.quiet rfl rfl rfl (.inr rfl) (.refl _), whole, sound⟩

end SessionTokens
