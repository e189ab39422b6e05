import Mathlib.Data.List.Induction
import SessionTokens.Proofs.Session.FailedRotation
import SessionTokens.Proofs.Session.Matching
import SessionTokens.Proofs.Session.Ownership
import SessionTokens.Session.Isolation

/-!
# Sessions are isolated

Two runs go side by side: one with all events, and one without those that touch
a group of sessions.  Their stores hold the same records under all refresh
tokens outside the group, and that is all that the remaining calls ask for.  A
refresh token moves into the group only when it is handed out there, and because
it is fresh then, no store has a record of it before.
-/

namespace SessionTokens

/-! ## Records of some tokens -/

namespace MemoryStore

variable {now : Instant} {left right store : MemoryStore} {token : String}

/-- Whether two maps hold the same records under all tokens of a kind. -/
def AgreeOn (kind : String → Prop) (left right : MemoryStore) : Prop :=
  ∀ token, kind token → left.record? token = right.record? token

namespace AgreeOn

variable {kind : String → Prop}

theorem keptByChanges (now : Instant) (kind : String → Prop) :
    KeptByChanges now (AgreeOn kind) where
  set agree token userData expiry other inside := by
    ext record
    rw [record?_set, record?_set, agree other inside]
  delete agree token other inside := by
    ext record
    rw [record?_delete, record?_delete, agree other inside]

theorem mono {narrow : String → Prop} (agree : AgreeOn kind left right)
    (narrower : ∀ token, narrow token → kind token) : AgreeOn narrow left right :=
  fun token inside => agree token (narrower token inside)

theorem cleanup (agree : AgreeOn kind left right) (now : Instant) :
    AgreeOn kind (left.cleanup now).2 (right.cleanup now).2 := by
  intro token inside
  ext record
  rw [record?_cleanup, record?_cleanup, agree token inside]

end AgreeOn

/-! ## One record -/

theorem take_congr (same : left.record? token = right.record? token) (now : Instant) :
    (left.take now token).1 = (right.take now token).1 := by
  rw [take, take, same]
  cases right.record? token <;> rfl

theorem get_congr (same : left.record? token = right.record? token) (now : Instant) :
    left.get now token = right.get now token := by
  rw [get, get, same]

theorem take_of_absent (absent : store.record? token = none) (now : Instant) :
    (store.take now token).1 = .error .notFound := by
  rw [take, absent]

theorem get_of_absent (absent : store.record? token = none) (now : Instant) :
    store.get now token = .error .notFound := by
  rw [get, absent]

end MemoryStore

namespace Answer

theorem refusal?_paired {outcome : Except SessionError TokenPair} {error : SessionError} :
    (Answer.paired outcome).refusal? = some error ↔ outcome = .error error := by
  cases outcome <;> simp [refusal?]

theorem refusal?_granted {outcome : Except SessionError TokenPair} {error : SessionError}
    {grant : TokenPair → SessionGrant} :
    (Answer.granted (outcome.map grant)).refusal? = some error ↔ outcome = .error error := by
  cases outcome <;> simp [refusal?, Except.map]

end Answer

namespace SessionEngine

variable {engine : SessionEngine} {now : Instant} {store : Store} {token : String} {call : Call}

/-- A rotation that finds no token took no record. -/
theorem take_of_rotate {draw : Bytes} (whole : store.faults = [])
    (refused : (engine.rotate now draw token store).1 = .error .refreshTokenNotFound) :
    (store.memory.take now token).1 = .error .notFound := by
  have rotation := @rotate_rotation engine store whole now draw token
  generalize engine.rotate now draw token store = result at rotation refused
  cases rotation with
  | absent missing => exact MemoryStore.take_of_absent missing now
  | outdated found expired => simp only [MemoryStore.take, found, if_pos expired]
  | failed found live failed =>
      cases refused
      rcases renew_error failed with same | failure
      · cases same
      · cases failure
  | rotated found live renewed => cases refused

/-- A call that trades a token is refused as its rotation is. -/
theorem exists_rotate_of_refusal? (trades : call.traded? engine now = some token)
    {error : SessionError} (refused : (engine.perform now store call).1.refusal? = some error) :
    ∃ draw, (engine.rotate now draw token store).1 = .error error := by
  cases call with
  | refresh draw request =>
      have admitted := toOption_eq_some.mp trades
      simp only [perform, refresh, admitted, Prod.map] at refused
      exact ⟨draw, Answer.refusal?_granted.mp refused⟩
  | refreshTokenPair draw other =>
      rw [Call.traded?] at trades
      split at trades
      · cases trades
      · next filled =>
          cases trades
          simp only [perform, refreshTokenPair, if_neg filled, Prod.map] at refused
          exact ⟨draw, Answer.refusal?_paired.mp refused⟩
  | _ => cases trades

theorem run_append (engine : SessionEngine) (start : Instant) (calls : List Call) (call : Call) :
    engine.run start (calls ++ [call]) = (engine.run start calls).perform engine call := by
  rw [run, List.foldl_append]
  rfl

/-- A token that was never handed out belongs to no session. -/
theorem sessionOf?_of_silent {history : List Event}
    (silent : ∀ past ∈ history, ¬ past.Mints token) :
    engine.sessionOf? history token = none := by
  have nothing := @sessionOf?_append engine history [] token silent
  rwa [List.append_nil] at nothing

end SessionEngine

/-! ## Events that touch a group -/

namespace Call

variable {engine : SessionEngine} {call : Call} {now : Instant} {token : String}

theorem addressed?_of_presented? (presents : call.presented? engine = some token) :
    call.addressed? engine = some token := by
  cases call with
  | get other => cases presents
  | _ => exact presents

theorem addressed?_of_traded? (trades : call.traded? engine now = some token) :
    call.addressed? engine = some token :=
  addressed?_of_presented? (presented?_of_traded? trades).2.1

theorem addressed?_of_opened? {userData : Json} (opens : call.opened? engine = some userData) :
    call.addressed? engine = none := by
  cases call <;> first | rfl | cases opens

theorem opened?_of_traded? (trades : call.traded? engine now = some token) :
    call.opened? engine = none := by
  cases opens : call.opened? engine with
  | none => rfl
  | some userData => cases (traded?_eq_none_of_opened? opens now).symm.trans trades

end Call

namespace Event

variable {engine : SessionEngine} {group : OpenedSession → Bool} {event : Event}
  {history : List Event} {token : String} {session : OpenedSession}

theorem touches_iff : event.touches engine group history = true ↔
    (∃ userData session, event.call.opened? engine = some userData ∧
        event.session? engine (engine.sessionOf? history) = some session ∧ group session = true) ∨
      ∃ token session, event.call.addressed? engine = some token ∧
        engine.sessionOf? history token = some session ∧ group session = true := by
  simp only [touches, Bool.or_eq_true, Bool.and_eq_true, Option.isSome_iff_exists,
    Option.any_eq_true]
  constructor
  · rintro (⟨⟨userData, opens⟩, session, belongs, inside⟩ |
      ⟨token, addressed, session, owner, inside⟩)
    · exact .inl ⟨userData, session, opens, belongs, inside⟩
    · exact .inr ⟨token, session, addressed, owner, inside⟩
  · rintro (⟨userData, session, opens, belongs, inside⟩ |
      ⟨token, session, addressed, owner, inside⟩)
    · exact .inl ⟨⟨userData, opens⟩, session, belongs, inside⟩
    · exact .inr ⟨token, addressed, session, owner, inside⟩

theorem session?_of_traded? {pair : TokenPair} {owner : String → Option OpenedSession}
    (trades : event.call.traded? engine event.now = some token)
    (answer : event.answer.pair? = some pair) : event.session? engine owner = owner token := by
  rw [session?, answer, Option.bind_some, Call.opened?_of_traded? trades, trades]
  rfl

/-- An event that hands out a pair of the group touches the group. -/
theorem touches_of_session?
    (belongs : event.session? engine (engine.sessionOf? history) = some session)
    (inside : group session = true) : event.touches engine group history = true := by
  rw [touches_iff]
  obtain ⟨pair, answer, held⟩ := Option.bind_eq_some_iff.mp belongs
  cases opens : event.call.opened? engine with
  | some userData => exact .inl ⟨userData, session, rfl, belongs, inside⟩
  | none =>
      rw [opens] at held
      obtain ⟨token, trades, owner⟩ := Option.bind_eq_some_iff.mp held
      exact .inr ⟨token, session, Call.addressed?_of_traded? trades, owner, inside⟩

/-- A fresh token is none that belongs to a session. -/
theorem MintsFresh.not_mints (fresh : event.MintsFresh history)
    (owner : engine.sessionOf? history token = some session) : ¬ event.Mints token := by
  intro mints
  obtain ⟨pair, answer, rfl⟩ := Option.map_eq_some_iff.mp mints
  rw [SessionEngine.sessionOf?_of_silent (fresh pair answer)] at owner
  cases owner

end Event

/-- Whether a refresh token belongs to no session of a group. -/
def Outside (engine : SessionEngine) (group : OpenedSession → Bool) (history : List Event)
    (token : String) : Prop :=
  ∀ session, engine.sessionOf? history token = some session → group session = false

namespace Outside

variable {engine : SessionEngine} {group : OpenedSession → Bool} {event : Event}
  {history : List Event} {token : String} {session : OpenedSession}

theorem ne (outside : Outside engine group history token) {other : String}
    (owner : engine.sessionOf? history other = some session) (inside : group session = true) :
    token ≠ other := by
  rintro rfl
  rw [outside session owner] at inside
  cases inside

/-- Tokens only move into a group, as long as all that are handed out are fresh. -/
theorem of_cons (fresh : event.MintsFresh history)
    (outside : Outside engine group (event :: history) token) :
    Outside engine group history token := by
  intro session owner
  apply outside
  rw [SessionEngine.sessionOf?, if_neg (fresh.not_mints owner)]
  exact owner

/-- A token of another session stays outside of a group. -/
theorem cons (owner : engine.sessionOf? history token = some session)
    (other : group session = false) (fresh : event.MintsFresh history) :
    Outside engine group (event :: history) token := by
  intro found same
  rw [SessionEngine.sessionOf?, if_neg (fresh.not_mints owner), owner] at same
  cases same
  exact other

theorem ne_of_pair? {pair : TokenPair} (outside : Outside engine group (event :: history) token)
    (answer : event.answer.pair? = some pair)
    (belongs : event.session? engine (engine.sessionOf? history) = some session)
    (inside : group session = true) : token ≠ pair.refreshToken :=
  outside.ne ((sessionOf?_of_pair? answer _).trans ((if_pos rfl).trans belongs)) inside

end Outside

/-! ## The records of a group -/

section Step

variable {engine : SessionEngine} {group : OpenedSession → Bool} {event : Event}
  {history : List Event} {before after : MemoryStore} {token : String}

/-- What an event hands out that touches a group belongs to the group. -/
theorem Effect.exists_session_of_touches (effect : Effect engine before event after)
    (touches : event.touches engine group history = true) {pair : TokenPair}
    (answer : event.answer.pair? = some pair) :
    ∃ session, event.session? engine (engine.sessionOf? history) = some session ∧
      group session = true := by
  rcases Event.touches_iff.mp touches with
    ⟨userData, session, opens, belongs, inside⟩ | ⟨owned, session, addresses, owner, inside⟩
  · exact ⟨session, belongs, inside⟩
  · cases effect with
    | opened opens prepared handed =>
        cases addresses.symm.trans (Call.addressed?_of_opened? opens)
    | rotated trades found renewed handed =>
        cases addresses.symm.trans (Call.addressed?_of_traded? trades)
        exact ⟨session, (Event.session?_of_traded? trades answer).trans owner, inside⟩
    | lost trades found none => cases answer.symm.trans none
    | refused trades absent none refusal => cases answer.symm.trans none
    | ended ends presents none => cases answer.symm.trans none
    | purged purges none => cases answer.symm.trans none
    | kept trades none ends => cases answer.symm.trans none

/-- An event that touches a group changes no record outside of it. -/
theorem Effect.record?_of_touches (effect : Effect engine before event after)
    (fresh : event.MintsFresh history) (touches : event.touches engine group history = true)
    (outside : Outside engine group (event :: history) token) :
    after.record? token = before.record? token := by
  have earlier : Outside engine group history token := outside.of_cons fresh
  -- A token that such an event addresses is one of the group.
  have addressed {other : String} (addresses : event.call.addressed? engine = some other) :
      token ≠ other := by
    rcases Event.touches_iff.mp touches with
      ⟨userData, session, opens, -⟩ | ⟨owned, session, addresses', owner, inside⟩
    · cases addresses.symm.trans (Call.addressed?_of_opened? opens)
    · cases addresses.symm.trans addresses'
      exact earlier.ne owner inside
  have handed {pair : TokenPair} (answer : event.answer.pair? = some pair) :
      token ≠ pair.refreshToken := by
    obtain ⟨session, belongs, inside⟩ := effect.exists_session_of_touches touches answer
    exact outside.ne_of_pair? answer belongs inside
  cases effect with
  | opened opens prepared answer => exact MemoryStore.record?_set_of_ne (handed answer)
  | rotated trades found renewed answer =>
      have other := addressed (Call.addressed?_of_traded? trades)
      rw [MemoryStore.record?_set_of_ne (handed answer), MemoryStore.record?_delete_of_ne other]
  | lost trades found answer =>
      exact MemoryStore.record?_delete_of_ne
        (addressed (Call.addressed?_of_traded? trades))
  | refused trades absent answer refusal => rfl
  | ended ends presents answer =>
      exact MemoryStore.record?_delete_of_ne
        (addressed (Call.addressed?_of_presented? presents))
  | purged purges answer =>
      -- A cleanup opens no session and addresses no token.
      rw [Event.touches, purges] at touches
      cases touches
  | kept trades answer ends => rfl

end Step

/-! ## Events that remain -/

section Remaining

variable {leaves : Event → List Event → Bool} {history : List Event} {event : Event}

/-- An event remains where it was not left out. -/
theorem mem_remaining : event ∈ remaining leaves history ↔
    ∃ later earlier, history = later ++ event :: earlier ∧ leaves event earlier = false := by
  induction history with
  | nil => simp [remaining]
  | cons latest history ih =>
      constructor
      · intro inside
        rw [remaining] at inside
        split at inside
        · obtain ⟨later, earlier, split, stays⟩ := ih.mp inside
          exact ⟨latest :: later, earlier, by rw [split, List.cons_append], stays⟩
        · next stays =>
            rcases List.mem_cons.mp inside with rfl | inside
            · exact ⟨[], history, rfl, Bool.eq_false_iff.mpr stays⟩
            · obtain ⟨later, earlier, split, stays⟩ := ih.mp inside
              exact ⟨latest :: later, earlier, by rw [split, List.cons_append], stays⟩
      · rintro ⟨later, earlier, split, stays⟩
        cases later with
        | nil =>
            cases split
            rw [remaining, stays]
            exact List.mem_cons_self
        | cons first later =>
            cases split
            have inside := ih.mpr ⟨later, earlier, rfl, stays⟩
            rw [remaining]
            split
            · exact inside
            · exact List.mem_cons_of_mem _ inside

@[simp] theorem Event.pair?_uncounted (event : Event) :
    event.uncounted.answer.pair? = event.answer.pair? := by
  obtain ⟨now, call, answer⟩ := event
  cases answer with
  | counted outcome => cases outcome <;> rfl
  | _ => rfl

end Remaining

/-! ## Two runs side by side -/

/-- How a run goes on with and without the events that touch a group. -/
structure Separated (engine : SessionEngine) (group : OpenedSession → Bool)
    (leaves : Event → List Event → Bool) (full rest : EngineRun) : Prop where
  clock : rest.clock = full.clock
  history : rest.history.map Event.uncounted = (remaining leaves full.history).map Event.uncounted
  records : full.store.memory.AgreeOn (Outside engine group full.history) rest.store.memory
  owners : ∀ token, Outside engine group full.history token →
    engine.sessionOf? rest.history token = engine.sessionOf? full.history token

def EngineRun.next (engine : SessionEngine) (run : EngineRun) (call : Call) : Event :=
  ⟨run.clock.now, call, (engine.perform run.clock.now run.store call).1⟩

/-- Fresh tokens are handed out once. -/
theorem not_mints_of_fresh {later earlier : List Event} {event : Event} {token : String}
    (fresh : Throughout Event.MintsFresh (later ++ event :: earlier)) (mints : event.Mints token) :
    ∀ past ∈ later, ¬ past.Mints token := by
  intro past inside again
  obtain ⟨front, back, split⟩ := List.append_of_mem inside
  obtain ⟨pair, answer, rfl⟩ := Option.map_eq_some_iff.mp again
  have unminted := throughout_iff.mp fresh front past (back ++ event :: earlier)
    (by rw [split, List.append_assoc, List.cons_append]) pair answer
  exact unminted event (List.mem_append_right _ List.mem_cons_self) mints

namespace Separated

variable {engine : SessionEngine} {group : OpenedSession → Bool}
  {leaves : Event → List Event → Bool} {full rest : EngineRun} {call : Call} {token : String}
  {session : OpenedSession}

/-- Without the events of a group no record of the group comes about. -/
theorem record?_eq_none (separated : Separated engine group leaves full rest)
    (rule : LeavesOut engine group leaves) (fresh : Throughout Event.MintsFresh full.history)
    (recorded : Recorded engine rest.store.memory rest.history)
    (owner : engine.sessionOf? full.history token = some session) (inside : group session = true) :
    rest.store.memory.record? token = none := by
  by_contra held
  obtain ⟨record, found⟩ := Option.ne_none_iff_exists'.mp held
  obtain ⟨other, belongs, -⟩ := recorded (token, record) (MemoryStore.mem_of_record? found)
  -- The token was handed out in the run without the group, and so by an event that remained.
  obtain ⟨past, happened, mints⟩ : ∃ past ∈ rest.history, past.Mints token := by
    by_contra silent
    push Not at silent
    rw [SessionEngine.sessionOf?_of_silent silent] at belongs
    cases belongs
  have counterpart := List.mem_map_of_mem (f := Event.uncounted) happened
  rw [separated.history] at counterpart
  obtain ⟨event, remains, same⟩ := List.mem_map.mp counterpart
  have handed : event.Mints token := by
    rw [Event.Mints, ← Event.pair?_uncounted, same, Event.pair?_uncounted]
    exact mints
  obtain ⟨later, earlier, split, stays⟩ := mem_remaining.mp remains
  -- That event is the one that put the token into the group.
  rw [split] at fresh
  rw [split, SessionEngine.sessionOf?_append (not_mints_of_fresh fresh handed),
    SessionEngine.sessionOf?, if_pos handed] at owner
  rcases rule.all _ _ (Event.touches_of_session? owner inside) with left | unknown
  · rw [stays] at left
    cases left
  · rw [Event.Mints, unknown.unpaired] at handed
    cases handed

/-- An event that was not left out addresses no token of the group, or was answered in vain. -/
theorem outside_or_asIfUnknown (rule : LeavesOut engine group leaves) {event : Event}
    {history : List Event} (stays : leaves event history = false)
    (addresses : event.call.addressed? engine = some token) :
    Outside engine group history token ∨
      event.AsIfUnknown engine ∧ ∃ session, engine.sessionOf? history token = some session ∧
        group session = true := by
  by_cases outside : Outside engine group history token
  · exact .inl outside
  · rw [Outside] at outside
    push Not at outside
    obtain ⟨session, owner, inside⟩ := outside
    rw [ne_eq, Bool.not_eq_false] at inside
    refine .inr ⟨?_, session, owner, inside⟩
    rcases rule.all event history
      (Event.touches_iff.mpr (.inr ⟨token, session, addresses, owner, inside⟩)) with left | unknown
    · rw [stays] at left
      cases left
    · exact unknown

section Remains

variable (separated : Separated engine group leaves full rest)
  (rule : LeavesOut engine group leaves) (fresh : Throughout Event.MintsFresh full.history)
  (recorded : Recorded engine rest.store.memory rest.history)
  (full_whole : full.store.faults = []) (rest_whole : rest.store.faults = [])
  (stays : leaves (full.next engine call) full.history = false)

include separated rule fresh recorded stays in
/-- Both stores hand the same record to a call that remains. -/
theorem take_eq (full_whole : full.store.faults = [])
    (trades : call.traded? engine full.clock.now = some token) :
    (full.store.memory.take full.clock.now token).1 =
      (rest.store.memory.take full.clock.now token).1 := by
  rcases outside_or_asIfUnknown rule stays (Call.addressed?_of_traded? trades) with
    outside | ⟨unknown, session, owner, inside⟩
  · exact MemoryStore.take_congr (separated.records token outside) _
  · obtain ⟨draw, refused⟩ :=
      SessionEngine.exists_rotate_of_refusal? trades (unknown.unfound token trades)
    have absent := separated.record?_eq_none rule fresh recorded owner inside
    rw [SessionEngine.take_of_rotate full_whole refused, MemoryStore.take_of_absent absent]

include separated rule fresh recorded in
theorem get_eq (full_whole : full.store.faults = [])
    (stays : leaves (full.next engine (.get token)) full.history = false) :
    full.store.memory.get full.clock.now token = rest.store.memory.get full.clock.now token := by
  rcases outside_or_asIfUnknown rule stays rfl with outside | ⟨unknown, session, owner, inside⟩
  · exact MemoryStore.get_congr (separated.records token outside) _
  · have absent := separated.record?_eq_none rule fresh recorded owner inside
    rw [MemoryStore.get_of_absent absent]
    cases outcome : full.store.memory.get full.clock.now token with
    | ok userData =>
        refine absurd ?_ (unknown.unread userData)
        rw [EngineRun.next, SessionEngine.perform, Store.get_of_faults full_whole, outcome]
        rfl
    | error error => rw [MemoryStore.get_error outcome]

include separated rule fresh recorded full_whole rest_whole stays in
/-- Over both stores a call that remains is answered alike, and leaves them in agreement. -/
theorem next_alike :
    (full.next engine call).uncounted = (rest.next engine call).uncounted ∧
      (full.perform engine call).store.memory.AgreeOn (Outside engine group full.history)
        (rest.perform engine call).store.memory := by
  have stores : Store.Related (MemoryStore.AgreeOn (Outside engine group full.history)) full.store
      rest.store := ⟨full_whole, rest_whole, separated.records⟩
  have clock := separated.clock
  by_cases cleans : call = .cleanup
  · subst cleans
    simp only [EngineRun.next, EngineRun.perform, SessionEngine.perform,
      Store.cleanup_of_faults full_whole, Store.cleanup_of_faults rest_whole, clock]
    exact ⟨rfl, separated.records.cleanup _⟩
  by_cases counts : call = .count
  · subst counts
    simp only [EngineRun.next, EngineRun.perform, SessionEngine.perform,
      Store.count_of_faults full_whole, Store.count_of_faults rest_whole, clock]
    exact ⟨rfl, separated.records⟩
  have read (token : String) (reads : call = .get token) :
      full.store.memory.get full.clock.now token =
        rest.store.memory.get full.clock.now token := by
    subst reads
    exact separated.get_eq rule fresh recorded full_whole stays
  have same := engine.perform_matches (MemoryStore.AgreeOn.keptByChanges full.clock.now _) stores
    cleans (fun token trades => separated.take_eq rule fresh recorded stays full_whole trades) read
    fun counted => absurd counted counts
  simp only [EngineRun.next, EngineRun.perform, clock]
  generalize engine.perform full.clock.now full.store call = before at same ⊢
  generalize engine.perform full.clock.now rest.store call = other at same ⊢
  cases same with
  | intro answer after => exact ⟨rfl, after.records⟩

include separated rule stays in
/-- What a call that remains hands out belongs to the same session in both runs. -/
theorem session?_next
    (answers : (rest.next engine call).answer.pair? = (full.next engine call).answer.pair?) :
    (rest.next engine call).session? engine (engine.sessionOf? rest.history) =
      (full.next engine call).session? engine (engine.sessionOf? full.history) := by
  have instants : (rest.next engine call).now = (full.next engine call).now :=
    congrArg Clock.now separated.clock
  rw [Event.session?, Event.session?, answers, instants]
  cases answer : (full.next engine call).answer.pair? with
  | none => rfl
  | some pair =>
      simp only [EngineRun.next, Option.bind_some]
      cases opens : call.opened? engine with
      | some userData => rfl
      | none =>
          cases trades : call.traded? engine full.clock.now with
          | none => rfl
          | some token =>
              rcases outside_or_asIfUnknown rule stays (Call.addressed?_of_traded? trades) with
                outside | ⟨unknown, -⟩
              · exact separated.owners token outside
              · cases unknown.unpaired.symm.trans answer

include separated rule fresh recorded full_whole rest_whole stays in
/-- One more call that remains keeps the runs apart only by the group. -/
theorem remain (next_fresh : (full.next engine call).MintsFresh full.history) :
    Separated engine group leaves (full.perform engine call) (rest.perform engine call) := by
  obtain ⟨same, agree⟩ :=
    separated.next_alike rule fresh recorded full_whole rest_whole stays
  have answers : (rest.next engine call).answer.pair? = (full.next engine call).answer.pair? := by
    rw [← Event.pair?_uncounted, ← same, Event.pair?_uncounted]
  constructor
  · exact congrArg call.moveClock separated.clock
  · change ((rest.next engine call) :: rest.history).map _ =
      (remaining leaves ((full.next engine call) :: full.history)).map _
    rw [remaining, stays, if_neg Bool.false_ne_true, List.map_cons, List.map_cons, ← same,
      separated.history]
  · exact agree.mono fun token outside => outside.of_cons next_fresh
  · intro token outside
    change engine.sessionOf? ((rest.next engine call) :: rest.history) token =
      engine.sessionOf? ((full.next engine call) :: full.history) token
    by_cases mints : (full.next engine call).Mints token
    · have minted : (rest.next engine call).Mints token := by rwa [Event.Mints, answers]
      rw [SessionEngine.sessionOf?, SessionEngine.sessionOf?, if_pos mints, if_pos minted]
      exact separated.session?_next rule stays answers
    · have silent : ¬ (rest.next engine call).Mints token := by rwa [Event.Mints, answers]
      rw [SessionEngine.sessionOf?, SessionEngine.sessionOf?, if_neg mints, if_neg silent]
      exact separated.owners token (outside.of_cons next_fresh)

end Remains

/-- One more call that touches the group is made in one run only. -/
theorem leave (separated : Separated engine group leaves full rest)
    (rule : LeavesOut engine group leaves) (full_whole : full.store.faults = [])
    (next_fresh : (full.next engine call).MintsFresh full.history)
    (left : leaves (full.next engine call) full.history = true) :
    Separated engine group leaves (full.perform engine call) rest := by
  have touches := rule.touching _ _ left
  have effect := (engine.perform_effect full_whole full.clock.now call).1
  constructor
  · rw [separated.clock]
    cases call with
    | setClock now => cases touches
    | _ => rfl
  · change rest.history.map _ =
      (remaining leaves ((full.next engine call) :: full.history)).map _
    rw [remaining, if_pos left, separated.history]
  · intro token outside
    calc (full.perform engine call).store.memory.record? token
        = full.store.memory.record? token :=
          effect.record?_of_touches next_fresh touches outside
      _ = rest.store.memory.record? token :=
          separated.records token (outside.of_cons next_fresh)
  · intro token outside
    have silent : ¬ (full.next engine call).Mints token := by
      intro mints
      obtain ⟨pair, answer, same⟩ := Option.map_eq_some_iff.mp mints
      obtain ⟨session, belongs, inside⟩ := effect.exists_session_of_touches touches answer
      exact outside.ne_of_pair? answer belongs inside same.symm
    change engine.sessionOf? rest.history token =
      engine.sessionOf? ((full.next engine call) :: full.history) token
    rw [SessionEngine.sessionOf?, if_neg silent]
    exact separated.owners token (outside.of_cons next_fresh)

end Separated

theorem leavesOut_touches (engine : SessionEngine) (group : OpenedSession → Bool) :
    LeavesOut engine group (Event.touches engine group) :=
  ⟨fun _ _ touches => touches, fun _ _ touches => .inl touches⟩

section Runs

variable {engine : SessionEngine} {group : OpenedSession → Bool}
  {leaves : Event → List Event → Bool}

/-- One more call remains behind all others, unless its event is left out. -/
theorem EngineRun.remainingCalls_perform (run : EngineRun) (call : Call) :
    (run.perform engine call).remainingCalls leaves =
      if leaves (run.next engine call) run.history then run.remainingCalls leaves
      else run.remainingCalls leaves ++ [call] := by
  rw [remainingCalls, remainingCalls]
  change ((remaining leaves (run.next engine call :: run.history)).map _).reverse = _
  rw [remaining]
  split
  · rfl
  · exact List.reverse_cons

/-- By induction on the calls, from the first to the last, the runs are separated throughout. -/
theorem SessionEngine.run_separated (rule : LeavesOut engine group leaves) (start : Instant)
    (calls : List Call) (fresh : Throughout Event.MintsFresh (engine.run start calls).history) :
    Separated engine group leaves (engine.run start calls)
      (engine.run start ((engine.run start calls).remainingCalls leaves)) := by
  induction calls using List.reverseRecOn with
  | nil => exact ⟨rfl, rfl, fun _ _ => rfl, fun _ _ => rfl⟩
  | append_singleton calls call ih =>
      rw [run_append] at fresh ⊢
      obtain ⟨next_fresh, fresh⟩ := fresh
      have separated := ih fresh
      have whole := engine.run_whole start
      cases stays : leaves ((engine.run start calls).next engine call)
          (engine.run start calls).history with
      | true =>
          rw [EngineRun.remainingCalls_perform, if_pos stays]
          exact separated.leave rule (whole calls) next_fresh stays
      | false =>
          rw [EngineRun.remainingCalls_perform, stays, if_neg Bool.false_ne_true, run_append]
          exact separated.remain rule fresh (engine.run_belongs start _).2 (whole calls) (whole _)
            stays next_fresh

end Runs

/-- What two runs have in common, of which one leaves the sessions of a group out. -/
structure Isolated (engine : SessionEngine) (group : OpenedSession → Bool)
    (leaves : Event → List Event → Bool) (full rest : EngineRun) : Prop where
  /-- The remaining calls are made at the same instants, and answered alike. -/
  answers : rest.history.map Event.uncounted = (remaining leaves full.history).map Event.uncounted
  /-- The other sessions have the same tokens, and their records are the same. -/
  sessions : ∀ token session, engine.sessionOf? full.history token = some session →
    group session = false → engine.sessionOf? rest.history token = some session ∧
      rest.store.memory.record? token = full.store.memory.record? token
  /-- One more call that touches the group changes no record of another session. -/
  records : ∀ call, (full.next engine call).touches engine group full.history = true →
    (full.next engine call).MintsFresh full.history →
      ∀ token session, engine.sessionOf? full.history token = some session →
        group session = false → (full.perform engine call).store.memory.record? token =
          full.store.memory.record? token

/--
Sessions are isolated.  However the sessions of a run are split, the run without
the events of one group gives all other events the answers that they had: the
same values and errors, of all calls that do not tell a number of records.  The
other sessions keep their refresh tokens, and the store has the same records for
them.
-/
theorem sessions_are_isolated (engine : SessionEngine) (group : OpenedSession → Bool)
    {leaves : Event → List Event → Bool} (rule : LeavesOut engine group leaves) (start : Instant)
    (calls : List Call) (fresh : Throughout Event.MintsFresh (engine.run start calls).history) :
    Isolated engine group leaves (engine.run start calls)
      (engine.run start ((engine.run start calls).remainingCalls leaves)) := by
  have separated := engine.run_separated rule start calls fresh
  have outside {token : String} {session : OpenedSession}
      (owner : engine.sessionOf? (engine.run start calls).history token = some session)
      (other : group session = false) :
      Outside engine group (engine.run start calls).history token := by
    intro found same
    cases owner.symm.trans same
    exact other
  constructor
  · exact separated.history
  · intro token session owner other
    rw [separated.owners token (outside owner other)]
    exact ⟨owner, (separated.records token (outside owner other)).symm⟩
  · intro call touches next_fresh token session owner other
    have effect := (engine.perform_effect (engine.run_whole start calls)
      (engine.run start calls).clock.now call).1
    exact effect.record?_of_touches next_fresh touches (.cons owner other next_fresh)

def crossedAccess : String :=
  ((sampleEngine.generateTokenPair ⟨1700000000, 0⟩ (sampleDraw 1) (.string "bob") {}).1.toOption.map
    TokenPair.accessToken).getD ""

/--
Two sessions take turns: of the second one token is replayed and one revoked, and
requests carry a token of each.
-/
def crossedCalls : List Call :=
  [.generateTokenPair (sampleDraw 0) (.string "alice"),
    .generateTokenPair (sampleDraw 1) (.string "bob"),
    .refreshTokenPair (sampleDraw 2) (refreshTokenOf (sampleDraw 0)),
    .refreshTokenPair (sampleDraw 3) (refreshTokenOf (sampleDraw 1)),
    .refreshTokenPair (sampleDraw 4) (refreshTokenOf (sampleDraw 1)), .count,
    .checkRefreshable (sampleRequest (some (refreshTokenOf (sampleDraw 2))) (some crossedAccess)),
    .revoke (refreshTokenOf (sampleDraw 3)),
    .logout (sampleRequest (some (refreshTokenOf (sampleDraw 2))) (some crossedAccess))]

def crossedRun : EngineRun := sampleEngine.run ⟨1700000000, 0⟩ crossedCalls

def withoutBob : Event → List Event → Bool :=
  Event.touches sampleEngine fun session => session.userData = .string "bob"

theorem sessions_are_isolated_crossed :
    Throughout Event.MintsFresh crossedRun.history ∧
      crossedRun.history.countP (·.answer.pair?.isSome) = 4 ∧
      (crossedRun.remainingCalls withoutBob).length = 5 ∧
      Isolated sampleEngine (fun session => session.userData = .string "bob") withoutBob crossedRun
        (sampleEngine.run ⟨1700000000, 0⟩ (crossedRun.remainingCalls withoutBob)) := by
  have fresh : Throughout Event.MintsFresh crossedRun.history := by decide +kernel
  have opened : crossedRun.history.countP (·.answer.pair?.isSome) = 4 := by decide +kernel
  have remained : (crossedRun.remainingCalls withoutBob).length = 5 := by decide +kernel
  refine ⟨fresh, opened, remained, ?_⟩
  exact sessions_are_isolated sampleEngine _ (leavesOut_touches _ _) ⟨1700000000, 0⟩ crossedCalls
    fresh

end SessionTokens
