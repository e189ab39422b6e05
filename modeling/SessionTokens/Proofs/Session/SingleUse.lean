import SessionTokens.Proofs.Session.Runs

/-!
# Single use of refresh tokens

A refresh token in the store was handed out before, and has not been redeemed,
revoked or logged out since.  Effects preserve this as long as tokens are drawn
fresh; hence a token is redeemed at most once, and once it is retired every
later attempt finds no record.
-/

namespace SessionTokens

/-- Whether each stored token was handed out and, unless it is empty, never retired. -/
structure Tracked (engine : SessionEngine) (store : MemoryStore) (history : List Event) : Prop where
  minted : ∀ token ∈ store.tokens, ∃ past ∈ history, past.Mints token
  unretired : ∀ token ∈ store.tokens, token ≠ "" → ∀ past ∈ history, ¬ past.Retires engine token

/-- What single use demands of an event after earlier ones, for one refresh token. -/
structure SingleUse (engine : SessionEngine) (token : String) (event : Event)
    (earlier : List Event) : Prop where
  issued : event.Redeems engine token → ∃ past ∈ earlier, past.Mints token
  unused : event.Redeems engine token → ∀ past ∈ earlier, ¬ past.Retires engine token
  refused : (∃ past ∈ earlier, past.Retires engine token) → event.Attempts engine token →
    event.answer.refusal? = some .refreshTokenNotFound

variable {engine : SessionEngine} {before after : MemoryStore} {event : Event}
  {history : List Event} {token : String}

namespace Event

theorem Retires.presents (retires : event.Retires engine token) : event.Presents engine token := by
  rcases retires with ⟨-, presents, -⟩ | ⟨-, presents⟩ <;> exact presents

theorem mints_of_pair? {pair : TokenPair} (answer : event.answer.pair? = some pair) :
    event.Mints token ↔ pair.refreshToken = token := by
  simp [Mints, answer]

theorem not_redeems_of_pair? (answer : event.answer.pair? = none) :
    ¬ event.Redeems engine token := by
  simp [Redeems, answer]

theorem FreshAfter.of_mints (fresh : event.FreshAfter engine history) (mints : event.Mints token) :
    ¬ event.Presents engine token ∧
      ∀ past ∈ history, ¬ past.Mints token ∧ ¬ past.Presents engine token := by
  obtain ⟨pair, answer, rfl⟩ := Option.map_eq_some_iff.mp mints
  exact fresh pair answer

end Event

namespace Effect

theorem mem_tokens (effect : Effect engine before event after) (inside : token ∈ after.tokens) :
    token ∈ before.tokens ∨ event.Mints token := by
  cases effect with
  | opened opens prepared answer =>
      rcases MemoryStore.mem_tokens_set.mp inside with same | kept
      · exact .inr ((Event.mints_of_pair? answer).mpr same.symm)
      · exact .inl kept
  | rotated trades found renewed answer =>
      rcases MemoryStore.mem_tokens_set.mp inside with same | kept
      · exact .inr ((Event.mints_of_pair? answer).mpr same.symm)
      · exact .inl (MemoryStore.mem_tokens_delete.mp kept).1
  | lost => exact .inl (MemoryStore.mem_tokens_delete.mp inside).1
  | ended => exact .inl (MemoryStore.mem_tokens_delete.mp inside).1
  | purged => exact .inl (MemoryStore.mem_tokens_of_mem_cleanup inside)
  | refused | kept => exact .inl inside

/-- Only a rotation redeems a token, and the token had a record. -/
theorem mem_tokens_of_redeems (effect : Effect engine before event after)
    (redeems : event.Redeems engine token) :
    event.Attempts engine token ∧ token ∈ before.tokens ∧
      (token ∈ after.tokens → event.Mints token) := by
  cases effect with
  | opened opens prepared answer =>
      have not := Call.isRotation_eq_false_of_opened? opens
      simp [redeems.1] at not
  | @rotated _ other _ _ trades found renewed answer =>
      have presents := (Call.presented?_of_traded? trades).2.1
      obtain rfl : token = other := Option.some.inj (redeems.2.1.symm.trans presents)
      refine ⟨trades, MemoryStore.mem_tokens_of_record? found, fun inside => ?_⟩
      rcases MemoryStore.mem_tokens_set.mp inside with same | kept
      · exact (Event.mints_of_pair? answer).mpr same.symm
      · exact absurd rfl (MemoryStore.mem_tokens_delete.mp kept).2
  | lost trades found answer => exact absurd redeems (Event.not_redeems_of_pair? answer)
  | refused trades absent answer => exact absurd redeems (Event.not_redeems_of_pair? answer)
  | ended ends presents answer => exact absurd redeems (Event.not_redeems_of_pair? answer)
  | purged purges answer => exact absurd redeems (Event.not_redeems_of_pair? answer)
  | kept trades answer => exact absurd redeems (Event.not_redeems_of_pair? answer)

/-- A retired token is not in the store, unless the same event hands it out again. -/
theorem not_mem_tokens_of_retires (effect : Effect engine before event after)
    (retires : event.Retires engine token) (filled : token ≠ "") (inside : token ∈ after.tokens) :
    event.Mints token := by
  rcases retires with redeems | ⟨ends, presents⟩
  · exact (effect.mem_tokens_of_redeems redeems).2.2 inside
  · have stays := Call.isRotation_eq_false_of_isEnding ends
    cases effect with
    | opened opens => simp [Call.isEnding_eq_false_of_opened? opens] at ends
    | rotated trades => simp [(Call.presented?_of_traded? trades).1] at stays
    | lost trades => simp [(Call.presented?_of_traded? trades).1] at stays
    | refused trades => simp [(Call.presented?_of_traded? trades).1] at stays
    | @ended other _ presented _ =>
        obtain rfl : token = other := Option.some.inj (presents.symm.trans presented)
        exact absurd rfl (MemoryStore.mem_tokens_delete.mp inside).2
    | purged purges => simp [purges, Call.isEnding] at ends
    | kept _ _ blank => exact absurd (blank ends token presents) filled

/-- A trade of a token without a record is refused. -/
theorem refusal_of_attempts (effect : Effect engine before event after)
    (attempts : event.Attempts engine token) (absent : token ∉ before.tokens) :
    event.answer.refusal? = some .refreshTokenNotFound := by
  cases effect with
  | opened opens =>
      cases (Call.traded?_eq_none_of_opened? opens event.now).symm.trans attempts
  | @rotated _ other _ _ trades found =>
      obtain rfl : token = other := Option.some.inj (attempts.symm.trans trades)
      exact absurd (MemoryStore.mem_tokens_of_record? found) absent
  | @lost other _ trades found =>
      obtain rfl : token = other := Option.some.inj (attempts.symm.trans trades)
      exact absurd (MemoryStore.mem_tokens_of_record? found) absent
  | refused trades absent answer refusal => exact refusal
  | ended ends =>
      have rotates := (Call.presented?_of_traded? attempts).1
      simp [Call.isRotation_eq_false_of_isEnding ends] at rotates
  | purged purges =>
      have rotates := (Call.presented?_of_traded? attempts).1
      simp [purges, Call.isRotation] at rotates
  | kept trades => cases trades.symm.trans attempts

end Effect

namespace Tracked

theorem step (tracked : Tracked engine before history)
    (effect : Effect engine before event after) (fresh : event.FreshAfter engine history) :
    Tracked engine after (event :: history) where
  minted token inside := by
    rcases effect.mem_tokens inside with kept | mints
    · obtain ⟨past, found, mints⟩ := tracked.minted token kept
      exact ⟨past, List.mem_cons_of_mem _ found, mints⟩
    · exact ⟨event, List.mem_cons_self, mints⟩
  unretired token inside filled past found retires := by
    -- A token that is handed out now is fresh; any other one was in the store before.
    by_cases mints : event.Mints token
    · obtain ⟨now, ever⟩ := fresh.of_mints mints
      rcases List.mem_cons.mp found with rfl | found
      · exact now retires.presents
      · exact (ever past found).2 retires.presents
    · have kept := (effect.mem_tokens inside).resolve_right mints
      rcases List.mem_cons.mp found with rfl | found
      · exact mints (effect.not_mem_tokens_of_retires retires filled inside)
      · exact tracked.unretired token kept filled past found retires

theorem singleUse (tracked : Tracked engine before history)
    (effect : Effect engine before event after) (token : String) :
    SingleUse engine token event history where
  issued redeems := tracked.minted token (effect.mem_tokens_of_redeems redeems).2.1
  unused redeems := by
    obtain ⟨attempts, inside, -⟩ := effect.mem_tokens_of_redeems redeems
    exact tracked.unretired token inside (Call.presented?_of_traded? attempts).2.2
  refused := by
    rintro ⟨past, found, retires⟩ attempts
    refine effect.refusal_of_attempts attempts fun inside => ?_
    have filled := (Call.presented?_of_traded? attempts).2.2
    exact tracked.unretired token inside filled past found retires

end Tracked

/-- When every event redeems only a token that was never retired, one event redeems it at most. -/
theorem countP_redeems_le_one (single : Throughout (SingleUse engine token) history) :
    history.countP (·.Redeems engine token) ≤ 1 := by
  induction history with
  | nil => simp
  | cons event earlier ih =>
      by_cases redeems : event.Redeems engine token
      · have none : earlier.countP (·.Redeems engine token) = 0 := by
          rw [List.countP_eq_zero]
          intro past found redeemed
          exact single.1.unused redeems past found (.inl (of_decide_eq_true redeemed))
        simp [redeems, none]
      · simpa [redeems] using ih single.2

/--
In every run with fresh tokens a refresh token is redeemed only after it was
handed out and never after it was redeemed, revoked or logged out, so that it is
redeemed once at most; an attempt to trade a retired token finds no record.
-/
theorem refresh_tokens_are_single_use (engine : SessionEngine) (start : Instant)
    (calls : List Call)
    (fresh : Throughout (Event.FreshAfter engine) (engine.run start calls).history)
    (token : String) :
    Throughout (SingleUse engine token) (engine.run start calls).history ∧
      (engine.run start calls).history.countP (·.Redeems engine token) ≤ 1 := by
  have held : Throughout (Event.FreshAfter engine) (engine.run start calls).history →
      Tracked engine (engine.run start calls).store.memory (engine.run start calls).history ∧
        Throughout (SingleUse engine token) (engine.run start calls).history := by
    refine engine.run_induction (motive := fun store history =>
      Throughout (Event.FreshAfter engine) history →
        Tracked engine store history ∧ Throughout (SingleUse engine token) history)
      (fun _ => ⟨⟨nofun, nofun⟩, trivial⟩) ?_ start calls
    intro before history event after effect ih fresh
    obtain ⟨tracked, single⟩ := ih fresh.2
    exact ⟨tracked.step effect fresh.1, tracked.singleUse effect token, single⟩
  exact ⟨(held fresh).2, countP_redeems_le_one (held fresh).2⟩

/-- A token is traded and replayed, its successor revoked and replayed. -/
def replayCalls : List Call :=
  let token (octet : UInt8) := refreshTokenOf (sampleDraw octet)
  [.generateTokenPair (sampleDraw 0) (.string "alice"),
    .setClock ⟨1700000060, 5⟩,
    .refreshTokenPair (sampleDraw 1) (token 0),
    .setClock ⟨1700000001, 0⟩,
    .refreshTokenPair (sampleDraw 2) (token 0),
    .revoke (token 1),
    .refreshTokenPair (sampleDraw 3) (token 1)]

def replayRun : EngineRun := sampleEngine.run ⟨1700000000, 0⟩ replayCalls

theorem refresh_tokens_are_single_use_replayed :
    Throughout (Event.FreshAfter sampleEngine) replayRun.history ∧
      replayRun.history.countP (·.Redeems sampleEngine (refreshTokenOf (sampleDraw 0))) = 1 ∧
      ∀ token, Throughout (SingleUse sampleEngine token) replayRun.history := by
  have fresh : Throughout (Event.FreshAfter sampleEngine) replayRun.history := by
    decide +kernel
  refine ⟨fresh, by decide +kernel, fun token => ?_⟩
  exact (refresh_tokens_are_single_use sampleEngine ⟨1700000000, 0⟩ replayCalls fresh token).1

end SessionTokens
