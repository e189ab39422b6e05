import SessionTokens.Proofs.Session.Effect
import SessionTokens.Proofs.Session.Preparation

/-!
# Where pairs come from

Whatever store an engine works over, and in whatever state it is, a pair that a
call hands out was prepared by that call, from the octets drawn for it.
-/

namespace SessionTokens

def Call.draw? : Call → Option Bytes
  | .login draw _ | .generateTokenPair draw _ | .refresh draw _ | .refreshTokenPair draw _ =>
      some draw
  | _ => none

/-- The first second of a session is read from its record as a signed word. -/
theorem SessionRecord.signed_bounds {value : Json} {record : SessionRecord}
    (read : SessionRecord.read? value = some record) :
    Decimal.minInt64 ≤ record.origin ∧ record.origin ≤ Decimal.maxInt64 := by
  obtain ⟨entries, -, read⟩ := Option.bind_eq_some_iff.mp read
  obtain ⟨userData, -, read⟩ := Option.bind_eq_some_iff.mp read
  obtain ⟨origin, second, read⟩ := Option.bind_eq_some_iff.mp read
  cases read
  obtain ⟨value, -, second⟩ := Option.bind_eq_some_iff.mp second
  cases value <;> simp only [readSecond?, reduceCtorEq] at second
  split at second
  · next bounds =>
      cases second
      exact bounds
  · cases second

theorem SessionRecord.isWord_origin {value : Json} {record : SessionRecord}
    (read : SessionRecord.read? value = some record) : Json.IsWord record.origin :=
  .of_signed (signed_bounds read).1 (signed_bounds read).2

namespace SessionEngine

variable {engine : SessionEngine} {now : Instant} {draw : Bytes} {pair : TokenPair}

/-- A pair that a rotation hands out, over whatever store, was prepared for a session. -/
theorem exists_prepared_of_rotate {token : String} {store : Store}
    (rotated : (engine.rotate now draw token store).1 = .ok pair) :
    ∃ (session : SessionRecord) (pending : PendingPair),
      engine.preparePair now draw session.userData (some session.origin) = .ok pending ∧
        Json.IsWord session.origin ∧ pair = pending.pair := by
  rw [rotate] at rotated
  split at rotated
  · cases rotated
  · next record _ _ =>
      cases renewed : engine.renew now draw record with
      | error error =>
          rw [renewed] at rotated
          cases rotated
      | ok pending =>
          rw [renewed] at rotated
          obtain ⟨session, read, -, prepared⟩ := renew_eq_ok.mp renewed
          simp only [PendingPair.deposit] at rotated
          split at rotated
          · cases rotated
            exact ⟨session, pending, prepared, SessionRecord.isWord_origin read, rfl⟩
          · cases rotated

/-- A call that hands out a pair opens a session or trades a refresh token, with its own draw. -/
theorem opened_or_traded_of_perform {store : Store} {call : Call}
    (answer : (engine.perform now store call).1.pair? = some pair) :
    ∃ draw, call.draw? = some draw ∧
      ((∃ userData, (engine.generateTokenPair now draw userData store).1 = .ok pair) ∨
        ∃ token, (engine.rotate now draw token store).1 = .ok pair) := by
  cases call with
  | login draw credentials =>
      simp only [perform, login] at answer
      cases known : engine.authenticate credentials with
      | error error =>
          rw [known] at answer
          cases answer
      | ok userData =>
          simp only [known, Prod.map, Answer.pair?_granted, toOption_eq_some] at answer
          exact ⟨draw, rfl, .inl ⟨userData, answer⟩⟩
  | generateTokenPair draw userData =>
      simp only [perform, Prod.map, Answer.pair?_paired, toOption_eq_some] at answer
      exact ⟨draw, rfl, .inl ⟨userData, answer⟩⟩
  | refresh draw request =>
      simp only [perform, refresh] at answer
      cases admitted : engine.admitRefresh now request with
      | error error =>
          rw [admitted] at answer
          cases answer
      | ok token =>
          simp only [admitted, Prod.map, Answer.pair?_granted, toOption_eq_some] at answer
          exact ⟨draw, rfl, .inr ⟨token, answer⟩⟩
  | refreshTokenPair draw token =>
      simp only [perform, refreshTokenPair] at answer
      by_cases empty : token = ""
      · rw [if_pos empty] at answer
        cases answer
      · simp only [if_neg empty, Prod.map, Answer.pair?_paired, toOption_eq_some] at answer
        exact ⟨draw, rfl, .inr ⟨token, answer⟩⟩
  | _ => cases answer

/--
A pair that a call hands out was prepared from the draw of the call, in a session
that begins now or that began in a second of a word.
-/
theorem exists_prepared_of_perform {store : Store} {call : Call}
    (answer : (engine.perform now store call).1.pair? = some pair) :
    ∃ draw userData origin pending, call.draw? = some draw ∧
      engine.preparePair now draw userData origin = .ok pending ∧
      (∀ second ∈ origin, Json.IsWord second) ∧ pair = pending.pair := by
  obtain ⟨draw, drawn, ⟨userData, generated⟩ | ⟨token, rotated⟩⟩ :=
    opened_or_traded_of_perform answer
  · obtain ⟨pending, prepared, same⟩ := preparePair_of_generateTokenPair (Prod.ext generated rfl)
    exact ⟨draw, userData, none, pending, drawn, prepared, by simp, same⟩
  · obtain ⟨session, pending, prepared, word, same⟩ := exists_prepared_of_rotate rotated
    refine ⟨draw, session.userData, some session.origin, pending, drawn, prepared, ?_, same⟩
    rintro second ⟨⟩
    exact word

/-- What a call grants is its pair with the cookies of the engine. -/
theorem eq_grant_of_perform {store : Store} {call : Call} {grant : SessionGrant}
    (granted : (engine.perform now store call).1 = .granted (.ok grant)) :
    grant = engine.grant grant.pair := by
  have mapped {outcome : Except SessionError TokenPair}
      (same : outcome.map engine.grant = .ok grant) : grant = engine.grant grant.pair := by
    cases outcome with
    | error error => cases same
    | ok pair =>
        cases same
        rfl
  cases call with
  | login draw credentials =>
      simp only [perform, login] at granted
      cases known : engine.authenticate credentials with
      | error error =>
          rw [known] at granted
          cases granted
      | ok userData =>
          simp only [known, Prod.map, Answer.granted.injEq] at granted
          exact mapped granted
  | refresh draw request =>
      simp only [perform, refresh] at granted
      cases admitted : engine.admitRefresh now request with
      | error error =>
          rw [admitted] at granted
          cases granted
      | ok token =>
          simp only [admitted, Prod.map, Answer.granted.injEq] at granted
          exact mapped granted
  | _ => cases granted

end SessionEngine

end SessionTokens
