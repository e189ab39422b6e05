import SessionTokens.Proofs.Outcome
import SessionTokens.Proofs.Token.Issue
import SessionTokens.Session.Rotation

/-!
# Signed pairs

A pair is signed over the claims of the user, under which the second of the
expiry and the first second of the session replace what was given.  Both fit a
word, because the expiry lies in the calendar.
-/

namespace SessionTokens

/-- What is known of a pair that was signed in a session that began in a second. -/
structure Prepared (engine : SessionEngine) (now : Instant) (userData : Json) (origin : Int)
    (pending : PendingPair) : Prop where
  lifetime : (engine.callbacks.lifetime (engine.callbacks.payload userData)).nanos ≤
    Span.longestMove.nanos
  inside : pending.pair.expiresAt.InCalendar
  expiry : pending.pair.expiresAt.seconds =
    now.seconds + (engine.callbacks.lifetime (engine.callbacks.payload userData)).seconds
  signed : engine.codec.Signs
    (engine.codec.timed (engine.callbacks.payload userData) pending.pair.expiresAt origin)
    pending.pair.accessToken
  record : pending.record = ⟨userData, origin⟩

namespace SessionEngine

variable {engine : SessionEngine} {now : Instant} {draw : Bytes} {userData : Json}
  {pending : PendingPair}

theorem signSession_ok {seed : Bytes} {origin : Option Int} {issued : IssuedToken}
    (signed : engine.signSession now seed userData origin = .ok issued) :
    engine.codec.issueFrom now (engine.callbacks.payload userData)
      (engine.callbacks.lifetime (engine.callbacks.payload userData))
      (origin.getD now.seconds) seed = .ok issued := by
  cases origin with
  | none =>
      rw [signSession, mapError_eq_ok] at signed
      exact signed
  | some origin =>
      rw [signSession, mapError_eq_ok] at signed
      exact signed

theorem newRefreshToken_eq_ok {token : String} :
    newRefreshToken draw = .ok token ↔
      refreshTokenSize ≤ draw.length ∧ refreshTokenOf draw = token := by
  rw [newRefreshToken]
  split
  · next short => simp [Nat.not_le.mpr short]
  · next enough => simp [Nat.le_of_not_lt enough]

theorem refreshExpiry_eq_ok {issuedAt expiry : Instant} :
    engine.refreshExpiry issuedAt = .ok expiry ↔
      engine.config.refreshLifetime.nanos ≤ Span.longestMove.nanos ∧
        issuedAt.later? engine.config.refreshLifetime = some expiry := by
  rw [refreshExpiry]
  split
  · next long => simp [Nat.not_le.mpr long]
  · next short =>
      cases issuedAt.later? engine.config.refreshLifetime with
      | none => simp
      | some later => simp [Nat.le_of_not_lt short]

/-- A pair is prepared in three steps: it is signed, its refresh token is made, and dated. -/
theorem preparePair_eq_ok {origin : Option Int} :
    engine.preparePair now draw userData origin = .ok pending ↔
      ∃ issued expiry,
        engine.signSession now (draw.drop refreshTokenSize) userData origin = .ok issued ∧
        refreshTokenSize ≤ draw.length ∧ engine.refreshExpiry issued.issuedAt = .ok expiry ∧
        pending = {
          pair := ⟨issued.token, TokenPair.bearer, refreshTokenOf draw, issued.expiresAt,
            issued.issuedAt⟩
          record := ⟨userData, issued.origin⟩
          expiry } := by
  simp only [preparePair, bind_eq_ok, newRefreshToken_eq_ok]
  constructor
  · rintro ⟨issued, signed, _, ⟨enough, rfl⟩, expiry, dated, same⟩
    exact ⟨issued, expiry, signed, enough, dated, (Except.ok.inj same).symm⟩
  · rintro ⟨issued, expiry, signed, enough, dated, rfl⟩
    exact ⟨issued, signed, _, ⟨enough, rfl⟩, expiry, dated, rfl⟩

/-- A pair carries a token that was issued for it. -/
theorem issuedFrom_of_preparePair {origin : Option Int}
    (prepared : engine.preparePair now draw userData origin = .ok pending) :
    ∃ issued, IssuedFrom engine.codec now (engine.callbacks.payload userData)
        (engine.callbacks.lifetime (engine.callbacks.payload userData))
        (origin.getD now.seconds) issued ∧
      pending.pair.accessToken = issued.token ∧ pending.pair.expiresAt = issued.expiresAt ∧
      pending.record = ⟨userData, issued.origin⟩ := by
  obtain ⟨issued, expiry, signed, -, -, rfl⟩ := preparePair_eq_ok.mp prepared
  exact ⟨issued, Codec.issuedFrom_of_issueFrom (signSession_ok signed), rfl, rfl, rfl⟩

theorem preparePair_ok {origin : Option Int}
    (prepared : engine.preparePair now draw userData origin = .ok pending) :
    Prepared engine now userData (origin.getD now.seconds) pending := by
  obtain ⟨issued, dated, token, expiresAt, record⟩ := issuedFrom_of_preparePair prepared
  rw [dated.sameOrigin] at record
  exact
    { lifetime := dated.short
      inside := expiresAt ▸ dated.inside
      expiry := expiresAt ▸ dated.expiry
      signed := by
        rw [token, expiresAt, ← dated.sameClaims]
        exact dated.encoded
      record }

/-- The refresh token of a pair is what was drawn for it, and enough was drawn. -/
theorem refreshToken_of_preparePair {origin : Option Int}
    (prepared : engine.preparePair now draw userData origin = .ok pending) :
    pending.pair.refreshToken = refreshTokenOf draw ∧ refreshTokenSize ≤ draw.length := by
  obtain ⟨issued, expiry, -, enough, -, rfl⟩ := preparePair_eq_ok.mp prepared
  exact ⟨rfl, enough⟩

/-- A pair is issued at the start of the second, and its refresh token lives from there. -/
theorem expiry_of_preparePair {origin : Option Int}
    (prepared : engine.preparePair now draw userData origin = .ok pending) :
    pending.pair.createdAt = now.floor ∧
      now.floor.later? engine.config.refreshLifetime = some pending.expiry := by
  obtain ⟨issued, expiry, signed, -, dated, rfl⟩ := preparePair_eq_ok.mp prepared
  have issuedAt := Codec.issuedAt_of_issueFrom (signSession_ok signed)
  exact ⟨issuedAt, issuedAt ▸ (refreshExpiry_eq_ok.mp dated).2⟩

/-- A pair that was generated, over whatever store, was prepared. -/
theorem preparePair_of_generateTokenPair {before after : Store} {pair : TokenPair}
    (generated : engine.generateTokenPair now draw userData before = (.ok pair, after)) :
    ∃ pending, engine.preparePair now draw userData none = .ok pending ∧ pair = pending.pair := by
  rw [generateTokenPair, issuePair] at generated
  cases prepared : engine.preparePair now draw userData none with
  | error error =>
      rw [prepared] at generated
      cases generated
  | ok pending =>
      rw [prepared] at generated
      simp only [PendingPair.deposit] at generated
      split at generated
      · cases generated
        exact ⟨pending, rfl, rfl⟩
      · cases generated

end SessionEngine

namespace Prepared

variable {engine : SessionEngine} {now : Instant} {userData : Json} {origin : Int}
  {pending : PendingPair}

theorem isWord_expiry (prepared : Prepared engine now userData origin pending) :
    Json.IsWord pending.pair.expiresAt.seconds :=
  .of_signed prepared.inside.signed_bounds.1 prepared.inside.signed_bounds.2

theorem now_bounds (prepared : Prepared engine now userData origin pending) :
    Decimal.minInt64 ≤ now.seconds ∧ now.seconds ≤ Decimal.maxInt64 :=
  prepared.inside.signed_bounds_of_moved prepared.lifetime prepared.expiry

theorem isWord_now (prepared : Prepared engine now userData origin pending) :
    Json.IsWord now.seconds :=
  .of_signed prepared.now_bounds.1 prepared.now_bounds.2

end Prepared

end SessionTokens
