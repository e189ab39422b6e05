import SessionTokens.Proofs.Session.Runs
import SessionTokens.Proofs.Session.Trust
import SessionTokens.Proofs.Token.Issue

/-!
# What a failed rotation costs

A rotation takes the record of its refresh token before it knows whether it can
sign the next pair.  What is refused before that step costs nothing.  What
fails after it costs the session of the token, and no other session.
-/

namespace SessionTokens

namespace SessionError

/-- Whether a request may be refused with an error before its refresh token is traded. -/
def isGateRefusal : SessionError → Bool
  | .missingRefreshToken => true
  | .token error => error.isRefusal
  | _ => false

/-- Whether the next pair of a session may fail to be signed with an error. -/
def isRenewalFailure : SessionError → Bool
  | .internal _ => true
  | .token error => error.isIssueFailure
  | _ => false

end SessionError

/-- Whether a refresh token was spent: its record was live, and is all that the store lost. -/
structure Spent (now : Instant) (token : String) (before after : Store) : Prop where
  live : ∃ record, before.memory.record? token = some record ∧ record.isExpiredAt now = false
  lost : after = { before with memory := before.memory.delete token }

namespace SessionEngine

variable {engine : SessionEngine} {now : Instant} {draw : Bytes} {token : String}
  {request : Request} {before after : Store} {error : SessionError}

theorem checkWindow_error {origin : Int} (failed : engine.checkWindow now origin = .error error) :
    error = .expiredToken := by
  rw [checkWindow] at failed
  split at failed
  · cases failed
    rfl
  · cases failed

theorem verifyAllowingExpiry_error (failed : engine.verifyAllowingExpiry now token = .error error) :
    error.isGateRefusal = true := by
  rw [verifyAllowingExpiry] at failed
  split at failed
  · cases failed
  · cases failed
  · next refusal unexpired refused =>
      cases failed
      obtain refusal | ⟨claims, same, -⟩ := Codec.verify_error refused
      · exact refusal
      · exact absurd same (unexpired claims)

theorem refreshableClaims_error (failed : engine.refreshableClaims now token = .error error) :
    error = .expiredToken ∨ error.isGateRefusal = true := by
  obtain failed | ⟨claims, -, failed⟩ := bind_eq_error.mp failed
  · exact .inr (verifyAllowingExpiry_error failed)
  obtain failed | ⟨-, -, failed⟩ := bind_eq_error.mp failed
  · rw [checkClaims] at failed
    split at failed
    · cases failed
      exact .inr rfl
    · exact .inl (checkWindow_error failed)
  · cases failed

theorem admitRefresh_error (failed : engine.admitRefresh now request = .error error) :
    error = .expiredToken ∨ error.isGateRefusal = true := by
  rw [admitRefresh] at failed
  obtain failed | ⟨refreshToken, -, failed⟩ := bind_eq_error.mp failed
  · obtain ⟨fault, -, same⟩ := mapError_eq_error.mp failed
    cases same
    exact .inr rfl
  split at failed
  · cases failed
  obtain failed | ⟨claims, -, failed⟩ := bind_eq_error.mp failed
  · exact refreshableClaims_error failed
  · cases failed

theorem signSession_error {seed : Bytes} {userData : Json} {origin : Option Int}
    (failed : engine.signSession now seed userData origin = .error error) :
    error.isRenewalFailure = true := by
  cases origin with
  | none =>
      rw [signSession, mapError_eq_error] at failed
      obtain ⟨fault, failed, rfl⟩ := failed
      exact Codec.isIssueFailure_of_issueFrom failed
  | some origin =>
      rw [signSession, mapError_eq_error] at failed
      obtain ⟨fault, failed, rfl⟩ := failed
      exact Codec.isIssueFailure_of_issueFrom failed

theorem newRefreshToken_error (failed : newRefreshToken draw = .error error) :
    error.isRenewalFailure = true := by
  rw [newRefreshToken] at failed
  split at failed
  · cases failed
    rfl
  · cases failed

theorem refreshExpiry_error {issuedAt : Instant}
    (failed : engine.refreshExpiry issuedAt = .error error) : error.isRenewalFailure = true := by
  rw [refreshExpiry] at failed
  split at failed
  · cases failed
    rfl
  split at failed
  · cases failed
    rfl
  · cases failed

theorem preparePair_error {userData : Json} {origin : Option Int}
    (failed : engine.preparePair now draw userData origin = .error error) :
    error.isRenewalFailure = true := by
  rw [preparePair] at failed
  obtain failed | ⟨issued, -, failed⟩ := bind_eq_error.mp failed
  · exact signSession_error failed
  obtain failed | ⟨refreshToken, -, failed⟩ := bind_eq_error.mp failed
  · exact newRefreshToken_error failed
  obtain failed | ⟨expiry, -, failed⟩ := bind_eq_error.mp failed
  · exact refreshExpiry_error failed
  · cases failed

theorem renew_error {record : RefreshRecord}
    (failed : engine.renew now draw record = .error error) :
    error = .expiredToken ∨ error.isRenewalFailure = true := by
  rw [renew] at failed
  split at failed
  · cases failed
    exact .inr rfl
  obtain failed | ⟨-, -, failed⟩ := bind_eq_error.mp failed
  · exact .inl (checkWindow_error failed)
  · exact .inr (preparePair_error failed)

/-- A refresh that fails was refused as a request, or its rotation failed. -/
theorem refresh_error
    (failed : engine.refresh now draw request before = (.error error, after)) :
    (engine.admitRefresh now request = .error error ∧ after = before) ∨
      ∃ token, engine.admitRefresh now request = .ok token ∧
        engine.rotate now draw token before = (.error error, after) := by
  rw [refresh] at failed
  cases admitted : engine.admitRefresh now request with
  | error refusal =>
      simp only [admitted] at failed
      cases failed
      exact .inl ⟨rfl, rfl⟩
  | ok token =>
      simp only [admitted] at failed
      cases ends : engine.rotate now draw token before with
      | mk outcome left =>
          rw [ends] at failed
          cases outcome with
          | ok pair => cases failed
          | error fault =>
              cases failed
              exact .inr ⟨token, rfl, ends⟩

/-- A rotation that fails although the session is alive has spent its token. -/
theorem spent_of_rotate (whole : before.faults = []) (known : error ≠ .refreshTokenNotFound)
    (inWindow : error ≠ .expiredToken)
    (failed : engine.rotate now draw token before = (.error error, after)) :
    error.isRenewalFailure = true ∧ Spent now token before after := by
  have rotation := @rotate_rotation engine _ whole now draw token
  rw [failed] at rotation
  cases rotation with
  | absent missing => exact absurd rfl known
  | outdated found expired => exact absurd rfl known
  | failed found live refused =>
      obtain late | failure := renew_error refused
      · exact absurd late inWindow
      · exact ⟨failure, ⟨⟨_, found, live⟩, rfl⟩⟩

end SessionEngine

/--
A rotation over a store in memory that fails although the session is alive
either failed before it took the record of its token, and the store is exactly
as it was, or has spent its token, and the store has lost its record alone.
The first are the refusals of a missing refresh token and of the access token
that a request carries; the second are the failures to sign the next pair.
-/
theorem failed_rotations_spend_at_most_their_token (engine : SessionEngine) (now : Instant)
    (draw : Bytes) {before : Store} (whole : before.faults = []) {error : SessionError}
    (known : error ≠ .refreshTokenNotFound) (inWindow : error ≠ .expiredToken) :
    (∀ token after, engine.refreshTokenPair now draw token before = (.error error, after) →
      (token = "" ∧ error = .missingRefreshToken ∧ after = before) ∨
        (error.isRenewalFailure = true ∧ Spent now token before after)) ∧
    ∀ request after, engine.refresh now draw request before = (.error error, after) →
      (engine.admitRefresh now request = .error error ∧ error.isGateRefusal = true ∧
          after = before) ∨
        ∃ token, engine.admitRefresh now request = .ok token ∧
          engine.refreshToken request = .ok token ∧ error.isRenewalFailure = true ∧
          Spent now token before after := by
  constructor
  · intro token after failed
    rw [SessionEngine.refreshTokenPair] at failed
    split at failed
    · next empty =>
        cases failed
        exact .inl ⟨empty, rfl, rfl⟩
    · exact .inr (SessionEngine.spent_of_rotate whole known inWindow failed)
  · intro request after failed
    obtain ⟨refused, same⟩ | ⟨token, admitted, failed⟩ := SessionEngine.refresh_error failed
    · obtain late | refusal := SessionEngine.admitRefresh_error refused
      · exact absurd late inWindow
      · exact .inl ⟨refused, refusal, same⟩
    · obtain ⟨failure, spent⟩ := SessionEngine.spent_of_rotate whole known inWindow failed
      exact .inr ⟨token, admitted, Call.refreshToken_of_admitRefresh admitted, failure, spent⟩

def corruptStore : Store where
  memory.records := [("corrupt", ⟨"corrupt", .null, ⟨1700000100, 0⟩, ⟨1700000000, 0⟩⟩)]

theorem failed_rotations_spend_at_most_their_token_corrupt :
    sampleEngine.refreshTokenPair ⟨1700000000, 0⟩ [] "corrupt" corruptStore =
        (.error (.internal .corruptRecord), {}) ∧
      Spent ⟨1700000000, 0⟩ "corrupt" corruptStore {} := by
  have failed : sampleEngine.refreshTokenPair ⟨1700000000, 0⟩ [] "corrupt" corruptStore =
      (.error (.internal .corruptRecord), {}) := by decide +kernel
  obtain ⟨direct, -⟩ := @failed_rotations_spend_at_most_their_token sampleEngine ⟨1700000000, 0⟩
    [] corruptStore rfl (.internal .corruptRecord) nofun nofun
  obtain ⟨empty, -, -⟩ | ⟨-, spent⟩ := direct _ _ failed
  · exact absurd empty (by decide)
  · exact ⟨failed, spent⟩

/-- An engine whose refresh tokens live a little longer than its access tokens. -/
def lateEngine : SessionEngine :=
  { sampleEngine with config := { refreshLifetime := Span.ofSeconds 4000 } }

def lateStore : Store :=
  (lateEngine.generateTokenPair ⟨8210266871799, 0⟩ (sampleDraw 0) (.string "alice") {}).2

theorem late_rotation_spends_its_token :
    lateStore.faults = [] ∧ lateStore.memory.count ⟨8210266873799, 0⟩ = 1 ∧ lateStore ≠ {} ∧
      lateEngine.refreshTokenPair ⟨8210266873799, 0⟩ (sampleDraw 1) (refreshTokenOf (sampleDraw 0))
        lateStore = (.error (.token (.signing .expiry)), {}) := by
  decide +kernel

end SessionTokens
