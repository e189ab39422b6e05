import SessionTokens.Proofs.Session.FailedRotation
import SessionTokens.Session.Interleaving

/-!
# The gate of a refresh

A refresh of a request checks the access token of the request, if there is one,
and then trades its refresh token.  The check is the one that can be asked for
on its own, and the trade is the one of the refresh token alone.  What the check
refuses is over before anything is drawn or taken.
-/

namespace SessionTokens

/-- Whether a refresh of a request is refused with an error before anything is drawn or taken. -/
structure RefusedAtGate (engine : SessionEngine) (now : Instant) (request : Request)
    (error : SessionError) : Prop where
  /-- Whatever may be drawn, the answer is the error, and the store is as it was. -/
  unchanged : ∀ draw store, engine.refresh now draw request store = (.error error, store)
  /-- The call is over at its first step; a refresh token would be drawn at a later one. -/
  undrawn : ∀ draw store,
    engine.enter now store (.refresh draw request) = (.answered (.granted (.error error)), store)

/-- A refresh of a request in terms of its refresh token and of the check of its access token. -/
structure RefreshesInParts (engine : SessionEngine) (now : Instant) (request : Request) :
    Prop where
  missing : (∀ token, engine.refreshToken request ≠ .ok token) →
    RefusedAtGate engine now request .missingRefreshToken
  refused : ∀ token error, engine.refreshToken request = .ok token →
    engine.checkRefreshable now request = .error error → (∀ fault, error ≠ .extract fault) →
      RefusedAtGate engine now request error
  /-- The check succeeds, or there is no access token to be found. -/
  admitted : ∀ token, engine.refreshToken request = .ok token →
    (∀ error, engine.checkRefreshable now request = .error error →
      ∃ fault, error = .extract fault) →
      ∀ draw store, engine.refresh now draw request store =
        ((engine.refreshTokenPair now draw token store).1.map engine.grant,
          (engine.refreshTokenPair now draw token store).2)

namespace SessionEngine

variable {engine : SessionEngine} {now : Instant} {request : Request} {token : String}
  {error : SessionError}

theorem refusedAtGate_of_admitRefresh (refused : engine.admitRefresh now request = .error error) :
    RefusedAtGate engine now request error where
  unchanged draw store := refresh_of_refused draw store refused
  undrawn draw store := by rw [enter, refused]

/-- All complaints of the lookup of a refresh token are one. -/
theorem refreshToken_error (failed : engine.refreshToken request = .error error) :
    error = .missingRefreshToken := by
  obtain ⟨fault, -, same⟩ := mapError_eq_error.mp failed
  exact same.symm

theorem admitRefresh_of_missing (missing : engine.refreshToken request = .error error) :
    engine.admitRefresh now request = .error error := by
  rw [admitRefresh, missing]
  rfl

/-- The gate is the check of the access token, except that there need not be one. -/
theorem admitRefresh_of_refreshToken (found : engine.refreshToken request = .ok token) :
    engine.admitRefresh now request =
      match engine.checkRefreshable now request with
      | .ok _ | .error (.extract _) => .ok token
      | .error error => .error error := by
  rw [admitRefresh, found, checkRefreshable]
  cases carried : engine.accessToken request with
  | error error =>
      obtain ⟨fault, -, rfl⟩ := mapError_eq_error.mp carried
      rfl
  | ok accessToken =>
      -- Past the lookup no complaint is one of the lookup.
      cases checked : engine.refreshableClaims now accessToken with
      | ok claims => simp [bind, Except.bind, checked, pure, Except.pure]
      | error error =>
          obtain rfl | refusal := refreshableClaims_error checked
          · simp [bind, Except.bind, checked]
          · cases error with
            | extract fault => cases refusal
            | _ => simp [bind, Except.bind, checked]

/-- Beyond the gate a refresh is the trade of its refresh token. -/
theorem refresh_of_admitRefresh (admitted : engine.admitRefresh now request = .ok token)
    (draw : Bytes) (store : Store) :
    engine.refresh now draw request store =
      ((engine.refreshTokenPair now draw token store).1.map engine.grant,
        (engine.refreshTokenPair now draw token store).2) := by
  have filled : token ≠ "" :=
    Call.refreshToken_ne (Call.refreshToken_of_admitRefresh admitted)
  rw [refresh, admitted, refreshTokenPair, if_neg filled]

end SessionEngine

/--
For every engine, clock reading and request a refresh is its gate followed by
the trade of the refresh token: without a refresh token it is refused as such,
a refusal of the access token is its own, and otherwise it gives the pair and
leaves the store that trading the token gives and leaves.  The refusals leave
the store alone, and nothing is drawn for them.
-/
theorem refresh_is_gate_then_trade (engine : SessionEngine) (now : Instant) (request : Request) :
    RefreshesInParts engine now request where
  missing absent := by
    cases found : engine.refreshToken request with
    | ok token => exact absurd found (absent token)
    | error error =>
        cases SessionEngine.refreshToken_error found
        exact SessionEngine.refusedAtGate_of_admitRefresh
          (SessionEngine.admitRefresh_of_missing found)
  refused token error found failed other := by
    apply SessionEngine.refusedAtGate_of_admitRefresh
    rw [SessionEngine.admitRefresh_of_refreshToken found, failed]
    cases error with
    | extract fault => exact absurd rfl (other fault)
    | _ => rfl
  admitted token found passes draw store := by
    apply SessionEngine.refresh_of_admitRefresh
    rw [SessionEngine.admitRefresh_of_refreshToken found]
    cases checked : engine.checkRefreshable now request with
    | ok claims => rfl
    | error error =>
        obtain ⟨fault, rfl⟩ := passes error checked
        rfl

/-- A store with one session, whose refresh token was drawn from zeros. -/
def singleStore : Store :=
  (sampleEngine.generateTokenPair ⟨1700000000, 0⟩ (sampleDraw 0) (.string "alice") {}).2

/-- A forged access token is refused, and without it the same refresh token is traded. -/
theorem refresh_is_gate_then_trade_forged :
    RefusedAtGate sampleEngine ⟨1700000060, 0⟩ (sampleRequest none none) .missingRefreshToken ∧
      RefusedAtGate sampleEngine ⟨1700000060, 0⟩
        (sampleRequest (some (refreshTokenOf (sampleDraw 0))) (some "forged"))
        (.token (.invalid (.header .segments))) ∧
      ∃ pair after, sampleEngine.refreshTokenPair ⟨1700000060, 0⟩ (sampleDraw 1)
          (refreshTokenOf (sampleDraw 0)) singleStore = (.ok pair, after) ∧
        sampleEngine.refresh ⟨1700000060, 0⟩ (sampleDraw 1)
          (sampleRequest (some (refreshTokenOf (sampleDraw 0))) none) singleStore =
            (.ok (sampleEngine.grant pair), after) := by
  let token := refreshTokenOf (sampleDraw 0)
  have absent : sampleEngine.refreshToken (sampleRequest none none) =
      .error .missingRefreshToken := by decide +kernel
  have carried : sampleEngine.refreshToken (sampleRequest (some token) (some "forged")) =
      .ok token := by decide +kernel
  have alone : sampleEngine.refreshToken (sampleRequest (some token) none) = .ok token := by
    decide +kernel
  have forged : sampleEngine.checkRefreshable ⟨1700000060, 0⟩
      (sampleRequest (some token) (some "forged")) =
        .error (.token (.invalid (.header .segments))) := by decide +kernel
  have unchecked : sampleEngine.checkRefreshable ⟨1700000060, 0⟩
      (sampleRequest (some token) none) = .error (.extract .emptyHeader) := by decide +kernel
  refine ⟨?_, ?_, ?_⟩
  · apply (refresh_is_gate_then_trade sampleEngine _ _).missing
    intro token found
    cases absent.symm.trans found
  · exact (refresh_is_gate_then_trade sampleEngine _ _).refused token _ carried forged nofun
  · have passes (error : SessionError) (failed : sampleEngine.checkRefreshable ⟨1700000060, 0⟩
        (sampleRequest (some token) none) = .error error) : ∃ fault, error = .extract fault := by
      cases unchecked.symm.trans failed
      exact ⟨_, rfl⟩
    have admitted := (refresh_is_gate_then_trade sampleEngine ⟨1700000060, 0⟩ _).admitted token alone
      passes (sampleDraw 1) singleStore
    obtain ⟨pair, after, traded⟩ := exists_eq_ok
      (show (sampleEngine.refreshTokenPair ⟨1700000060, 0⟩ (sampleDraw 1) token
        singleStore).1.toOption.isSome = true by decide +kernel)
    rw [traded] at admitted
    exact ⟨pair, after, traded, admitted⟩

end SessionTokens
