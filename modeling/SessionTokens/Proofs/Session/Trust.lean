import SessionTokens.Proofs.Session.Runs
import SessionTokens.Proofs.Token.Authentic

/-!
# Only signed claims are trusted

An engine looks into access tokens when it parses one, validates a request,
checks whether a session may be refreshed, and refreshes.  It hands on and acts
on the claims of authentic tokens only, expired or not.  A token that is not
authentic is refused before its expiry, its identity or the store is looked at.
-/

namespace SessionTokens

open Token (Authentic SignedUnder)

/-- Whether an engine uses the claims of a token only if the token was signed for them. -/
structure TrustsOnlySigned (engine : SessionEngine) (now : Instant) : Prop where
  verified : ∀ token claims, engine.codec.verify now token = .ok claims →
    Authentic engine.keys token claims
  expired : ∀ token claims, engine.codec.verify now token = .error (.expired claims) →
    Authentic engine.keys token claims
  parsed : ∀ token claims, engine.parseToken now token = .ok claims →
    Authentic engine.keys token claims
  refreshable : ∀ request claims, engine.checkRefreshable now request = .ok claims →
    ∃ token, engine.accessToken request = .ok token ∧ Authentic engine.keys token claims
  validated : ∀ request valid, engine.validate now request = .ok valid →
    engine.accessToken request = .ok valid.token ∧
      Authentic engine.keys valid.token valid.claims ∧
      valid.identity = engine.callbacks.identity valid.claims
  /-- The authorizer that refused a request was asked about signed claims. -/
  forbidden : ∀ request, engine.validate now request = .error .forbidden →
    ∃ token claims, engine.accessToken request = .ok token ∧ Authentic engine.keys token claims ∧
      engine.callbacks.authorizer (engine.callbacks.identity claims) request = false
  /-- An access token that a refresh found and did not refuse was signed. -/
  admitted : ∀ request token, engine.accessToken request = .ok token →
    ∀ refreshToken, engine.admitRefresh now request = .ok refreshToken →
      ∃ claims, Authentic engine.keys token claims

/-- Whether an engine refuses tokens that were not signed, and for the right reason. -/
structure RefusesUnsigned (engine : SessionEngine) (now : Instant) : Prop where
  mismatched : ∀ token header, Codec.readHeader token = .ok header →
    header.algorithm ≠ .known engine.keys.algorithm →
      engine.codec.verify now token =
        .error (.algorithmMismatch engine.keys.algorithm.name header.algorithm.name)
  missigned : ∀ token header key, Codec.readHeader token = .ok header →
    header.algorithm = .known engine.keys.algorithm →
    engine.keys.verificationKey header = .ok key →
    ¬ SignedUnder engine.keys.algorithm key token →
      ∃ fault, engine.codec.verify now token = .error (.invalid fault)
  /-- The clock does not matter, and the refusal is never that the token is expired. -/
  timeless : ∀ token, (∀ claims, ¬ Authentic engine.keys token claims) →
    ∃ error, (∀ claims, error ≠ .expired claims) ∧
      ∀ later, engine.codec.verify later token = .error error
  /-- Neither callbacks nor the store have a say about a request with such a token. -/
  unheard : ∀ request token, engine.accessToken request = .ok token →
    (∀ claims, ¬ Authentic engine.keys token claims) →
      ∃ error, engine.checkRefreshable now request = .error (.token error) ∧
        (∀ callbacks : Callbacks, ({ engine with callbacks } : SessionEngine).validate now request =
          .error (.token error)) ∧
        ∀ draw store, ∃ refusal, engine.admitRefresh now request = .error refusal ∧
          engine.refresh now draw request store = (.error refusal, store)

namespace SessionEngine

variable {engine : SessionEngine} {now : Instant} {token : String} {claims : Claims}
  {request : Request}

theorem authentic_of_parseToken (parsed : engine.parseToken now token = .ok claims) :
    Authentic engine.keys token claims :=
  Codec.authentic_of_authenticate (Codec.verify_ok (mapError_eq_ok.mp parsed)).1

theorem authentic_of_verifyAllowingExpiry
    (verified : engine.verifyAllowingExpiry now token = .ok claims) :
    Authentic engine.keys token claims := by
  rw [verifyAllowingExpiry] at verified
  cases outcome : engine.codec.verify now token with
  | ok held =>
      rw [outcome] at verified
      cases verified
      exact Codec.authentic_of_authenticate (Codec.verify_ok outcome).1
  | error error =>
      rw [outcome] at verified
      cases error with
      | expired held =>
          cases verified
          exact Codec.authentic_of_authenticate (Codec.verify_expired outcome)
      | _ => cases verified

theorem authentic_of_refreshableClaims
    (refreshable : engine.refreshableClaims now token = .ok claims) :
    Authentic engine.keys token claims := by
  obtain ⟨held, verified, refreshable⟩ := bind_eq_ok.mp refreshable
  obtain ⟨-, -, same⟩ := bind_eq_ok.mp refreshable
  cases same
  exact authentic_of_verifyAllowingExpiry verified

theorem authentic_of_validate {valid : ValidatedRequest}
    (validated : engine.validate now request = .ok valid) :
    engine.accessToken request = .ok valid.token ∧
      Authentic engine.keys valid.token valid.claims ∧
      valid.identity = engine.callbacks.identity valid.claims := by
  rw [validate] at validated
  obtain ⟨token, found, validated⟩ := bind_eq_ok.mp validated
  obtain ⟨claims, parsed, validated⟩ := bind_eq_ok.mp validated
  obtain ⟨-, same⟩ := check_eq_ok.mp validated
  cases same
  exact ⟨found, authentic_of_parseToken parsed, rfl⟩

theorem authentic_of_forbidden (refused : engine.validate now request = .error .forbidden) :
    ∃ token claims, engine.accessToken request = .ok token ∧ Authentic engine.keys token claims ∧
      engine.callbacks.authorizer (engine.callbacks.identity claims) request = false := by
  rw [validate] at refused
  obtain refused | ⟨token, found, refused⟩ := bind_eq_error.mp refused
  · obtain ⟨fault, -, same⟩ := mapError_eq_error.mp refused
    cases same
  obtain refused | ⟨claims, parsed, refused⟩ := bind_eq_error.mp refused
  · obtain ⟨fault, -, same⟩ := mapError_eq_error.mp refused
    cases same
  obtain ⟨unwelcome, -⟩ | ⟨-, same⟩ := check_eq_error.mp refused
  · exact ⟨token, claims, found, authentic_of_parseToken parsed, by simpa using unwelcome⟩
  · cases same

theorem authentic_of_admitRefresh {refreshToken : String}
    (found : engine.accessToken request = .ok token)
    (admitted : engine.admitRefresh now request = .ok refreshToken) :
    ∃ claims, Authentic engine.keys token claims := by
  rw [admitRefresh] at admitted
  obtain ⟨presented, -, admitted⟩ := bind_eq_ok.mp admitted
  rw [found] at admitted
  obtain ⟨claims, refreshable, -⟩ := bind_eq_ok.mp admitted
  exact ⟨claims, authentic_of_refreshableClaims refreshable⟩

theorem exists_refusal (unsigned : ∀ claims, ¬ Authentic engine.keys token claims) :
    ∃ error, engine.codec.authenticate token = .error error := by
  cases outcome : engine.codec.authenticate token with
  | error error => exact ⟨error, rfl⟩
  | ok claims => exact absurd (Codec.authentic_of_authenticate outcome) (unsigned claims)

theorem verifyAllowingExpiry_of_refused {error : TokenError}
    (refused : engine.codec.authenticate token = .error error) :
    engine.verifyAllowingExpiry now token = .error (.token error) := by
  rw [verifyAllowingExpiry, Codec.verify_of_refused refused]
  cases error with
  | expired claims => exact absurd refused Codec.authenticate_ne_expired
  | _ => rfl

theorem refresh_of_refused {refusal : SessionError} (draw : Bytes) (store : Store)
    (refused : engine.admitRefresh now request = .error refusal) :
    engine.refresh now draw request store = (.error refusal, store) := by
  rw [refresh, refused]

theorem trustsOnlySigned (engine : SessionEngine) (now : Instant) :
    TrustsOnlySigned engine now where
  verified _ _ verified := Codec.authentic_of_authenticate (Codec.verify_ok verified).1
  expired _ _ refused := Codec.authentic_of_authenticate (Codec.verify_expired refused)
  parsed _ _ parsed := authentic_of_parseToken parsed
  refreshable request claims refreshable := by
    obtain ⟨token, found, refreshable⟩ := bind_eq_ok.mp refreshable
    exact ⟨token, found, authentic_of_refreshableClaims refreshable⟩
  validated _ _ validated := authentic_of_validate validated
  forbidden _ refused := authentic_of_forbidden refused
  admitted _ _ found _ admitted := authentic_of_admitRefresh found admitted

theorem refusesUnsigned (engine : SessionEngine) (now : Instant) :
    RefusesUnsigned engine now where
  mismatched token header read other :=
    Codec.verify_of_refused (Codec.authenticate_of_mismatch read other)
  missigned token header key read named resolved missigned := by
    obtain ⟨fault, refused⟩ :=
      @Codec.authenticate_of_missigned engine.codec _ _ _ read named resolved missigned
    exact ⟨fault, Codec.verify_of_refused refused⟩
  timeless token unsigned := by
    obtain ⟨error, refused⟩ := exists_refusal unsigned
    refine ⟨error, ?_, fun later => Codec.verify_of_refused refused⟩
    rintro claims rfl
    exact Codec.authenticate_ne_expired refused
  unheard request token found unsigned := by
    obtain ⟨error, refused⟩ := exists_refusal unsigned
    refine ⟨error, ?_, fun callbacks => ?_, fun draw store => ?_⟩
    · rw [checkRefreshable, found]
      change engine.refreshableClaims now token = _
      rw [refreshableClaims, verifyAllowingExpiry_of_refused refused]
      rfl
    · have sameToken : ({ engine with callbacks } : SessionEngine).accessToken request =
          .ok token := found
      have parsed : ({ engine with callbacks } : SessionEngine).parseToken now token =
          .error (.token error) := by
        rw [parseToken]
        exact mapError_eq_error.mpr ⟨error, Codec.verify_of_refused refused, rfl⟩
      rw [validate]
      exact bind_eq_error.mpr (.inr ⟨token, sameToken, bind_eq_error.mpr (.inl parsed)⟩)
    · cases admitted : engine.admitRefresh now request with
      | ok refreshToken =>
          obtain ⟨claims, authentic⟩ := authentic_of_admitRefresh found admitted
          exact absurd authentic (unsigned claims)
      | error refusal => exact ⟨refusal, rfl, refresh_of_refused draw store admitted⟩

end SessionEngine

/--
Whatever the keys, the token, the request and the clock are: all claims that an
engine hands on or acts on come from tokens that were signed for them under the
key of their own header, and a token that was not signed is refused as such.
-/
theorem only_signed_claims_are_used (engine : SessionEngine) (now : Instant) :
    TrustsOnlySigned engine now ∧ RefusesUnsigned engine now :=
  ⟨engine.trustsOnlySigned now, engine.refusesUnsigned now⟩

/-- A token with an expiry alone, signed with the key of the sample engine. -/
def staleToken : String :=
  "eyJ0eXAiOiJKV1QiLCJhbGciOiJIUzI1NiJ9.eyJleHAiOjE3MDAwMDM2MDB9." ++
    "7e98hVI5djOsujAkOu6zCgfkknfyOakD_IIj6BOApv0"

def confusedToken : String :=
  "eyJ0eXAiOiJKV1QiLCJhbGciOiJIUzUxMiJ9.eyJleHAiOjE3MDAwMDM2MDB9." ++
    "7e98hVI5djOsujAkOu6zCgfkknfyOakD_IIj6BOApv0"

theorem only_signed_claims_are_used_stale :
    sampleEngine.codec.verify ⟨1700003600, 0⟩ staleToken =
        .error (.expired (.ofPairs [("exp", .int 1700003600)])) ∧
      Authentic sampleEngine.keys staleToken (.ofPairs [("exp", .int 1700003600)]) ∧
      ∃ header, Codec.readHeader confusedToken = .ok header ∧
        sampleEngine.codec.verify ⟨1700003600, 0⟩ confusedToken =
          .error (.algorithmMismatch "HS256" "HS512") := by
  obtain ⟨trusts, refuses⟩ := only_signed_claims_are_used sampleEngine ⟨1700003600, 0⟩
  have expired : sampleEngine.codec.verify ⟨1700003600, 0⟩ staleToken =
      .error (.expired (.ofPairs [("exp", .int 1700003600)])) := by decide +kernel
  have read : Codec.readHeader confusedToken =
      .ok ⟨.known .hs512, none, [("typ", .string "JWT")]⟩ := by decide +kernel
  exact ⟨expired, trusts.expired _ _ expired, _, read, refuses.mismatched _ _ read (by decide)⟩

end SessionTokens
