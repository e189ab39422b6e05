import SessionTokens.Proofs.Session.Ownership
import SessionTokens.Proofs.Token.Authentic

/-!
# The lifetime of a session

Each rotation starts a new expiry, but only inside the window of the session.
With one timeout for all tokens, no access token of a session outlives the
beginning of the session by more than the window and the timeout.
-/

namespace SessionTokens

/-- The second from which on no access token of a session is valid. -/
def OpenedSession.bound (engine : SessionEngine) (timeout : Span) (session : OpenedSession) : Int :=
  session.start.seconds + engine.config.maxRefresh.seconds + timeout.seconds

/-- Whether an access token expires by a second and is refused from then on. -/
structure ExpiresBy (engine : SessionEngine) (bound : Int) (token : String) : Prop where
  signed : ∃ claims expiry, engine.codec.Signs claims token ∧
    claims.get? engine.config.expiryField = some (.int expiry) ∧ expiry ≤ bound
  parsed : ∀ now : Instant, bound ≤ now.seconds → ∀ claims, engine.parseToken now token ≠ .ok claims
  validated : ∀ now : Instant, bound ≤ now.seconds → ∀ request,
    engine.accessToken request = .ok token → ∀ valid, engine.validate now request ≠ .ok valid

/-- Whether the access token of an event ends with its session. -/
def EndsInTime (engine : SessionEngine) (timeout : Span) (event : Event) (earlier : List Event) :
    Prop :=
  ∀ pair, event.answer.pair? = some pair →
    ∃ session, event.session? engine (engine.sessionOf? earlier) = some session ∧
      ExpiresBy engine (session.bound engine timeout) pair.accessToken

variable {engine : SessionEngine}

/-- A token is refused from the second of its expiry on. -/
theorem Prepared.le_of_verify {now later : Instant} {userData : Json} {origin : Int}
    {pending : PendingPair} (prepared : Prepared engine now userData origin pending)
    (differs : engine.config.expiryField ≠ Claims.originName) {claims : Claims}
    (verified : engine.codec.verify later pending.pair.accessToken = .ok claims) :
    later.seconds < pending.pair.expiresAt.seconds := by
  obtain ⟨accepted, expiry, read, inTime⟩ := Codec.verify_ok verified
  have held := Codec.heldClaims?_of_authenticate accepted
  rw [Codec.heldClaims?_of_signs prepared.signed] at held
  have present := Claims.get?_of_reread? prepared.isWord_expiry
    (engine.codec.get?_expiry_timed differs _ _ _) held
  have bounds := prepared.inside.signed_bounds
  rw [Codec.expiry_int present bounds.1 bounds.2] at read
  cases read
  exact inTime

theorem SessionEngine.parseToken_of_validate {now : Instant} {request : Request} {token : String}
    (extracted : engine.accessToken request = .ok token) {valid : ValidatedRequest}
    (validated : engine.validate now request = .ok valid) :
    ∃ claims, engine.parseToken now token = .ok claims := by
  rw [validate] at validated
  obtain ⟨found, same, validated⟩ := bind_eq_ok.mp validated
  cases extracted.symm.trans same
  obtain ⟨claims, parsed, -⟩ := bind_eq_ok.mp validated
  exact ⟨claims, parsed⟩

theorem HandedOut.expiresBy (differs : engine.config.expiryField ≠ Claims.originName)
    {timeout : Span} (fixed : ∀ claims, engine.callbacks.lifetime claims = timeout)
    {session : OpenedSession} {now : Instant} {pair : TokenPair}
    (handed : HandedOut engine session now pair) :
    ExpiresBy engine (session.bound engine timeout) pair.accessToken := by
  obtain ⟨pending, prepared, rfl⟩ := handed.prepared
  -- The window bounds the instant of the signing, and the timeout the expiry after it.
  have inTime : pending.pair.expiresAt.seconds ≤ session.bound engine timeout := by
    have expiry := prepared.expiry
    have window := handed.window
    rw [fixed] at expiry
    rw [OpenedSession.bound]
    omega
  have refused (later : Instant) (passed : session.bound engine timeout ≤ later.seconds)
      (claims : Claims) : engine.parseToken later pending.pair.accessToken ≠ .ok claims := by
    intro parsed
    have early := prepared.le_of_verify differs (mapError_eq_ok.mp parsed)
    omega
  refine ⟨⟨_, _, prepared.signed, engine.codec.get?_expiry_timed differs _ _ _, inTime⟩,
    refused, ?_⟩
  intro later passed request extracted valid validated
  obtain ⟨claims, parsed⟩ := SessionEngine.parseToken_of_validate extracted validated
  exact refused later passed claims parsed

/--
With one timeout for all tokens, every access token of every run expires by the
second in which its session began, plus the window, plus the timeout, and from
then on neither parsing nor validation accepts it.  A call reads its clock once: a
service that reads it for the window and again for the signature may exceed the
bound by what passes between the two.
-/
theorem session_lifetime_is_bounded (engine : SessionEngine) (timeout : Span)
    (fixed : ∀ claims, engine.callbacks.lifetime claims = timeout)
    (differs : engine.config.expiryField ≠ Claims.originName) (start : Instant)
    (calls : List Call) :
    Throughout (EndsInTime engine timeout) (engine.run start calls).history := by
  refine (engine.run_belongs start calls).1.mono fun event earlier belong pair answer => ?_
  obtain ⟨session, owner, handed⟩ := belong pair answer
  exact ⟨session, owner, handed.expiresBy differs fixed⟩

/-- A session refreshed in the last second of its window, under a rewound clock, and too late. -/
def lateRun : EngineRun :=
  sampleEngine.run ⟨1700000000, 1⟩
    [.generateTokenPair (sampleDraw 0) (.string "alice"),
      .setClock ⟨1700086400, 999999999⟩,
      .refreshTokenPair (sampleDraw 1) (refreshTokenOf (sampleDraw 0)),
      .setClock ⟨1699999000, 0⟩,
      .refreshTokenPair (sampleDraw 2) (refreshTokenOf (sampleDraw 1)),
      .setClock ⟨1700086401, 0⟩,
      .refreshTokenPair (sampleDraw 3) (refreshTokenOf (sampleDraw 2))]

theorem session_lifetime_is_bounded_late :
    (∀ claims, sampleEngine.callbacks.lifetime claims = Span.ofSeconds 3600) ∧
      sampleEngine.config.expiryField ≠ Claims.originName ∧
      lateRun.history.countP (·.answer.pair?.isSome) = 3 ∧
      Throughout (EndsInTime sampleEngine (Span.ofSeconds 3600)) lateRun.history := by
  have fixed (claims : Claims) :
      sampleEngine.callbacks.lifetime claims = Span.ofSeconds 3600 := rfl
  have differs : sampleEngine.config.expiryField ≠ Claims.originName := by decide
  refine ⟨fixed, differs, by decide +kernel, ?_⟩
  exact session_lifetime_is_bounded sampleEngine (Span.ofSeconds 3600) fixed differs _ _

end SessionTokens
