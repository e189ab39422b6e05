import SessionTokens.Proofs.Session.Ownership
import SessionTokens.Session.Policy

/-!
# The content of a session

However often a session is rotated, its access tokens carry the second in which
it began, and claims that differ from those of its first token in the expiry
alone; its records hold the data of the user and that second.
-/

namespace SessionTokens

/-- What an access token has in common with the first one of its session. -/
structure Carries (engine : SessionEngine) (session : OpenedSession) (token : String) :
    Prop where
  /-- The claims that were signed for both tokens. -/
  signed : ∃ claims first,
    engine.codec.Signs claims token ∧
      engine.codec.Signs first session.first.accessToken ∧
      claims.get? Claims.originName = some (.int session.start.seconds) ∧
      claims.remove engine.config.expiryField = first.remove engine.config.expiryField
  /-- The claims that the token holds for whoever reads it. -/
  held : ∀ claims, Token.heldClaims? token = some claims →
    claims.get? Claims.originName = some (.int session.start.seconds)
  same : (Token.heldClaims? token).map (·.remove engine.config.expiryField) =
    (Token.heldClaims? session.first.accessToken).map (·.remove engine.config.expiryField)

/-- Whether the pair of an event has the content of its session. -/
def KeepsContent (engine : SessionEngine) (event : Event) (earlier : List Event) : Prop :=
  ∀ pair, event.answer.pair? = some pair →
    ∃ session, event.session? engine (engine.sessionOf? earlier) = some session ∧
      Carries engine session pair.accessToken

variable {engine : SessionEngine}

theorem HandedOut.carries (differs : engine.config.expiryField ≠ Claims.originName)
    {session : OpenedSession} {now : Instant} {pair : TokenPair}
    (handed : HandedOut engine session now pair) : Carries engine session pair.accessToken := by
  obtain ⟨first, opened, firstPair⟩ := handed.first
  obtain ⟨pending, prepared, rfl⟩ := handed.prepared
  -- Both tokens are signed over the same claims but for the value at one place.
  obtain ⟨front, back, absent, split⟩ := engine.codec.exists_timed_eq differs
    (engine.callbacks.payload session.userData) session.start.seconds
  have origin := engine.codec.get?_origin_timed (engine.callbacks.payload session.userData)
    pending.pair.expiresAt session.start.seconds
  have firstSigned := opened.signed
  have firstWord := opened.isWord_expiry
  rw [firstPair] at firstSigned firstWord
  refine ⟨⟨_, _, prepared.signed, firstSigned, origin, ?_⟩, fun claims held => ?_, ?_⟩
  · refine Claims.eq_of_members ?_
    simp only [Claims.remove]
    rw [split, split]
    exact Members.remove_append_cons absent _ _ _
  · rw [Codec.heldClaims?_of_signs prepared.signed] at held
    exact Claims.get?_of_reread? opened.isWord_now origin held
  · rw [Codec.heldClaims?_of_signs prepared.signed, Codec.heldClaims?_of_signs firstSigned]
    exact Claims.remove_reread? (split _) (split _) absent prepared.isWord_expiry firstWord

/--
In every run each pair is one of a session and its access token has the content
of that session, and each stored record reads back as the data of the user and
the first second of the session of its token.
-/
theorem session_content_is_kept (engine : SessionEngine)
    (differs : engine.config.expiryField ≠ Claims.originName) (start : Instant)
    (calls : List Call) :
    Throughout (KeepsContent engine) (engine.run start calls).history ∧
      ∀ entry ∈ (engine.run start calls).store.memory.records,
        ∃ session, engine.sessionOf? (engine.run start calls).history entry.1 = some session ∧
          SessionRecord.read? entry.2.userData =
            some ⟨session.userData, session.start.seconds⟩ := by
  obtain ⟨belongs, recorded⟩ := engine.run_belongs start calls
  constructor
  · refine belongs.mono fun event earlier belong pair answer => ?_
    obtain ⟨session, owner, handed⟩ := belong pair answer
    exact ⟨session, owner, handed.carries differs⟩
  · intro entry inside
    obtain ⟨session, owner, -, read⟩ := recorded entry inside
    exact ⟨session, owner, read⟩

/-- An engine whose payload is chosen by the user, names of reserved claims included. -/
def spreadEngine : SessionEngine where
  config := {}
  keys := sampleEngine.keys
  callbacks := { Callbacks.standard {} with payload := Callbacks.spread }

/-- A session whose user supplies reserved claims, rotated twice with the clock moving both ways. -/
def spreadRun : EngineRun :=
  spreadEngine.run ⟨1700000000, 999⟩
    [.generateTokenPair (sampleDraw 0)
        (.object [("orig_iat", .int 5), ("exp", .string "never"), ("name", .string "alice")]),
      .setClock ⟨1700000060, 0⟩,
      .refreshTokenPair (sampleDraw 1) (refreshTokenOf (sampleDraw 0)),
      .setClock ⟨1699999999, 1⟩,
      .refreshTokenPair (sampleDraw 2) (refreshTokenOf (sampleDraw 1))]

theorem session_content_is_kept_spread :
    spreadEngine.config.expiryField ≠ Claims.originName ∧
      spreadRun.history.countP (·.answer.pair?.isSome) = 3 ∧
      Throughout (KeepsContent spreadEngine) spreadRun.history := by
  have differs : spreadEngine.config.expiryField ≠ Claims.originName := by decide
  exact ⟨differs, by decide +kernel, (session_content_is_kept spreadEngine differs _ _).1⟩

end SessionTokens
