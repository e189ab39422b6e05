import SessionTokens.Proofs.Request.Field
import SessionTokens.Proofs.Session.Gate
import SessionTokens.Proofs.Session.Ownership
import SessionTokens.Proofs.Token.Readable

/-!
# Refreshing with and without the access token

A request may carry the access token of its pair next to the refresh token.
Both name the session: the signed claims and the stored record hold the same
first second, so that the window opens and closes for both at once, and the
expiry of the access token does not count.  Leaving the access token out changes
no refresh that succeeds.  The one exception are claims with a value that a
registered name does not take: their token is never accepted, so that a request
that carries it is refused at every instant.
-/

namespace SessionTokens

/-- Two requests with the refresh token of a pair, one with its access token and one without any. -/
structure PresentPair (engine : SessionEngine) (pair : TokenPair) (both alone : Request) :
    Prop where
  refreshToken : engine.refreshToken both = .ok pair.refreshToken
  accessToken : engine.accessToken both = .ok pair.accessToken
  sameToken : engine.refreshToken alone = .ok pair.refreshToken
  bare : ∀ token, engine.accessToken alone ≠ .ok token

/-- Whether the access token of a pair makes no difference to its refresh over a store. -/
structure GainsNothing (engine : SessionEngine) (store : Store) (session : OpenedSession)
    (pair : TokenPair) : Prop where
  /-- Expired or not, the access token passes its check in the window of the session. -/
  claimed : ∃ claims, ∀ now, engine.refreshableClaims now pair.accessToken =
    (engine.checkWindow now session.start.seconds).map fun _ => claims
  /-- The record of the refresh token, if it is still there, has the window of the session. -/
  recorded : ∀ record, store.memory.record? pair.refreshToken = some record →
    SessionRecord.read? record.userData = some ⟨session.userData, session.start.seconds⟩
  /-- With and without the access token the same refreshes succeed, and do the same. -/
  same : ∀ now draw both alone, PresentPair engine pair both alone → ∀ grant after,
    engine.refresh now draw both store = (.ok grant, after) ↔
      engine.refresh now draw alone store = (.ok grant, after)

/-- Whether the access token of a pair makes every refresh fail that carries it. -/
def LocksOut (engine : SessionEngine) (pair : TokenPair) : Prop :=
  ∀ now draw both store, engine.refreshToken both = .ok pair.refreshToken →
    engine.accessToken both = .ok pair.accessToken →
      engine.refresh now draw both store = (.error (.token (.invalid (.form .json))), store)

/-- What the access token of a pair does to a refresh, by the claims that were signed. -/
structure OwnToken (engine : SessionEngine) (store : Store) (session : OpenedSession)
    (pair : TokenPair) : Prop where
  accepted : (engine.callbacks.payload session.userData).obstructed engine.config.expiryField =
    false → GainsNothing engine store session pair
  refused : (engine.callbacks.payload session.userData).obstructed engine.config.expiryField =
    true → LocksOut engine pair

variable {engine : SessionEngine} {now : Instant}

/-! ## The window of the access token -/

namespace SessionEngine

variable {token : String} {claims : Claims}

/-- The expiry of an authentic token has to be readable, and nothing else. -/
theorem verifyAllowingExpiry_of_authenticate {expiry : Int}
    (accepted : engine.codec.authenticate token = .ok claims)
    (read : engine.codec.expiry claims = .ok expiry) :
    engine.verifyAllowingExpiry now token = .ok claims := by
  by_cases expired : expiry ≤ now.seconds
  · have stale : engine.codec.verify now token = .error (.expired claims) := by
      rw [Codec.verify, accepted]
      simp only [bind, Except.bind, read, if_pos expired]
      rfl
    rw [verifyAllowingExpiry, stale]
  · rw [verifyAllowingExpiry,
      Codec.verify_of_authenticate accepted read (Int.not_le.mp expired)]

theorem refreshableClaims_of_authenticate {expiry origin : Int}
    (accepted : engine.codec.authenticate token = .ok claims)
    (read : engine.codec.expiry claims = .ok expiry) (first : claims.origin? = some origin) :
    engine.refreshableClaims now token =
      (engine.checkWindow now origin).map fun _ => claims := by
  rw [refreshableClaims, verifyAllowingExpiry_of_authenticate accepted read]
  simp only [bind, Except.bind, checkClaims, first]
  cases engine.checkWindow now origin <;> rfl

end SessionEngine

/-- A signed token without an obstructing claim passes its check in the window of its session. -/
theorem Prepared.exists_refreshableClaims {signing : Instant} {userData : Json} {origin : Int}
    {pending : PendingPair} (prepared : Prepared engine signing userData origin pending)
    (shared : engine.codec.keys.SharesSecrets)
    (readable : (engine.callbacks.payload userData).Readable)
    (low : Decimal.minInt64 ≤ origin) (high : origin ≤ Decimal.maxInt64)
    (free : (engine.callbacks.payload userData).obstructed engine.config.expiryField = false) :
    ∃ claims, ∀ now, engine.refreshableClaims now pending.pair.accessToken =
      (engine.checkWindow now origin).map fun _ => claims := by
  have originWord : Json.IsWord origin := .of_signed low high
  have bounds := prepared.inside.signed_bounds
  obtain ⟨claims, held, accepted⟩ := Codec.exists_authenticate_timed shared readable
    prepared.isWord_expiry originWord prepared.signed free
  have signedFirst := engine.codec.get?_origin_timed (engine.callbacks.payload userData)
    pending.pair.expiresAt origin
  have first := Claims.get?_of_reread? originWord signedFirst held
  -- With one name for both times, the first second is read as the expiry.
  have expires : ∃ expiry, engine.codec.expiry claims = .ok expiry := by
    by_cases same : engine.codec.expiryField = Claims.originName
    · exact ⟨origin, Codec.expiry_int (same ▸ first) low high⟩
    · have signedExpiry := engine.codec.get?_expiry_timed same
        (engine.callbacks.payload userData) pending.pair.expiresAt origin
      have expiry := Claims.get?_of_reread? prepared.isWord_expiry signedExpiry held
      exact ⟨_, Codec.expiry_int expiry bounds.1 bounds.2⟩
  obtain ⟨expiry, read⟩ := expires
  exact ⟨claims, fun now => SessionEngine.refreshableClaims_of_authenticate accepted read
    (Claims.origin?_int first low high)⟩

/-! ## The window of the record -/

/-- A refresh is granted only inside the window of the record of its token. -/
theorem SessionEngine.checkWindow_of_refresh {store after : Store} {draw : Bytes} {token : String}
    {request : Request} {grant : SessionGrant} (whole : store.faults = [])
    (admitted : engine.admitRefresh now request = .ok token)
    (granted : engine.refresh now draw request store = (.ok grant, after)) :
    ∃ record session, store.memory.record? token = some record ∧
      SessionRecord.read? record.userData = some session ∧
      engine.checkWindow now session.origin = .ok () := by
  have rotation := @rotate_rotation engine _ whole now draw token
  simp only [refresh, admitted] at granted
  generalize engine.rotate now draw token store = result at rotation granted
  cases rotation with
  | rotated found live renewed =>
      obtain ⟨session, read, window, -⟩ := renew_eq_ok.mp renewed
      exact ⟨_, session, found, read, window⟩
  | absent missing => cases granted
  | outdated found expired => cases granted
  | failed found live refused => cases granted

/-! ## Both requests -/

section Requests

variable {pair : TokenPair} {both alone : Request} {store after : Store} {draw : Bytes}

theorem SessionEngine.admitRefresh_of_accessToken {token accessToken : String}
    (presented : engine.refreshToken both = .ok token)
    (carried : engine.accessToken both = .ok accessToken) :
    engine.admitRefresh now both =
      (engine.refreshableClaims now accessToken).map fun _ => token := by
  rw [admitRefresh, presented]
  simp only [bind, Except.bind, carried]
  cases engine.refreshableClaims now accessToken <;> rfl

theorem SessionEngine.admitRefresh_of_bare {token : String}
    (presented : engine.refreshToken alone = .ok token)
    (bare : ∀ token, engine.accessToken alone ≠ .ok token) :
    engine.admitRefresh now alone = .ok token := by
  rw [admitRefresh, presented]
  cases carried : engine.accessToken alone with
  | ok token => exact absurd carried (bare token)
  | error error => rfl

/-- Where both windows are one, the gate refuses only what the trade would refuse as well. -/
theorem GainsNothing.of_windows {session : OpenedSession} (whole : store.faults = [])
    (claimed : ∃ claims, ∀ now, engine.refreshableClaims now pair.accessToken =
      (engine.checkWindow now session.start.seconds).map fun _ => claims)
    (recorded : ∀ record, store.memory.record? pair.refreshToken = some record →
      SessionRecord.read? record.userData = some ⟨session.userData, session.start.seconds⟩) :
    GainsNothing engine store session pair where
  claimed := claimed
  recorded := recorded
  same now draw both alone present grant after := by
    obtain ⟨claims, claimed⟩ := claimed
    have bare : engine.admitRefresh now alone = .ok pair.refreshToken :=
      SessionEngine.admitRefresh_of_bare present.sameToken present.bare
    have gate : engine.admitRefresh now both =
        (engine.refreshableClaims now pair.accessToken).map fun _ => pair.refreshToken :=
      SessionEngine.admitRefresh_of_accessToken present.refreshToken present.accessToken
    rw [claimed] at gate
    cases window : engine.checkWindow now session.start.seconds with
    | ok =>
        rw [window] at gate
        rw [SessionEngine.refresh_of_admitRefresh bare, SessionEngine.refresh_of_admitRefresh gate]
    | error error =>
        rw [window] at gate
        rw [SessionEngine.refresh_of_refused draw store gate]
        refine ⟨nofun, fun granted => ?_⟩
        obtain ⟨record, read, found, readable, inside⟩ :=
          SessionEngine.checkWindow_of_refresh whole bare granted
        cases (recorded record found).symm.trans readable
        cases window.symm.trans inside

/-- An access token that is authentic for nothing is refused before the refresh token is traded. -/
theorem LocksOut.of_refused
    (refused : engine.codec.authenticate pair.accessToken = .error (.invalid (.form .json))) :
    LocksOut engine pair := by
  intro now draw both store presented carried
  apply SessionEngine.refresh_of_refused draw store
  rw [SessionEngine.admitRefresh_of_accessToken presented carried,
    SessionEngine.refreshableClaims, SessionEngine.verifyAllowingExpiry_of_refused refused]
  rfl

end Requests

/--
For every engine under a shared secret, every run and every pair that it handed
out, and whose refresh token was not drawn a second time: over the store of the
run and at every instant, a refresh with both tokens of the pair succeeds if and
only if a refresh with the refresh token alone does, and they do the same.  What
is signed and what is stored have one window, and the expiry of the access token
does not count.  Only when a registered name among the claims holds a value that
it does not take, no refresh with both tokens succeeds.
-/
theorem own_token_gains_nothing (engine : SessionEngine)
    (shared : engine.codec.keys.SharesSecrets) (start : Instant) (calls : List Call)
    {later earlier : List Event} {event : Event} {pair : TokenPair}
    (split : (engine.run start calls).history = later ++ event :: earlier)
    (answer : event.answer.pair? = some pair)
    (silent : ∀ past ∈ later, ¬ past.Mints pair.refreshToken) :
    ∃ session,
      engine.sessionOf? (engine.run start calls).history pair.refreshToken = some session ∧
        ((engine.callbacks.payload session.userData).Readable →
          OwnToken engine (engine.run start calls).store session pair) := by
  obtain ⟨belongs, recorded⟩ := engine.run_belongs start calls
  obtain ⟨session, owner, handed⟩ := throughout_iff.mp belongs later event earlier split pair answer
  have owned : engine.sessionOf? (engine.run start calls).history pair.refreshToken =
      some session := by
    rw [split, SessionEngine.sessionOf?_append silent, sessionOf?_of_pair? answer, if_pos rfl]
    exact owner
  refine ⟨session, owned, fun readable => ?_⟩
  obtain ⟨opening, opened, -⟩ := handed.first
  obtain ⟨low, high⟩ := opened.now_bounds
  obtain ⟨pending, prepared, rfl⟩ := handed.prepared
  constructor
  · intro free
    refine .of_windows (engine.run_whole start calls)
      (prepared.exists_refreshableClaims shared readable low high free) ?_
    intro record found
    obtain ⟨holder, held, -, read⟩ := recorded (_, record) (MemoryStore.mem_of_record? found)
    cases owned.symm.trans held
    exact read
  · intro obstructed
    exact .of_refused (Codec.authenticate_of_obstructed shared readable prepared.isWord_expiry
      (.of_signed low high) prepared.signed obstructed)

/-! ## One pair, before and after its expiry -/

def oneSession (engine : SessionEngine) (userData : Json) (later : Instant) : EngineRun :=
  engine.run ⟨1700000000, 0⟩ [.generateTokenPair (sampleDraw 0) userData, .setClock later]

theorem history_oneSession {userData : Json} {pair : TokenPair} {after : Store}
    (generated : engine.generateTokenPair ⟨1700000000, 0⟩ (sampleDraw 0) userData {} =
      (.ok pair, after)) (later : Instant) :
    (oneSession engine userData later).history =
      [⟨⟨1700000000, 0⟩, .setClock later, .clockSet⟩] ++
        ⟨⟨1700000000, 0⟩, .generateTokenPair (sampleDraw 0) userData, .paired (.ok pair)⟩ :: [] := by
  rw [oneSession, SessionEngine.run]
  simp only [List.foldl, EngineRun.perform, SessionEngine.perform, generated]
  rfl

theorem sessionOf?_oneSession {userData : Json} {pair : TokenPair} {after : Store}
    (generated : engine.generateTokenPair ⟨1700000000, 0⟩ (sampleDraw 0) userData {} =
      (.ok pair, after)) (later : Instant) :
    engine.sessionOf? (oneSession engine userData later).history pair.refreshToken =
      some ⟨userData, ⟨1700000000, 0⟩, pair⟩ := by
  rw [history_oneSession generated]
  simp [SessionEngine.sessionOf?, Event.Mints, Event.session?, Answer.pair?, Call.opened?]

/-- The requests with the tokens of a pair in the places of the standard settings. -/
theorem presentPair_sampleRequest {pair : TokenPair} {claims : Claims}
    (lookup : engine.config.tokenLookup = .standard)
    (refreshLookup : engine.config.effectiveRefreshLookup =
      ({} : SessionConfig).effectiveRefreshLookup)
    (named : engine.config.headName = "Bearer")
    (encoded : engine.codec.Signs claims pair.accessToken) (filled : pair.refreshToken ≠ "") :
    PresentPair engine pair (sampleRequest (some pair.refreshToken) (some pair.accessToken))
      (sampleRequest (some pair.refreshToken) none) := by
  have presented (accessToken : Option String) : engine.refreshToken
      (sampleRequest (some pair.refreshToken) accessToken) = .ok pair.refreshToken := by
    have uncookied : (sampleRequest (some pair.refreshToken) accessToken).values "cookie" = [] := by
      cases accessToken <;> rfl
    have inForm (headName : String) : TokenSource.extract ⟨.form, "refresh_token"⟩
        (sampleRequest (some pair.refreshToken) accessToken) headName = .ok pair.refreshToken :=
      TokenSource.nonEmpty_some filled .emptyParam
    have inCookie (name headName : String) : TokenSource.extract ⟨.cookie, name⟩
        (sampleRequest (some pair.refreshToken) accessToken) headName = .error .emptyCookie := by
      rw [TokenSource.extract, Request.cookie?, uncookied]
      rfl
    rw [SessionEngine.refreshToken, refreshLookup]
    simp only [SessionConfig.effectiveRefreshLookup, Option.getD_none, TokenLookup.extract,
      TokenLookup.extractFrom, inCookie, inForm, mapError_ok]
  obtain ⟨graphic, nonempty⟩ := Codec.isGraphic_of_signs encoded
  refine ⟨presented _, ?_, presented _, ?_⟩
  · exact accessToken_sampleRequest lookup named graphic nonempty _
  · intro token carried
    rw [SessionEngine.accessToken, lookup] at carried
    cases carried

/-- The pair of a run with one session is presented, and its refresh token traded. -/
theorem exists_onePair {userData : Json} {later : Instant}
    (lookup : engine.config.tokenLookup = .standard)
    (refreshLookup : engine.config.effectiveRefreshLookup =
      ({} : SessionConfig).effectiveRefreshLookup)
    (named : engine.config.headName = "Bearer")
    (opens : (engine.generateTokenPair ⟨1700000000, 0⟩ (sampleDraw 0) userData
      {}).1.toOption.isSome = true)
    (renews : (engine.refresh later (sampleDraw 1)
      (sampleRequest (some (refreshTokenOf (sampleDraw 0))) none)
      (oneSession engine userData later).store).1.toOption.isSome = true) :
    ∃ pending opened grant after,
      engine.generateTokenPair ⟨1700000000, 0⟩ (sampleDraw 0) userData {} =
          (.ok pending.pair, opened) ∧
        Prepared engine ⟨1700000000, 0⟩ userData 1700000000 pending ∧
        PresentPair engine pending.pair
          (sampleRequest (some pending.pair.refreshToken) (some pending.pair.accessToken))
          (sampleRequest (some pending.pair.refreshToken) none) ∧
        engine.refresh later (sampleDraw 1)
            (sampleRequest (some pending.pair.refreshToken) none)
            (oneSession engine userData later).store = (.ok grant, after) := by
  obtain ⟨pair, opened, generated⟩ := exists_eq_ok opens
  obtain ⟨grant, after, granted⟩ := exists_eq_ok renews
  obtain ⟨pending, prepared, rfl⟩ := SessionEngine.preparePair_of_generateTokenPair generated
  obtain ⟨drawn, -⟩ := SessionEngine.refreshToken_of_preparePair prepared
  have filled : pending.pair.refreshToken ≠ "" := by
    rw [drawn]
    decide
  have signed := SessionEngine.preparePair_ok prepared
  rw [← drawn] at granted
  exact ⟨pending, opened, grant, after, generated, signed,
    presentPair_sampleRequest lookup refreshLookup named signed.signed filled, granted⟩

theorem silent_clockSet {now later : Instant} {token : String} :
    ∀ past ∈ [(⟨now, .setClock later, .clockSet⟩ : Event)], ¬ past.Mints token := by
  intro past inside
  cases List.mem_singleton.mp inside
  nofun

/-- An hour after its expiry an access token is still no obstacle to a refresh. -/
theorem own_token_gains_nothing_expired :
    ∃ pair opened grant after,
      sampleEngine.generateTokenPair ⟨1700000000, 0⟩ (sampleDraw 0) (.string "alice") {} =
          (.ok pair, opened) ∧
        pair.expiresAt.seconds + 3600 = 1700007200 ∧
        sampleEngine.refresh ⟨1700007200, 0⟩ (sampleDraw 1)
            (sampleRequest (some pair.refreshToken) none)
            (oneSession sampleEngine (.string "alice") ⟨1700007200, 0⟩).store =
          (.ok grant, after) ∧
        sampleEngine.refresh ⟨1700007200, 0⟩ (sampleDraw 1)
            (sampleRequest (some pair.refreshToken) (some pair.accessToken))
            (oneSession sampleEngine (.string "alice") ⟨1700007200, 0⟩).store =
          (.ok grant, after) := by
  have readable : (sampleEngine.callbacks.payload (.string "alice")).Readable :=
    ⟨by decide, by decide⟩
  have free : (sampleEngine.callbacks.payload (.string "alice")).obstructed
      sampleEngine.config.expiryField = false := by decide
  obtain ⟨pending, opened, grant, after, generated, signed, present, granted⟩ :=
    @exists_onePair sampleEngine (.string "alice") ⟨1700007200, 0⟩ rfl rfl rfl
      (by decide +kernel) (by decide +kernel)
  obtain ⟨session, owner, own⟩ := own_token_gains_nothing sampleEngine sharesSecrets_sampleCodec
    ⟨1700000000, 0⟩ _ (history_oneSession generated ⟨1700007200, 0⟩) rfl silent_clockSet
  cases (sessionOf?_oneSession generated _).symm.trans owner
  refine ⟨_, opened, grant, after, generated, ?_, granted, ?_⟩
  · rw [signed.expiry]
    rfl
  · exact (((own readable).accepted free).same _ _ _ _ present grant after).mpr granted

def subjectEngine : SessionEngine :=
  { sampleEngine with
    config := { identityKey := "sub" }
    callbacks := .standard { identityKey := "sub" } }

/-- With an object for the subject, a refresh succeeds only without the access token. -/
theorem nested_subject_locks_out :
    subjectEngine.codec.keys.SharesSecrets ∧
      (subjectEngine.callbacks.payload (.object [("a", .int 1)])).toJson.nesting = 2 ∧
      ∃ pair opened grant after,
        subjectEngine.generateTokenPair ⟨1700000000, 0⟩ (sampleDraw 0) (.object [("a", .int 1)]) {} =
            (.ok pair, opened) ∧
          PresentPair subjectEngine pair
            (sampleRequest (some pair.refreshToken) (some pair.accessToken))
            (sampleRequest (some pair.refreshToken) none) ∧
          subjectEngine.refresh ⟨1700000060, 0⟩ (sampleDraw 1)
              (sampleRequest (some pair.refreshToken) none)
              (oneSession subjectEngine (.object [("a", .int 1)]) ⟨1700000060, 0⟩).store =
            (.ok grant, after) ∧
          subjectEngine.refresh ⟨1700000060, 0⟩ (sampleDraw 1)
              (sampleRequest (some pair.refreshToken) (some pair.accessToken))
              (oneSession subjectEngine (.object [("a", .int 1)]) ⟨1700000060, 0⟩).store =
            (.error (.token (.invalid (.form .json))),
              (oneSession subjectEngine (.object [("a", .int 1)]) ⟨1700000060, 0⟩).store) := by
  have shared : subjectEngine.codec.keys.SharesSecrets := sharesSecrets_sampleCodec
  have readable : (subjectEngine.callbacks.payload (.object [("a", .int 1)])).Readable :=
    ⟨by decide, by decide⟩
  have obstructed : (subjectEngine.callbacks.payload (.object [("a", .int 1)])).obstructed
      subjectEngine.config.expiryField = true := by decide
  obtain ⟨pending, opened, grant, after, generated, signed, present, granted⟩ :=
    @exists_onePair subjectEngine (.object [("a", .int 1)]) ⟨1700000060, 0⟩ rfl rfl rfl
      (by decide +kernel) (by decide +kernel)
  have locked : LocksOut subjectEngine pending.pair :=
    .of_refused (Codec.authenticate_of_obstructed shared readable signed.isWord_expiry
      signed.isWord_now signed.signed obstructed)
  refine ⟨shared, by decide, _, opened, grant, after, generated, present, granted, ?_⟩
  exact locked _ _ _ _ present.refreshToken present.accessToken

end SessionTokens
