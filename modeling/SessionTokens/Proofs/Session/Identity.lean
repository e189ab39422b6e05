import SessionTokens.Proofs.Session.Preparation
import SessionTokens.Proofs.Session.Runs
import SessionTokens.Proofs.Token.RoundTrip
import SessionTokens.Session.Builder

/-!
# The identity of fresh tokens

Three names stand in the claims of an access token: the one of the user, the
expiry and the first second of the session.  They are settings, and no check
keeps them apart.  The times are written last, so that a user whose name is
taken by a time is read back as that time.
-/

namespace SessionTokens

/-- What is read back from a token issued at an instant for the data of a user. -/
def SessionConfig.freshIdentity (config : SessionConfig) (now : Instant) (userData : Json) : Json :=
  if config.identityKey = Claims.originName then .int now.seconds
  else if config.identityKey = config.expiryField then
    .int (now.seconds + config.timeout.seconds)
  else userData

/-- Whether the name of the user does not take the data, and is not taken by the expiry either. -/
def SessionConfig.obstructs (config : SessionConfig) (userData : Json) : Bool :=
  config.identityKey ≠ config.expiryField && Token.obstructs config.identityKey userData

/-- Whether engines of settings accept each token at the instant of its issue, for an identity. -/
def SessionConfig.ReadsIdentity (config : SessionConfig) (now : Instant) (userData identity : Json) :
    Prop :=
  ∀ read : FileReader, ∃ engine store,
    (EngineBuilder.ofConfig config).build read = .ok (engine, store) ∧
      ∀ draw before pair after,
        engine.generateTokenPair now draw userData before = (.ok pair, after) →
          ∃ claims, engine.parseToken now pair.accessToken = .ok claims ∧
            engine.callbacks.identity claims = some identity

def SessionConfig.sharedEngine (config : SessionConfig) (secret : String) : SessionEngine where
  config
  keys := ⟨config.algorithm,
    .fixed (.secret (Utf8.ofString secret)) (.secret (Utf8.ofString secret))⟩
  callbacks := .standard config

/-- Settings that are accepted, and sign with a secret for at least a second. -/
structure SessionConfig.SignsWith (config : SessionConfig) (secret : String) : Prop where
  accepted : config.validate = .ok ()
  symmetric : config.algorithm.isSymmetric = true
  given : config.keys.secret = some secret
  filled : secret ≠ ""
  timely : 1 ≤ config.timeout.seconds

namespace SessionConfig.SignsWith

variable {config : SessionConfig} {secret : String}

theorem loaded (signs : config.SignsWith secret) :
    KeyManager.ofSecret config.algorithm (Utf8.ofString secret) =
      .ok (config.sharedEngine secret).keys := by
  have filled : (Utf8.ofString secret).isEmpty = false :=
    List.isEmpty_eq_false_iff.mpr (Utf8.ofString_ne_nil signs.filled)
  simp [KeyManager.ofSecret, signs.symmetric, filled, sharedEngine]

theorem build_ofConfig (signs : config.SignsWith secret) (read : FileReader) :
    (EngineBuilder.ofConfig config).build read =
      .ok (config.sharedEngine secret, Store.ofConfigOrMemory config.store) := by
  have settled : (EngineBuilder.ofConfig config).settle = .ok config := by
    simp only [EngineBuilder.settle, EngineBuilder.ofConfig, pure, Except.pure, bind, Except.bind,
      signs.accepted]
  have keys : (EngineBuilder.ofConfig config).loadKeys read config =
      .ok (config.sharedEngine secret).keys := by
    simp only [EngineBuilder.loadKeys, EngineBuilder.ofConfig, KeyManager.load, signs.symmetric,
      if_true, signs.given, Option.map_some, Option.getD_some, signs.loaded]
  simp only [EngineBuilder.build, settled, keys, mapError_ok, bind, Except.bind]
  rfl

end SessionConfig.SignsWith

variable {config : SessionConfig} {secret : String} {now : Instant} {draw : Bytes}
  {userData : Json} {before after : Store} {pair : TokenPair}

theorem SessionConfig.obstructed_payload (config : SessionConfig) (userData : Json) :
    (Claims.empty.insert config.identityKey userData).obstructed config.expiryField =
      config.obstructs userData := by
  simp [Claims.obstructed, Claims.insert, Claims.empty, Members.set, obstructs]

/-- The first second is written last, the expiry before it, and both over the user. -/
theorem SessionConfig.get?_identityKey {expiresAt : Instant}
    (expiry : expiresAt.seconds = now.seconds + config.timeout.seconds) :
    ((config.sharedEngine secret).codec.timed (Claims.empty.insert config.identityKey userData)
        expiresAt now.seconds).get? config.identityKey =
      some (config.freshIdentity now userData) := by
  rw [freshIdentity]
  by_cases isOrigin : config.identityKey = Claims.originName
  · rw [if_pos isOrigin, isOrigin]
    exact Members.get?_set _ _ _
  rw [if_neg isOrigin]
  refine (Members.get?_set_of_ne isOrigin _ _).trans ?_
  by_cases isExpiry : config.identityKey = config.expiryField
  · rw [if_pos isExpiry, isExpiry, ← expiry]
    exact Members.get?_set _ _ _
  · rw [if_neg isExpiry]
    exact (Members.get?_set_of_ne isExpiry _ _).trans (Members.get?_set _ _ _)

/-- A fresh token is accepted with the identity, unless the name of the user does not take the data. -/
theorem SessionConfig.SignsWith.parseToken_fresh (signs : config.SignsWith secret)
    (apart : config.expiryField ≠ Claims.originName) (exact : userData.isExact = true)
    (shallow : userData.nesting ≤ 126)
    (generated : (config.sharedEngine secret).generateTokenPair now draw userData before =
      (.ok pair, after)) :
    ∃ claims, (config.sharedEngine secret).parseToken now pair.accessToken =
        (if config.obstructs userData then .error (.token (.invalid (.form .json)))
        else .ok claims) ∧
      claims.get? config.identityKey = some (config.freshIdentity now userData) := by
  obtain ⟨pending, prepared, rfl⟩ := SessionEngine.preparePair_of_generateTokenPair generated
  obtain ⟨issued, dated, token, -, -⟩ := SessionEngine.issuedFrom_of_preparePair prepared
  have payloadExact : (Claims.empty.insert config.identityKey userData).toJson.isExact = true :=
    Claims.isExact_insert (by decide) exact
  have payloadShallow :
      (Claims.empty.insert config.identityKey userData).toJson.nesting ≤ Json.maxDepth :=
    Claims.nesting_insert_le (by decide) shallow
  have early : now.seconds < now.seconds + (config.timeout.seconds : Int) := by
    have timely := signs.timely
    omega
  have verified : (config.sharedEngine secret).codec.verify now issued.token =
      if (Claims.empty.insert config.identityKey userData).obstructed config.expiryField then
        .error (.invalid (.form .json))
      else .ok issued.claims :=
    Codec.verify_of_issuedFrom (.single signs.loaded) apart payloadExact payloadShallow
      (.of_signed dated.now_bounds.1 dated.now_bounds.2) dated early
  rw [SessionConfig.obstructed_payload] at verified
  refine ⟨issued.claims, ?_, ?_⟩
  · rw [SessionEngine.parseToken, token, verified]
    split <;> rfl
  · rw [dated.sameClaims]
    exact SessionConfig.get?_identityKey dated.expiry

/--
Accepted settings with a secret build an engine that accepts its own tokens
when it issues them, unless both times have one name, and reads the user back
from them.  Of a user whose name is taken by a time only that time is left.
The data must be of a form that text keeps and that its name takes.
-/
theorem fresh_tokens_keep_identity (signs : config.SignsWith secret)
    (apart : config.expiryField ≠ Claims.originName) (exact : userData.isExact = true)
    (shallow : userData.nesting ≤ 126) (fits : config.obstructs userData = false)
    (now : Instant) :
    config.ReadsIdentity now userData (config.freshIdentity now userData) := by
  intro read
  refine ⟨_, _, signs.build_ofConfig read, ?_⟩
  intro draw before pair after generated
  obtain ⟨claims, parsed, found⟩ := signs.parseToken_fresh apart exact shallow generated
  rw [if_neg (by simp [fits])] at parsed
  exact ⟨claims, parsed, found⟩

/-- Settings with a secret, a claim for the user and a claim for the expiry. -/
def sampleConfig (identityKey expiryField : String) : SessionConfig where
  keys := { secret := some "secret key" }
  identityKey
  expiryField

theorem signsWith_sampleConfig (identityKey expiryField : String)
    (accepted : (sampleConfig identityKey expiryField).validate = .ok ()) :
    (sampleConfig identityKey expiryField).SignsWith "secret key" where
  accepted
  symmetric := rfl
  given := rfl
  filled := by decide
  timely := by
    change 1 ≤ (Span.ofSeconds 3600).seconds
    decide

def sampleUser : Json := .object [("name", .string "alice")]

theorem fresh_tokens_keep_identity_alice :
    ∃ engine store pair after claims,
      (EngineBuilder.ofConfig (sampleConfig "identity" "exp")).build (fun _ => .ok []) =
          .ok (engine, store) ∧
        engine.generateTokenPair ⟨1700000000, 0⟩ (sampleDraw 0) sampleUser {} = (.ok pair, after) ∧
        engine.parseToken ⟨1700000000, 0⟩ pair.accessToken = .ok claims ∧
        engine.callbacks.identity claims = some sampleUser := by
  have signs := signsWith_sampleConfig "identity" "exp" (by decide)
  have keeps := @fresh_tokens_keep_identity _ _ sampleUser signs (by decide) (by decide)
    (by decide) (by decide) ⟨1700000000, 0⟩
  obtain ⟨engine, store, built, reads⟩ := keeps fun _ => .ok []
  -- Building has one outcome, so that the engine is the one whose pair is evaluated below.
  have same := (signs.build_ofConfig _).symm.trans built
  cases same
  obtain ⟨pair, after, generated⟩ := exists_eq_ok
    (show (((sampleConfig "identity" "exp").sharedEngine "secret key").generateTokenPair
      ⟨1700000000, 0⟩ (sampleDraw 0) sampleUser {}).1.toOption.isSome = true by decide +kernel)
  obtain ⟨claims, parsed, found⟩ := reads _ _ _ _ generated
  exact ⟨_, _, pair, after, claims, built, generated, parsed, found⟩

/-! ## Users that are lost -/

/-- A token that is accepted when it was issued holds what its claims read back as. -/
theorem SessionEngine.reread?_of_parseToken {engine : SessionEngine} {claims : Claims}
    (generated : engine.generateTokenPair now draw userData before = (.ok pair, after))
    (parsed : engine.parseToken now pair.accessToken = .ok claims) :
    ∃ pending, Prepared engine now userData now.seconds pending ∧
      (engine.codec.timed (engine.callbacks.payload userData) pending.pair.expiresAt
        now.seconds).reread? = some claims ∧
      ∃ expiry, engine.codec.expiry claims = .ok expiry ∧ now.seconds < expiry := by
  obtain ⟨pending, prepared, rfl⟩ := preparePair_of_generateTokenPair generated
  have signed := preparePair_ok prepared
  obtain ⟨accepted, inTime⟩ := Codec.verify_ok (mapError_eq_ok.mp parsed)
  have held := Codec.heldClaims?_of_authenticate accepted
  rw [Codec.heldClaims?_of_signs signed.signed] at held
  exact ⟨pending, signed, held, inTime⟩

/-- With one name for both times, the first second is the expiry: no fresh token is accepted. -/
theorem SessionEngine.parseToken_ne_ok_of_one_name {engine : SessionEngine} {claims : Claims}
    (same : engine.config.expiryField = Claims.originName)
    (generated : engine.generateTokenPair now draw userData before = (.ok pair, after)) :
    engine.parseToken now pair.accessToken ≠ .ok claims := by
  intro parsed
  obtain ⟨pending, prepared, held, expiry, read, later⟩ := reread?_of_parseToken generated parsed
  have present := Claims.get?_of_reread? prepared.isWord_now
    (engine.codec.get?_origin_timed (engine.callbacks.payload userData) _ now.seconds) held
  have first : engine.codec.expiry claims = .ok now.seconds :=
    Codec.expiry_int (by rw [← present, ← same]; rfl) prepared.now_bounds.1 prepared.now_bounds.2
  cases first.symm.trans read
  exact Int.lt_irrefl _ later

theorem Claims.reread?_eq_none {claims : Claims} {name : String} {value : Json} {rest : Members}
    (split : claims.members = (name, value) :: rest) (lost : Json.reread 126 value = none) :
    claims.reread? = none := by
  rw [reread?, split, Json.rereadMembers, lost]
  rfl

theorem SessionConfig.SignsWith.not_readsIdentity (signs : config.SignsWith secret)
    {identity : Json}
    (made : ((config.sharedEngine secret).generateTokenPair now draw userData
      before).1.toOption.isSome = true)
    (other : ∀ pair after claims,
      (config.sharedEngine secret).generateTokenPair now draw userData before = (.ok pair, after) →
      (config.sharedEngine secret).parseToken now pair.accessToken = .ok claims →
        claims.get? config.identityKey ≠ some identity) :
    ¬ config.ReadsIdentity now userData identity := by
  intro reads
  obtain ⟨engine, store, built, reads⟩ := reads fun _ => .ok []
  cases (signs.build_ofConfig _).symm.trans built
  obtain ⟨pair, after, generated⟩ := exists_eq_ok made
  obtain ⟨claims, parsed, found⟩ := reads draw before pair after generated
  exact other pair after claims generated parsed found

def nestedData : Nat → Json
  | 0 => .null
  | depth + 1 => .array [nestedData depth]

/--
The expiry may take the name of the user, both times may have one name, a
registered name may refuse the data, and the data may be nested too deeply.
-/
theorem accepted_settings_may_lose_identity :
    ((sampleConfig "exp" "exp").SignsWith "secret key" ∧
      ¬ (sampleConfig "exp" "exp").ReadsIdentity ⟨1700000000, 0⟩ (.string "alice")
        (.string "alice")) ∧
    ((sampleConfig "identity" "orig_iat").SignsWith "secret key" ∧
      ¬ (sampleConfig "identity" "orig_iat").ReadsIdentity ⟨1700000000, 0⟩ (.string "alice")
        (.string "alice")) ∧
    ((sampleConfig "sub" "exp").SignsWith "secret key" ∧
      ¬ (sampleConfig "sub" "exp").ReadsIdentity ⟨1700000000, 0⟩ (.array []) (.array [])) ∧
    (sampleConfig "identity" "exp").SignsWith "secret key" ∧
      ¬ (sampleConfig "identity" "exp").ReadsIdentity ⟨1700000000, 0⟩ (nestedData 127)
        (nestedData 127) := by
  have taken := signsWith_sampleConfig "exp" "exp" (by decide)
  have oneTime := signsWith_sampleConfig "identity" "orig_iat" (by decide)
  have subject := signsWith_sampleConfig "sub" "exp" (by decide)
  have plain := signsWith_sampleConfig "identity" "exp" (by decide)
  refine ⟨⟨taken, ?_⟩, ⟨oneTime, ?_⟩, ⟨subject, ?_⟩, plain, ?_⟩
  · refine @SessionConfig.SignsWith.not_readsIdentity _ _ _ (sampleDraw 0) _ {} taken _ (by decide +kernel) ?_
    intro pair after claims generated parsed found
    obtain ⟨held, parsedHeld, time⟩ := taken.parseToken_fresh (by decide) (by decide) (by decide)
      generated
    rw [if_neg (by decide)] at parsedHeld
    cases parsed.symm.trans parsedHeld
    cases time.symm.trans found
  · refine @SessionConfig.SignsWith.not_readsIdentity _ _ _ (sampleDraw 0) _ {} oneTime _ (by decide +kernel) ?_
    intro pair after claims generated parsed
    exact absurd parsed (SessionEngine.parseToken_ne_ok_of_one_name rfl generated)
  · refine @SessionConfig.SignsWith.not_readsIdentity _ _ _ (sampleDraw 0) _ {} subject _ (by decide +kernel) ?_
    intro pair after claims generated parsed
    obtain ⟨held, refused, -⟩ := subject.parseToken_fresh (by decide) (by decide) (by decide)
      generated
    rw [if_pos (by decide)] at refused
    cases parsed.symm.trans refused
  · refine @SessionConfig.SignsWith.not_readsIdentity _ _ _ (sampleDraw 0) _ {} plain _ (by decide +kernel) ?_
    intro pair after claims generated parsed
    obtain ⟨pending, -, held, -⟩ := SessionEngine.reread?_of_parseToken generated parsed
    rw [Claims.reread?_eq_none rfl (by decide +kernel)] at held
    cases held

end SessionTokens
