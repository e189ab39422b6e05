import SessionTokens.Proofs.Session.Identity
import SessionTokens.Proofs.Session.Opening
import SessionTokens.Proofs.Session.ReportedExpiry
import SessionTokens.Proofs.Settings.File
import SessionTokens.Settings.Expressible

/-!
# Delivered and cleared cookies

The age of a cookie is a number of whole seconds, and a cookie without an age
removes the one of its name.  So whether a delivered cookie stays is a question
of its lifetime alone, which is the one of the settings or else that of its
token.  What clears a cookie is the cookie itself without a value and an age.
-/

namespace SessionTokens

def Span.IsBrief (span : Span) : Prop := span.nanos < nanosPerSecond

/-- Whether a cookie removes another one: it has its name and its attributes, and is over. -/
structure SetCookie.Clears (cleared delivered : SetCookie) : Prop where
  name : cleared.name = delivered.name
  domain : cleared.domain = delivered.domain
  sameSite : cleared.sameSite = delivered.sameSite
  httpOnly : cleared.httpOnly = delivered.httpOnly
  secure : cleared.secure = delivered.secure
  empty : cleared.value = ""
  expired : cleared.maxAge = 0

namespace SessionEngine

def accessCookieLifetime (engine : SessionEngine) (userData : Json) : Span :=
  engine.config.cookies.maxAge.getD (engine.accessLifetime userData)

def refreshCookieLifetime (engine : SessionEngine) : Span :=
  engine.config.cookies.refreshMaxAge.getD engine.config.refreshLifetime

/-- Whether the expiry claim of a token is a second, as it was signed and for all who read it. -/
structure DatesToken (engine : SessionEngine) (token : String) (expiry : Int) : Prop where
  signed : ∃ claims, engine.codec.Signs claims token ∧
    claims.get? engine.config.expiryField = some (.int expiry)
  held : ∀ claims, Token.heldClaims? token = some claims →
    claims.get? engine.config.expiryField = some (.int expiry)

/-- What the two cookies of a grant are, when its pair was signed for the data of a user. -/
structure DeliversCookies (engine : SessionEngine) (now : Instant) (userData : Json)
    (grant : SessionGrant) (access refresh : SetCookie) : Prop where
  cookies : grant.cookies = [access, refresh] ∧ grant.cookies = engine.cookiesFor grant.pair
  tokens : access.value = grant.pair.accessToken ∧ refresh.value = grant.pair.refreshToken
  ages : access.maxAge = (engine.accessCookieLifetime userData).seconds ∧
    refresh.maxAge = engine.refreshCookieLifetime.seconds
  accessRemoves : access.isRemoval = true ↔ (engine.accessCookieLifetime userData).IsBrief
  refreshRemoves : refresh.isRemoval = true ↔ engine.refreshCookieLifetime.IsBrief
  refreshSecure : refresh.secure = true
  /-- Settings that send an insecure access cookie along from all sites are left out. -/
  crossSite : (engine.config.cookies.sameSite = some .none → engine.config.cookies.secure = true) →
    ∀ cookie ∈ grant.cookies, cookie.sameSite = some .none → cookie.secure = true
  issued : grant.pair.createdAt = now.floor
  /-- Without a lifetime of its own, the access cookie lives as long as its token. -/
  age : engine.config.cookies.maxAge = none → engine.config.expiryField ≠ Claims.originName →
    ∃ expiry, engine.DatesToken grant.pair.accessToken expiry ∧
      (access.maxAge : Int) = expiry - grant.pair.createdAt.seconds

/-- Whether all lifetimes come from settings as a text can tell them, with none of a cookie zero. -/
structure HasPlainLifetimes (engine : SessionEngine) : Prop where
  timeout : engine.config.timeout.IsExpressible
  refreshLifetime : engine.config.refreshLifetime.IsExpressible
  cookies : engine.config.cookies.IsExpressible
  standard : ∀ claims, engine.callbacks.lifetime claims = engine.config.timeout
  access : engine.config.cookies.maxAge ≠ some ⟨0⟩
  refresh : engine.config.cookies.refreshMaxAge ≠ some ⟨0⟩

end SessionEngine

/-! ## Lifetimes in whole seconds -/

theorem Span.seconds_eq_zero_iff {span : Span} : span.seconds = 0 ↔ span.IsBrief := by
  rw [seconds, IsBrief, Nat.div_eq_zero_iff]
  simp [nanosPerSecond]

/-- A span of whole seconds is either nothing or not brief. -/
theorem Span.IsExpressible.not_isBrief {span : Span} (told : span.IsExpressible)
    (some : span ≠ ⟨0⟩) : ¬ span.IsBrief := by
  obtain ⟨seconds, -, rfl⟩ := told
  rw [← seconds_eq_zero_iff, seconds_ofSeconds]
  rintro rfl
  exact some rfl

/-- No lifetime of accepted settings is nothing. -/
theorem SessionConfig.lifetimes_of_validate {config : SessionConfig}
    (accepted : config.validate = .ok ()) :
    config.timeout ≠ ⟨0⟩ ∧ config.refreshLifetime ≠ ⟨0⟩ := by
  rw [validate_eq_ok_iff] at accepted
  simp only [complaint?, firstComplaint_eq_none_iff] at accepted
  obtain ⟨-, -, -, timeout, refreshLifetime, -⟩ := accepted
  exact ⟨fun zero => timeout (by rw [zero]; rfl), fun zero => refreshLifetime (by rw [zero]; rfl)⟩

/-! ## Cookies of a pair -/

namespace SetCookie

theorem isRemoval_iff {cookie : SetCookie} : cookie.isRemoval = true ↔ cookie.maxAge = 0 :=
  decide_eq_true_iff

end SetCookie

namespace CookieConfig

variable (config : CookieConfig) (token : String) (lifetime : Span)

theorem clears_accessCookie :
    (config.accessCookie "" ⟨0⟩).expired.Clears (config.accessCookie token lifetime) := by
  constructor <;> rfl

theorem clears_refreshCookie :
    (config.refreshCookie "" ⟨0⟩).expired.Clears (config.refreshCookie token lifetime) := by
  constructor <;> rfl

end CookieConfig

namespace SessionEngine

variable {engine : SessionEngine} {now : Instant} {draw : Bytes} {userData : Json}
  {origin : Option Int} {pending : PendingPair}

theorem expiresIn_of_preparePair
    (prepared : engine.preparePair now draw userData origin = .ok pending) :
    pending.pair.expiresIn pending.pair.createdAt = (engine.accessLifetime userData).seconds := by
  obtain ⟨issued, dated, -, expiresAt, -⟩ := issuedFrom_of_preparePair prepared
  have since := Instant.since_floor_of_later? dated.moved
  rw [TokenPair.expiresIn, (expiry_of_preparePair prepared).1, expiresAt, since]
  rfl

theorem datesToken_of_preparePair
    (prepared : engine.preparePair now draw userData origin = .ok pending)
    (differs : engine.config.expiryField ≠ Claims.originName) :
    engine.DatesToken pending.pair.accessToken pending.pair.expiresAt.seconds := by
  have signs := preparePair_ok prepared
  have present := engine.codec.get?_expiry_timed differs (engine.callbacks.payload userData)
    pending.pair.expiresAt (origin.getD now.seconds)
  refine ⟨⟨_, signs.signed, present⟩, fun claims held => ?_⟩
  rw [Codec.heldClaims?_of_signs signs.signed] at held
  exact Claims.get?_of_reread? signs.isWord_expiry present held

theorem cookiesFor_eq (delivers : engine.config.cookies.sendCookie = true) (pair : TokenPair) :
    engine.cookiesFor pair =
      [engine.config.cookies.accessCookie pair.accessToken
          (Span.ofSeconds (pair.expiresIn pair.createdAt)),
        engine.config.cookies.refreshCookie pair.refreshToken engine.config.refreshLifetime] := by
  rw [cookiesFor, if_pos delivers]

/-- The age of the access cookie is that of its lifetime, though it is told whole seconds only. -/
theorem maxAge_accessCookie (token : String)
    (prepared : engine.preparePair now draw userData origin = .ok pending) :
    (engine.config.cookies.accessCookie token
        (Span.ofSeconds (pending.pair.expiresIn pending.pair.createdAt))).maxAge =
      (engine.accessCookieLifetime userData).seconds := by
  rw [expiresIn_of_preparePair prepared]
  simp only [CookieConfig.accessCookie, accessCookieLifetime]
  cases engine.config.cookies.maxAge with
  | none => exact Span.seconds_ofSeconds _
  | some span => rfl

theorem deliversCookies_of_preparePair (delivers : engine.config.cookies.sendCookie = true)
    (prepared : engine.preparePair now draw userData origin = .ok pending) :
    ∃ access refresh,
      engine.DeliversCookies now userData (engine.grant pending.pair) access refresh := by
  have cookies := cookiesFor_eq delivers pending.pair
  have age := maxAge_accessCookie pending.pair.accessToken prepared
  have created := (expiry_of_preparePair prepared).1
  refine ⟨_, _, ⟨cookies, rfl⟩, ⟨rfl, rfl⟩, ⟨age, rfl⟩, ?_, ?_, rfl, ?_, created, ?_⟩
  · rw [SetCookie.isRemoval_iff, age, Span.seconds_eq_zero_iff]
  · rw [SetCookie.isRemoval_iff]
    exact Span.seconds_eq_zero_iff
  · intro safe cookie inside crossSite
    rw [grant, cookies, List.mem_pair] at inside
    obtain rfl | rfl := inside
    · exact safe crossSite
    · rfl
  · intro unset differs
    refine ⟨_, datesToken_of_preparePair prepared differs, ?_⟩
    have lasts : engine.accessCookieLifetime userData = engine.accessLifetime userData := by
      rw [accessCookieLifetime, unset, Option.getD_none]
    have expiry := (preparePair_ok prepared).expiry
    rw [grant, age, lasts, expiry, created]
    simp [accessLifetime, Instant.floor, Instant.ofSeconds]

/-! ## Cookies of a grant -/

theorem deliversCookies_of_perform {store : Store} {call : Call} {grant : SessionGrant}
    (delivers : engine.config.cookies.sendCookie = true)
    (granted : (engine.perform now store call).1 = .granted (.ok grant)) :
    ∃ userData second, PairFrom engine now userData second grant.pair ∧
      ∃ access refresh, engine.DeliversCookies now userData grant access refresh := by
  have answer : (engine.perform now store call).1.pair? = some grant.pair := by
    rw [granted]
    rfl
  obtain ⟨draw, userData, origin, pending, -, prepared, words, same⟩ :=
    exists_prepared_of_perform answer
  obtain ⟨access, refresh, made⟩ := deliversCookies_of_preparePair delivers prepared
  have signs := PairFrom.of_preparePair prepared words
  rw [← same, ← eq_grant_of_perform granted] at made
  rw [← same] at signs
  exact ⟨userData, _, signs, access, refresh, made⟩

theorem DeliversCookies.not_removal {grant : SessionGrant} {access refresh : SetCookie}
    (made : engine.DeliversCookies now userData grant access refresh)
    (accepted : engine.config.validate = .ok ()) (plain : engine.HasPlainLifetimes) :
    ∀ cookie ∈ grant.cookies, cookie.isRemoval = false := by
  obtain ⟨timeout, refreshLifetime⟩ := SessionConfig.lifetimes_of_validate accepted
  have accessLasts : ¬ (engine.accessCookieLifetime userData).IsBrief := by
    rw [accessCookieLifetime, accessLifetime, plain.standard]
    cases set : engine.config.cookies.maxAge with
    | none => exact plain.timeout.not_isBrief timeout
    | some span =>
        exact (plain.cookies.maxAge span set).not_isBrief fun zero =>
          plain.access (by rw [set, zero])
  have refreshLasts : ¬ engine.refreshCookieLifetime.IsBrief := by
    rw [refreshCookieLifetime]
    cases set : engine.config.cookies.refreshMaxAge with
    | none => exact plain.refreshLifetime.not_isBrief refreshLifetime
    | some span =>
        exact (plain.cookies.refreshMaxAge span set).not_isBrief fun zero =>
          plain.refresh (by rw [set, zero])
  intro cookie inside
  rw [made.cookies.1, List.mem_pair] at inside
  rw [Bool.eq_false_iff]
  obtain rfl | rfl := inside
  · exact fun removes => accessLasts (made.accessRemoves.mp removes)
  · exact fun removes => refreshLasts (made.refreshRemoves.mp removes)

/-! ## Cookies of a logout -/

theorem fst_logout (request : Request) (store : Store) :
    (engine.logout request store).1 =
      match engine.refreshToken request with
      | .error _ => .ok ⟨false, engine.clearingCookies⟩
      | .ok token => (revoke token store).1.map fun _ => ⟨true, engine.clearingCookies⟩ := by
  rw [logout]
  cases engine.refreshToken request <;> rfl

theorem cookies_of_logout {request : Request} {store : Store} {outcome : LogoutOutcome}
    (ended : (engine.logout request store).1 = .ok outcome) :
    outcome.cookies = engine.clearingCookies := by
  rw [fst_logout] at ended
  cases presented : engine.refreshToken request with
  | error refusal =>
      rw [presented] at ended
      cases ended
      rfl
  | ok token =>
      simp only [presented] at ended
      cases revoked : (revoke token store).1 with
      | error fault =>
          rw [revoked] at ended
          cases ended
      | ok value =>
          rw [revoked] at ended
          cases ended
          rfl

/-- Only a store that cannot delete keeps a session from ending. -/
theorem exists_logout (request : Request) {store : Store} (deletes : store.fault? .delete = none) :
    ∃ outcome, (engine.logout request store).1 = .ok outcome := by
  have revoked (token : String) : (revoke token store).1 = .ok () := by
    rw [revoke]
    split
    · rfl
    · simp only [Store.delete, Store.attempt, deletes, mapError_ok]
  rw [fst_logout]
  cases engine.refreshToken request with
  | error refusal => exact ⟨_, rfl⟩
  | ok token =>
      simp only [revoked]
      exact ⟨_, rfl⟩

theorem clears_cookiesFor (delivers : engine.config.cookies.sendCookie = true) (pair : TokenPair) :
    List.Forall₂ SetCookie.Clears engine.clearingCookies (engine.cookiesFor pair) := by
  rw [clearingCookies, if_pos delivers, cookiesFor_eq delivers, CookieConfig.clearingCookies]
  exact .cons (CookieConfig.clears_accessCookie _ _ _)
    (.cons (CookieConfig.clears_refreshCookie _ _ _) .nil)

end SessionEngine

/--
Whatever grants a pair delivers it in two cookies, under accepted settings with
cookies switched on and whatever lifetimes the callback chooses.  Each cookie
removes itself just when its lifetime is shorter than a second, which no plain
lifetime is; the refresh cookie is secure, and the access cookie lives as long as
the token unless settings say otherwise.  A logout clears both.
-/
theorem cookies_are_delivered_and_cleared (engine : SessionEngine)
    (accepted : engine.config.validate = .ok ())
    (delivers : engine.config.cookies.sendCookie = true) :
    (∀ now store call grant, (engine.perform now store call).1 = .granted (.ok grant) →
        ∃ userData second, PairFrom engine now userData second grant.pair ∧
          (∃ access refresh, engine.DeliversCookies now userData grant access refresh) ∧
          (engine.HasPlainLifetimes → ∀ cookie ∈ grant.cookies, cookie.isRemoval = false)) ∧
      ∀ request store,
        (store.fault? .delete = none →
            ∃ outcome, (engine.logout request store).1 = .ok outcome) ∧
          ∀ outcome, (engine.logout request store).1 = .ok outcome →
            ∀ pair, List.Forall₂ SetCookie.Clears outcome.cookies (engine.cookiesFor pair) := by
  refine ⟨fun now store call grant granted => ?_, fun request store =>
    ⟨SessionEngine.exists_logout request, fun outcome ended pair => ?_⟩⟩
  · obtain ⟨userData, second, made, access, refresh, cookies⟩ :=
      SessionEngine.deliversCookies_of_perform delivers granted
    exact ⟨userData, second, made, ⟨access, refresh, cookies⟩, cookies.not_removal accepted⟩
  · rw [SessionEngine.cookies_of_logout ended]
    exact SessionEngine.clears_cookiesFor delivers pair

/-! ## Cookies that other sites send along -/

def deliveringEngine (expiryField : String) (cookies : CookieConfig) : SessionEngine :=
  let config : SessionConfig := { sampleConfig "identity" expiryField with cookies }
  { config.sharedEngine "secret key" with
    callbacks := { Callbacks.standard config with authenticator := some .ok } }

def securedCookies : CookieConfig where
  sendCookie := true
  secure := true
  domain := some "example.com"
  sameSite := some .none

/-- Cookies for all sites, of which one is not secure and the other has a lifetime of nothing. -/
def lostCookies : CookieConfig where
  sendCookie := true
  sameSite := some .none
  refreshMaxAge := some ⟨0⟩

theorem SessionEngine.perform_login {engine : SessionEngine} {now : Instant} {draw : Bytes}
    {credentials : Json} {store : Store} {grant : SessionGrant}
    (granted : (engine.login now draw credentials store).1 = .ok grant) :
    (engine.perform now store (.login draw credentials)).1 = .granted (.ok grant) := by
  rw [perform, Prod.map, granted]

/-- Cookies for an hour and for a month, and the logout that clears them. -/
theorem cookies_are_delivered_and_cleared_secured :
    (deliveringEngine "exp" securedCookies).config.validate = .ok () ∧
      (deliveringEngine "exp" securedCookies).config.cookies.sendCookie = true ∧
      ∃ grant outcome,
        ((deliveringEngine "exp" securedCookies).perform ⟨1750000000, 0⟩ {}
            (.login (sampleDraw 0) (.string "alice"))).1 = .granted (.ok grant) ∧
          ((deliveringEngine "exp" securedCookies).logout
            (sampleRequest (some grant.pair.refreshToken) none) {}).1 = .ok outcome ∧
          grant.cookies.map SetCookie.maxAge = [3600, 2592000] ∧
          (∀ cookie ∈ grant.cookies, cookie.isRemoval = false) ∧
          List.Forall₂ SetCookie.Clears outcome.cookies grant.cookies := by
  have accepted : (deliveringEngine "exp" securedCookies).config.validate = .ok () := by decide
  have plain : (deliveringEngine "exp" securedCookies).HasPlainLifetimes :=
    ⟨⟨3600, by decide, rfl⟩, ⟨2592000, by decide, rfl⟩, ⟨nofun, nofun⟩, fun _ => rfl, nofun, nofun⟩
  obtain ⟨granting, ending⟩ :=
    cookies_are_delivered_and_cleared (deliveringEngine "exp" securedCookies) accepted rfl
  have made : ((deliveringEngine "exp" securedCookies).login ⟨1750000000, 0⟩ (sampleDraw 0)
      (.string "alice") {}).1.toOption.isSome = true := by
    decide +kernel
  obtain ⟨grant, found⟩ := Option.isSome_iff_exists.mp made
  have performed := SessionEngine.perform_login (toOption_eq_some.mp found)
  obtain ⟨userData, second, -, ⟨access, refresh, cookies⟩, stays⟩ := granting _ _ _ _ performed
  obtain ⟨ends, clears⟩ := ending (sampleRequest (some grant.pair.refreshToken) none) {}
  obtain ⟨outcome, ended⟩ := ends rfl
  have hour : (deliveringEngine "exp" securedCookies).accessCookieLifetime userData =
    Span.ofSeconds 3600 := rfl
  have month : (deliveringEngine "exp" securedCookies).refreshCookieLifetime =
    Span.ofSeconds 2592000 := rfl
  refine ⟨accepted, rfl, grant, outcome, performed, ended, ?_, stays plain, ?_⟩
  · rw [cookies.cookies.1, List.map_cons, List.map_cons, cookies.ages.1, cookies.ages.2, hour,
      month, Span.seconds_ofSeconds, Span.seconds_ofSeconds]
    rfl
  · rw [cookies.cookies.2]
    exact clears outcome ended grant.pair

/--
Accepted settings may give a cookie no lifetime, send an insecure one along from
all sites, and have the first second of the session stand for the expiry.
-/
theorem accepted_settings_lose_cookies :
    (deliveringEngine "orig_iat" lostCookies).config.validate = .ok () ∧
      lostCookies.sendCookie = true ∧ lostCookies.maxAge = none ∧
      ∃ grant access refresh claims,
        ((deliveringEngine "orig_iat" lostCookies).perform ⟨1750000000, 0⟩ {}
            (.login (sampleDraw 0) (.string "alice"))).1 = .granted (.ok grant) ∧
          grant.cookies = [access, refresh] ∧ refresh.isRemoval = true ∧
          access.sameSite = some .none ∧ access.secure = false ∧
          Token.heldClaims? grant.pair.accessToken = some claims ∧
          claims.get? "orig_iat" = some (.int grant.pair.createdAt.seconds) ∧
          access.maxAge = 3600 := by
  have made : (((deliveringEngine "orig_iat" lostCookies).login ⟨1750000000, 0⟩ (sampleDraw 0)
      (.string "alice") {}).1.toOption.map fun grant =>
        (Token.heldClaims? grant.pair.accessToken, grant.pair.createdAt,
          grant.pair.expiresIn grant.pair.createdAt)) =
      some (some (.ofPairs [("identity", .string "alice"), ("orig_iat", .int 1750000000)]),
        ⟨1750000000, 0⟩, 3600) := by
    decide +kernel
  obtain ⟨grant, found, seen⟩ := Option.map_eq_some_iff.mp made
  obtain ⟨held, rest⟩ := Prod.mk.inj seen
  obtain ⟨created, lasts⟩ := Prod.mk.inj rest
  have performed := SessionEngine.perform_login (toOption_eq_some.mp found)
  have cookies : grant.cookies =
      [lostCookies.accessCookie grant.pair.accessToken (Span.ofSeconds 3600),
        lostCookies.refreshCookie grant.pair.refreshToken (Span.ofSeconds 2592000)] := by
    rw [SessionEngine.eq_grant_of_perform performed, SessionEngine.grant,
      SessionEngine.cookiesFor_eq rfl, lasts]
    rfl
  refine ⟨by decide, rfl, rfl, grant, _, _, _, performed, cookies, rfl, rfl, rfl, held, ?_,
    Span.seconds_ofSeconds 3600⟩
  rw [created]
  decide

end SessionTokens
