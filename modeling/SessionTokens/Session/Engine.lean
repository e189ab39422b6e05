import SessionTokens.Session.Error
import SessionTokens.Session.Pair
import SessionTokens.Store.Basic
import SessionTokens.Token.Codec

/-!
# Session engines

An engine has settings, keys and callbacks, and none of them changes.  What
does change is handed to each operation: the instant of the call, the octets
drawn at random, and the store.  This module holds the checks that only read:
tokens of requests, their verification, and the window in which a session may
still be refreshed.
-/

namespace SessionTokens

structure Callbacks where
  /-- Turns credentials into the data of a user. -/
  authenticator : Option (Json → Except AuthenticationError Json)
  /-- The claims of a new token for the data of a user. -/
  payload : Json → Claims
  /-- The identity that verified claims stand for. -/
  identity : Claims → Option Json
  /-- Whether an identity may make a request. -/
  authorizer : Option Json → Request → Bool
  /-- The lifetime of a token with given claims. -/
  lifetime : Claims → Span

/-- The callbacks of settings: the data of a user is one claim, and everybody is admitted. -/
def Callbacks.standard (config : SessionConfig) : Callbacks where
  authenticator := none
  payload userData := Claims.empty.insert config.identityKey userData
  identity claims := claims.get? config.identityKey
  authorizer _ _ := true
  lifetime _ := config.timeout

structure SessionEngine where
  config : SessionConfig
  keys : KeyManager
  callbacks : Callbacks

structure ValidatedRequest where
  claims : Claims
  identity : Option Json
  token : String
  /-- The header value to echo, when echoing is switched on. -/
  authorization : Option String
  deriving DecidableEq

namespace SessionEngine

def codec (engine : SessionEngine) : Codec := ⟨engine.keys, engine.config.expiryField⟩

def challenge (engine : SessionEngine) : String :=
  "JWT realm=\"" ++ engine.config.realm ++ "\""

def accessToken (engine : SessionEngine) (request : Request) : Except SessionError String :=
  (engine.config.tokenLookup.extract request engine.config.headName).mapError .extract

/-- The refresh token of a request; all complaints of the lookup are one. -/
def refreshToken (engine : SessionEngine) (request : Request) : Except SessionError String :=
  (engine.config.effectiveRefreshLookup.extract request engine.config.headName).mapError
    fun _ => .missingRefreshToken

def parseToken (engine : SessionEngine) (now : Instant) (token : String) :
    Except SessionError Claims :=
  (engine.codec.verify now token).mapError .token

def authorizationValue (engine : SessionEngine) (token : String) : String :=
  engine.config.headName ++ " " ++ token

/-- Validates a request by its access token, and asks the authorizer. -/
def validate (engine : SessionEngine) (now : Instant) (request : Request) :
    Except SessionError ValidatedRequest := do
  let token ← engine.accessToken request
  let claims ← engine.parseToken now token
  let identity := engine.callbacks.identity claims
  if ¬ engine.callbacks.authorizer identity request then throw .forbidden
  let authorization :=
    if engine.config.sendAuthorization then some (engine.authorizationValue token) else none
  return ⟨claims, identity, token, authorization⟩

/-- The claims of an access token that is valid or only expired. -/
def verifyAllowingExpiry (engine : SessionEngine) (now : Instant) (token : String) :
    Except SessionError Claims :=
  match engine.codec.verify now token with
  | .ok claims => .ok claims
  | .error (.expired claims) => .ok claims
  | .error error => .error (.token error)

/-- The first second in which a session that may still be refreshed can have begun. -/
def windowStart (engine : SessionEngine) (now : Instant) : Int :=
  max Decimal.minInt64 (now.seconds - min (engine.config.maxRefresh.seconds : Int) Decimal.maxInt64)

def checkWindow (engine : SessionEngine) (now : Instant) (origin : Int) :
    Except SessionError Unit :=
  if origin < engine.windowStart now then .error .expiredToken else .ok ()

def checkClaims (engine : SessionEngine) (now : Instant) (claims : Claims) :
    Except SessionError Unit :=
  match claims.origin? with
  | none => .error (.token (.invalid .origin))
  | some origin => engine.checkWindow now origin

/-- The claims of an access token whose session may still be refreshed. -/
def refreshableClaims (engine : SessionEngine) (now : Instant) (token : String) :
    Except SessionError Claims := do
  let claims ← engine.verifyAllowingExpiry now token
  engine.checkClaims now claims
  return claims

def checkRefreshable (engine : SessionEngine) (now : Instant) (request : Request) :
    Except SessionError Claims := do
  let token ← engine.accessToken request
  engine.refreshableClaims now token

/-- The cookies that deliver a pair, if cookies are switched on. -/
def cookiesFor (engine : SessionEngine) (pair : TokenPair) : List SetCookie :=
  let cookies := engine.config.cookies
  if cookies.sendCookie then
    [cookies.accessCookie pair.accessToken (Span.ofSeconds (pair.expiresIn pair.createdAt)),
      cookies.refreshCookie pair.refreshToken engine.config.refreshLifetime]
  else []

def clearingCookies (engine : SessionEngine) : List SetCookie :=
  if engine.config.cookies.sendCookie then engine.config.cookies.clearingCookies else []

def grant (engine : SessionEngine) (pair : TokenPair) : SessionGrant :=
  ⟨pair, engine.cookiesFor pair⟩

/-- Signs an access token without opening a session. -/
def generateAccessToken (engine : SessionEngine) (now : Instant) (userData : Json)
    (seed : Bytes := []) : Except SessionError IssuedToken :=
  let claims := engine.callbacks.payload userData
  (engine.codec.issue now claims (engine.callbacks.lifetime claims) seed).mapError .token

end SessionEngine

end SessionTokens
