import SessionTokens.Session.Engine

/-!
# Opening, rotating and ending sessions

A rotation takes the record of a refresh token out of the store, checks the
window and signs a new pair, and puts the record of the new pair into the store.
Only the first and the last of these steps touch the store, so that of all
rotations of one token at most one obtains its record.
-/

namespace SessionTokens

def refreshTokenSize : Nat := 32

/-- The refresh token of the first of drawn octets; those after them go into a signature. -/
def refreshTokenOf (draw : Bytes) : String :=
  String.ofList (Base64.encode Base64.urlSafe (draw.take refreshTokenSize))

/-- A signed pair that is not in the store yet. -/
structure PendingPair where
  pair : TokenPair
  record : SessionRecord
  /-- When the refresh token will be over. -/
  expiry : Instant
  deriving DecidableEq

def PendingPair.deposit (pending : PendingPair) (now : Instant) (store : Store) :
    Except SessionError TokenPair × Store :=
  match store.set now pending.pair.refreshToken pending.record.toJson pending.expiry with
  | (.ok (), store) => (.ok pending.pair, store)
  | (.error error, store) => (.error (.ofStore error), store)

namespace SessionEngine

def refreshExpiry (engine : SessionEngine) (issuedAt : Instant) : Except SessionError Instant :=
  if Span.longestMove.nanos < engine.config.refreshLifetime.nanos then
    .error (.internal .refreshLifetime)
  else
    match issuedAt.later? engine.config.refreshLifetime with
    | none => .error (.internal .refreshExpiry)
    | some expiry => .ok expiry

/-- Signs the access token of a session: of a new one, or of one that began in a second. -/
def signSession (engine : SessionEngine) (now : Instant) (seed : Bytes) (userData : Json)
    (origin : Option Int) : Except SessionError IssuedToken :=
  let claims := engine.callbacks.payload userData
  let lifetime := engine.callbacks.lifetime claims
  let issued :=
    match origin with
    | some origin => engine.codec.issueFrom now claims lifetime origin seed
    | none => engine.codec.issue now claims lifetime seed
  issued.mapError .token

/-- A new refresh token; a source of randomness that is out of order draws too few octets. -/
def newRefreshToken (draw : Bytes) : Except SessionError String :=
  if draw.length < refreshTokenSize then .error (.internal .refreshToken)
  else .ok (refreshTokenOf draw)

def preparePair (engine : SessionEngine) (now : Instant) (draw : Bytes) (userData : Json)
    (origin : Option Int) : Except SessionError PendingPair := do
  let issued ← engine.signSession now (draw.drop refreshTokenSize) userData origin
  let refreshToken ← newRefreshToken draw
  let expiry ← engine.refreshExpiry issued.issuedAt
  return {
    pair :=
      { accessToken := issued.token
        tokenType := TokenPair.bearer
        refreshToken
        expiresAt := issued.expiresAt
        createdAt := issued.issuedAt }
    record := ⟨userData, issued.origin⟩
    expiry }

def issuePair (engine : SessionEngine) (now : Instant) (draw : Bytes) (userData : Json)
    (origin : Option Int) (store : Store) : Except SessionError TokenPair × Store :=
  match engine.preparePair now draw userData origin with
  | .error error => (.error error, store)
  | .ok pending => pending.deposit now store

def generateTokenPair (engine : SessionEngine) (now : Instant) (draw : Bytes) (userData : Json)
    (store : Store) : Except SessionError TokenPair × Store :=
  engine.issuePair now draw userData none store

def authenticate (engine : SessionEngine) (credentials : Json) : Except SessionError Json :=
  match engine.callbacks.authenticator with
  | none => .error .missingAuthenticator
  | some authenticator => (authenticator credentials).mapError .authentication

def login (engine : SessionEngine) (now : Instant) (draw : Bytes) (credentials : Json)
    (store : Store) : Except SessionError SessionGrant × Store :=
  match engine.authenticate credentials with
  | .error error => (.error error, store)
  | .ok userData =>
      let (outcome, store) := engine.generateTokenPair now draw userData store
      (outcome.map engine.grant, store)

def takeRecord (now : Instant) (token : String) (store : Store) :
    Except SessionError RefreshRecord × Store :=
  let (outcome, store) := store.take now token
  (outcome.mapError .ofStore, store)

def renew (engine : SessionEngine) (now : Instant) (draw : Bytes) (record : RefreshRecord) :
    Except SessionError PendingPair :=
  match SessionRecord.read? record.userData with
  | none => .error (.internal .corruptRecord)
  | some session => do
      engine.checkWindow now session.origin
      engine.preparePair now draw session.userData (some session.origin)

/--
Trades a refresh token for a new pair.  The call reads its clock once, whereas a
service reads it for the window and again for the signature.
-/
def rotate (engine : SessionEngine) (now : Instant) (draw : Bytes) (token : String)
    (store : Store) : Except SessionError TokenPair × Store :=
  match takeRecord now token store with
  | (.error error, store) => (.error error, store)
  | (.ok record, store) =>
      match engine.renew now draw record with
      | .error error => (.error error, store)
      | .ok pending => pending.deposit now store

/-- Trades a refresh token, which must not be empty, for a new pair. -/
def refreshTokenPair (engine : SessionEngine) (now : Instant) (draw : Bytes) (token : String)
    (store : Store) : Except SessionError TokenPair × Store :=
  if token = "" then (.error .missingRefreshToken, store)
  else engine.rotate now draw token store

/--
The refresh token that a request may trade: an access token that it carries as
well must be right, expiry aside, and its session inside the window.
-/
def admitRefresh (engine : SessionEngine) (now : Instant) (request : Request) :
    Except SessionError String := do
  let token ← engine.refreshToken request
  match engine.accessToken request with
  | .error _ => return token
  | .ok accessToken =>
      let _ ← engine.refreshableClaims now accessToken
      return token

def refresh (engine : SessionEngine) (now : Instant) (draw : Bytes) (request : Request)
    (store : Store) : Except SessionError SessionGrant × Store :=
  match engine.admitRefresh now request with
  | .error error => (.error error, store)
  | .ok token =>
      let (outcome, store) := engine.rotate now draw token store
      (outcome.map engine.grant, store)

/-- Ends the session of a refresh token; it need not be in the store. -/
def revoke (token : String) (store : Store) : Except SessionError Unit × Store :=
  if token = "" then (.ok (), store)
  else
    let (outcome, store) := store.delete token
    (outcome.mapError .ofStore, store)

def logout (engine : SessionEngine) (request : Request) (store : Store) :
    Except SessionError LogoutOutcome × Store :=
  match engine.refreshToken request with
  | .error _ => (.ok ⟨false, engine.clearingCookies⟩, store)
  | .ok token =>
      let (outcome, store) := revoke token store
      (outcome.map fun _ => ⟨true, engine.clearingCookies⟩, store)

end SessionEngine

end SessionTokens
