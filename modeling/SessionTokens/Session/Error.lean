import SessionTokens.Settings.Session
import SessionTokens.Store.Error
import SessionTokens.Token.Error

/-!
# Session errors

Every failure of a session engine, its HTTP status, and its category for
statistics.  A token that is not in the store is an answer to the caller, not a
failure of the store.
-/

namespace SessionTokens

inductive AuthenticationError where
  | missingLoginValues
  | failedAuthentication
  | rejected (reason : String)
  deriving DecidableEq, Repr

def AuthenticationError.message : AuthenticationError → String
  | .missingLoginValues => "missing username or password"
  | .failedAuthentication => "incorrect username or password"
  | .rejected reason => reason

def AuthenticationError.code : AuthenticationError → String
  | .missingLoginValues => "MissingLoginValues"
  | .failedAuthentication => "FailedAuthentication"
  | .rejected _ => "Rejected"

inductive InternalFault where
  | corruptRecord
  | refreshToken
  | refreshLifetime
  | refreshExpiry
  | stated (reason : String)
  deriving DecidableEq, Repr

def InternalFault.message : InternalFault → String
  | .corruptRecord => "corrupt session record"
  | .refreshToken => "failed to generate refresh token"
  | .refreshLifetime => "refresh token lifetime out of range"
  | .refreshExpiry => "refresh token expiry out of range"
  | .stated reason => reason

inductive SessionError where
  | key (error : KeyError)
  | token (error : TokenError)
  | extract (error : ExtractError)
  | authentication (error : AuthenticationError)
  | config (error : ConfigError)
  | missingAuthenticator
  | forbidden
  | expiredToken
  | missingRefreshToken
  | refreshTokenNotFound
  | store (error : StoreError)
  | internal (fault : InternalFault)
  deriving DecidableEq

namespace SessionError

def ofStore : StoreError → SessionError
  | .notFound => .refreshTokenNotFound
  | error => .store error

def message : SessionError → String
  | .key error => error.message
  | .token error => error.message
  | .extract error => error.message
  | .authentication error => error.message
  | .config error => error.message
  | .missingAuthenticator => "authenticator is not configured"
  | .forbidden => "you don't have permission to access this resource"
  | .expiredToken => "token is expired beyond the refresh window"
  | .missingRefreshToken => "refresh token is required"
  | .refreshTokenNotFound => "refresh token not found or expired"
  | .store error => error.message
  | .internal fault => "internal error: " ++ fault.message

/-- The name of the kind of a session error, for programs; that of a cause comes after a dot. -/
def code : SessionError → String
  | .key error => "Key." ++ error.code
  | .token error => "Token." ++ error.code
  | .extract error => "Extract." ++ error.code
  | .authentication error => "Authentication." ++ error.code
  | .config error => "Config." ++ error.code
  | .missingAuthenticator => "MissingAuthenticator"
  | .forbidden => "Forbidden"
  | .expiredToken => "ExpiredToken"
  | .missingRefreshToken => "MissingRefreshToken"
  | .refreshTokenNotFound => "RefreshTokenNotFound"
  | .store error => "Store." ++ error.code
  | .internal _ => "Internal"

def status : SessionError → Nat
  | .extract .noSources | .extract (.invalidRule _) => 500
  | .extract _ | .missingRefreshToken => 400
  | .token (.malformedExpiry _) | .token (.missingExpiry _) => 400
  | .token (.signing _) | .token (.key _) => 500
  | .token _ | .authentication _ | .expiredToken | .refreshTokenNotFound => 401
  | .forbidden => 403
  | .store error => if error.isTransient then 503 else 500
  | .key _ | .config _ | .missingAuthenticator | .internal _ => 500

def isRetryable : SessionError → Bool
  | .store error => error.isTransient
  | _ => false

/-- Whether an access token was refused only because it expired. -/
def isTokenExpired : SessionError → Bool
  | .token (.expired _) => true
  | _ => false

def category : SessionError → String
  | .key _ => "key_material"
  | .token (.expired _) => "token_expired"
  | .token (.malformedExpiry _) => "malformed_expiry"
  | .token (.missingExpiry _) => "missing_expiry"
  | .token (.algorithmMismatch ..) => "algorithm_mismatch"
  | .token (.invalid _) => "token_invalid"
  | .token (.signing _) => "token_signing"
  | .token (.key _) => "key_material"
  | .extract _ => "token_extraction"
  | .authentication _ => "authentication"
  | .config _ => "configuration"
  | .missingAuthenticator => "configuration"
  | .forbidden => "forbidden"
  | .expiredToken => "refresh_window_exceeded"
  | .missingRefreshToken => "missing_refresh_token"
  | .refreshTokenNotFound => "refresh_token_not_found"
  | .store _ => "store"
  | .internal _ => "internal"

end SessionError

end SessionTokens
