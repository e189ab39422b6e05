import SessionTokens.Cookie
import SessionTokens.Key.Manager
import SessionTokens.Lookup
import SessionTokens.Store.Config

/-!
# Session settings

All settings of a session engine, their defaults, and the checks that go beyond
the kind of each value.  Validation reports the first setting that is wrong.
-/

namespace SessionTokens

inductive ConfigError where
  | fileNotFound (path : String)
  | unsupportedFormat
  | parse (reason : String)
  | invalid (reason : String)
  deriving DecidableEq, Repr

def ConfigError.message : ConfigError → String
  | .fileNotFound path => "configuration file not found: " ++ path
  | .unsupportedFormat =>
      "unsupported configuration file format. Use .toml, .yaml, .yml, or .json"
  | .parse reason => "failed to parse configuration: " ++ reason
  | .invalid reason => "invalid configuration: " ++ reason

def ConfigError.code : ConfigError → String
  | .fileNotFound _ => "FileNotFound"
  | .unsupportedFormat => "UnsupportedFormat"
  | .parse _ => "ParseError"
  | .invalid _ => "Invalid"

structure SessionConfig where
  realm : String := "sessiongate"
  algorithm : Algorithm := .hs256
  keys : KeyConfig := {}
  timeout : Span := Span.ofSeconds 3600
  maxRefresh : Span := Span.ofSeconds 86400
  refreshLifetime : Span := Span.ofSeconds 2592000
  tokenLookup : TokenLookup := .standard
  refreshTokenLookup : Option TokenLookup := none
  headName : String := "Bearer"
  identityKey : String := "identity"
  expiryField : String := Claims.expiryName
  sendAuthorization : Bool := false
  cookies : CookieConfig := {}
  store : StoreConfig := .memory
  deriving DecidableEq

namespace SessionConfig

def complaint? (config : SessionConfig) : Option String :=
  if Text.trim config.headName.toList = [] then some "token_head_name must not be empty"
  else if config.identityKey = "" then some "identity_key must not be empty"
  else if config.expiryField = "" then some "exp_field must not be empty"
  else if config.timeout.isZero then some "timeout must be greater than zero"
  else if config.refreshLifetime.isZero then some "refresh_token_ttl must be greater than zero"
  else if config.tokenLookup.sources = [] then some "token_lookup has no sources"
  else if config.refreshTokenLookup = some ⟨[]⟩ then some "refresh_token_lookup has no sources"
  else none

def validate (config : SessionConfig) : Except ConfigError Unit :=
  match config.complaint? with
  | some reason => .error (.invalid reason)
  | none => .ok ()

/--
Where refresh tokens are looked for: unless it is set, the refresh cookie, then
a form field, a member of a JSON body, and a query parameter.
-/
def effectiveRefreshLookup (config : SessionConfig) : TokenLookup :=
  config.refreshTokenLookup.getD
    ⟨[⟨.cookie, config.cookies.refreshName⟩, ⟨.form, "refresh_token"⟩,
      ⟨.json, "refresh_token"⟩, ⟨.query, "refresh_token"⟩]⟩

end SessionConfig

end SessionTokens
