import SessionTokens.Session.Builder
import SessionTokens.Text.Quoted

/-!
# Descriptions

What is shown of keys, of settings, and of engines and builders: names, values
and which parts are present.  Of a secret only its presence is shown, and never
any key material.
-/

namespace SessionTokens

/-! ## Keys -/

def describeOptional {α : Type} (describe : α → String) : Option α → String
  | some value => "Some(" ++ describe value ++ ")"
  | none => "None"

/-- A structure as it is shown: its name and its fields between braces. -/
def describeStructure (name : String) (fields : List (String × String)) (more : Bool) : String :=
  let shown := fields.map fun (field, value) => field ++ ": " ++ value
  name ++ " \x7b " ++ ", ".intercalate (shown ++ if more then [".."] else []) ++ " \x7d"

def KeyManager.describe (manager : KeyManager) : String :=
  describeStructure "KeyManager"
    [("algorithm", manager.algorithm.name),
      ("source", Text.quoted (if manager.usesResolver then "resolver" else "static"))] false

/-- A signing key: only the name it is known by. -/
def SigningKey.describe (key : SigningKey) : String :=
  describeStructure "SigningKey" [("kid", describeOptional Text.quoted key.keyId)] true

/-! ## Settings -/

def describeSecret (_ : String) : String := "Secret([REDACTED alloc::string::String])"

def describeList (values : List String) : String := "[" ++ ", ".intercalate values ++ "]"

def describeFlag (value : Bool) : String := if value then "true" else "false"

def describeWhole (value : Int) : String := String.ofList (Json.writeInt value)

def KeyConfig.describe (config : KeyConfig) : String :=
  describeStructure "KeyConfig"
    [("secret", describeOptional describeSecret config.secret),
      ("private_key_file", describeOptional Text.quotedPath config.privateKeyFile),
      ("private_key", describeOptional describeSecret config.privateKey),
      ("private_key_passphrase", describeOptional describeSecret config.privateKeyPassphrase),
      ("public_key_file", describeOptional Text.quotedPath config.publicKeyFile),
      ("public_key", describeOptional Text.quoted config.publicKey)] false

def SourceKind.describe : SourceKind → String
  | .header => "Header"
  | .query => "Query"
  | .cookie => "Cookie"
  | .param => "Param"
  | .form => "Form"
  | .json => "Json"

def TokenSource.describe (source : TokenSource) : String :=
  source.kind.describe ++ "(" ++ Text.quoted source.name ++ ")"

def TokenLookup.describe (lookup : TokenLookup) : String :=
  describeStructure "TokenLookup"
    [("sources", describeList (lookup.sources.map TokenSource.describe))] false

def CookieConfig.describe (config : CookieConfig) : String :=
  describeStructure "CookieConfig"
    [("send_cookie", describeFlag config.sendCookie), ("name", Text.quoted config.name),
      ("max_age", describeOptional Span.describe config.maxAge),
      ("domain", describeOptional Text.quoted config.domain),
      ("secure", describeFlag config.secure), ("http_only", describeFlag config.httpOnly),
      ("same_site", describeOptional SameSite.write config.sameSite),
      ("refresh_name", Text.quoted config.refreshName),
      ("refresh_max_age", describeOptional Span.describe config.refreshMaxAge),
      ("refresh_http_only", describeFlag config.refreshHttpOnly)] false

def ClientCacheConfig.describe (config : ClientCacheConfig) : String :=
  describeStructure "ClientCacheConfig"
    [("enabled", describeFlag config.enabled), ("size_bytes", describeWhole config.size),
      ("ttl", config.lifetime.describe)] false

def RedisConfig.describe (config : RedisConfig) : String :=
  describeStructure "RedisConfig"
    [("addr", Text.quoted config.address), ("password", describeSecret config.password),
      ("db", describeWhole config.database), ("key_prefix", Text.quoted config.keyMark),
      ("connect_timeout", config.connectTimeout.describe),
      ("client_cache", config.clientCache.describe)] false

def StoreConfig.describe : StoreConfig → String
  | .memory => "Memory"
  | .redis config => "Redis(" ++ config.describe ++ ")"

def SessionConfig.describe (config : SessionConfig) : String :=
  describeStructure "SessionConfig"
    [("realm", Text.quoted config.realm), ("signing_algorithm", config.algorithm.name),
      ("keys", config.keys.describe), ("timeout", config.timeout.describe),
      ("max_refresh", config.maxRefresh.describe),
      ("refresh_token_ttl", config.refreshLifetime.describe),
      ("token_lookup", config.tokenLookup.describe),
      ("refresh_token_lookup", describeOptional TokenLookup.describe config.refreshTokenLookup),
      ("token_head_name", Text.quoted config.headName),
      ("identity_key", Text.quoted config.identityKey),
      ("exp_field", Text.quoted config.expiryField),
      ("send_authorization", describeFlag config.sendAuthorization),
      ("cookies", config.cookies.describe), ("store", config.store.describe)] false

/-! ## Engines and builders -/

def StoreBackend.describe : StoreBackend → String
  | .memory => "Memory"
  | .redis => "Redis"

def SessionEngine.describe (engine : SessionEngine) (store : Store) : String :=
  describeStructure "SessionEngine"
    [("realm", Text.quoted engine.config.realm), ("algorithm", engine.keys.algorithm.name),
      ("token_lookup", Text.quoted engine.config.tokenLookup.write),
      ("store", store.backend.describe),
      ("has_authenticator", describeFlag engine.callbacks.authenticator.isSome)] true

def EngineBuilder.describe (builder : EngineBuilder) : String :=
  describeStructure "SessionEngineBuilder"
    [("config", builder.config.describe),
      ("token_lookup", describeOptional Text.quoted builder.lookupRules),
      ("has_store", describeFlag builder.store.isSome),
      ("has_key_resolver", describeFlag builder.resolver.isSome),
      ("has_authenticator", describeFlag builder.authenticator.isSome)] true

end SessionTokens
