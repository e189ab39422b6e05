import SessionTokens.Session.Engine

/-!
# Building engines

A builder gathers settings, lookup rules, callbacks, a key resolver and a
store.  Building reads the rules, checks the settings, loads the keys, and
makes the configured store unless one was given.
-/

namespace SessionTokens

structure EngineBuilder where
  config : SessionConfig := {}
  /-- Rules that replace the access token lookup of the settings. -/
  lookupRules : Option String := none
  /-- Rules that replace the refresh token lookup of the settings. -/
  refreshLookupRules : Option String := none
  store : Option Store := none
  resolver : Option KeyResolver := none
  authenticator : Option (Json → Except AuthenticationError Json) := none
  payload : Option (Json → Claims) := none
  identity : Option (Claims → Option Json) := none
  authorizer : Option (Option Json → Request → Bool) := none
  lifetime : Option (Claims → Span) := none

namespace EngineBuilder

def ofConfig (config : SessionConfig) : EngineBuilder := { config }

def configure (builder : EngineBuilder) (change : SessionConfig → SessionConfig) :
    EngineBuilder :=
  { builder with config := change builder.config }

def configureKeys (builder : EngineBuilder) (change : KeyConfig → KeyConfig) : EngineBuilder :=
  builder.configure fun config => { config with keys := change config.keys }

def withRealm (builder : EngineBuilder) (realm : String) : EngineBuilder :=
  builder.configure fun config => { config with realm }

def withAlgorithm (builder : EngineBuilder) (algorithm : Algorithm) : EngineBuilder :=
  builder.configure fun config => { config with algorithm }

def withSecret (builder : EngineBuilder) (secret : String) : EngineBuilder :=
  builder.configureKeys fun keys => { keys with secret := some secret }

def withPrivateKeyFile (builder : EngineBuilder) (path : String) : EngineBuilder :=
  builder.configureKeys fun keys => { keys with privateKeyFile := some path }

def withPrivateKey (builder : EngineBuilder) (armour : String) : EngineBuilder :=
  builder.configureKeys fun keys => { keys with privateKey := some armour }

def withPassphrase (builder : EngineBuilder) (passphrase : String) : EngineBuilder :=
  builder.configureKeys fun keys => { keys with privateKeyPassphrase := some passphrase }

def withPublicKeyFile (builder : EngineBuilder) (path : String) : EngineBuilder :=
  builder.configureKeys fun keys => { keys with publicKeyFile := some path }

def withPublicKey (builder : EngineBuilder) (armour : String) : EngineBuilder :=
  builder.configureKeys fun keys => { keys with publicKey := some armour }

def withTimeout (builder : EngineBuilder) (timeout : Span) : EngineBuilder :=
  builder.configure fun config => { config with timeout }

def withMaxRefresh (builder : EngineBuilder) (maxRefresh : Span) : EngineBuilder :=
  builder.configure fun config => { config with maxRefresh }

def withRefreshLifetime (builder : EngineBuilder) (refreshLifetime : Span) : EngineBuilder :=
  builder.configure fun config => { config with refreshLifetime }

def withLookupRules (builder : EngineBuilder) (rules : String) : EngineBuilder :=
  { builder with lookupRules := some rules }

/-- Looks for refresh tokens by rules, which are read when the engine is built. -/
def withRefreshLookupRules (builder : EngineBuilder) (rules : String) : EngineBuilder :=
  { builder with refreshLookupRules := some rules }

def withHeadName (builder : EngineBuilder) (headName : String) : EngineBuilder :=
  builder.configure fun config => { config with headName }

def withIdentityKey (builder : EngineBuilder) (identityKey : String) : EngineBuilder :=
  builder.configure fun config => { config with identityKey }

def withExpiryField (builder : EngineBuilder) (expiryField : String) : EngineBuilder :=
  builder.configure fun config => { config with expiryField }

def withAuthorizationEcho (builder : EngineBuilder) (enabled : Bool) : EngineBuilder :=
  builder.configure fun config => { config with sendAuthorization := enabled }

def withCookies (builder : EngineBuilder) (cookies : CookieConfig) : EngineBuilder :=
  builder.configure fun config => { config with cookies }

def withCookieDelivery (builder : EngineBuilder) (enabled : Bool) : EngineBuilder :=
  builder.withCookies { builder.config.cookies with sendCookie := enabled }

def withStoreConfig (builder : EngineBuilder) (store : StoreConfig) : EngineBuilder :=
  builder.configure fun config => { config with store }

/-- The Redis settings that further settings are added to. -/
def redisConfig (builder : EngineBuilder) : RedisConfig :=
  match builder.config.store with
  | .redis redis => redis
  | .memory => {}

def withRedis (builder : EngineBuilder) : EngineBuilder :=
  builder.withStoreConfig (.redis {})

/-- Keeps refresh tokens on the Redis server at an address, other settings being the defaults. -/
def withRedisAddress (builder : EngineBuilder) (address : String) : EngineBuilder :=
  builder.withStoreConfig (.redisAt address)

def withRedisOptions (builder : EngineBuilder) (address password : String) (database : Int) :
    EngineBuilder :=
  builder.withStoreConfig (.redis (builder.redisConfig.withOptions address password database))

def withRedisConfig (builder : EngineBuilder) (redis : RedisConfig) : EngineBuilder :=
  builder.withStoreConfig (.redis redis)

def withRedisClientCache (builder : EngineBuilder) (size : Nat) (lifetime : Span) :
    EngineBuilder :=
  builder.withStoreConfig (.redis (builder.redisConfig.withClientCache size lifetime))

def withText? (builder : EngineBuilder) (name value : String) : Option EngineBuilder :=
  match name with
  | "realm" => some (builder.withRealm value)
  | "signing_algorithm" => (Algorithm.ofText? value).map builder.withAlgorithm
  | "secret" => some (builder.withSecret value)
  | "private_key_file" => some (builder.withPrivateKeyFile value)
  | "private_key" => some (builder.withPrivateKey value)
  | "private_key_passphrase" => some (builder.withPassphrase value)
  | "public_key_file" => some (builder.withPublicKeyFile value)
  | "public_key" => some (builder.withPublicKey value)
  | "token_lookup" => some (builder.withLookupRules value)
  | "refresh_token_lookup" => some (builder.withRefreshLookupRules value)
  | "token_head_name" => some (builder.withHeadName value)
  | "identity_key" => some (builder.withIdentityKey value)
  | "exp_field" => some (builder.withExpiryField value)
  | _ => none

def withSpan? (builder : EngineBuilder) (name : String) (span : Span) : Option EngineBuilder :=
  match name with
  | "timeout" => some (builder.withTimeout span)
  | "max_refresh" => some (builder.withMaxRefresh span)
  | "refresh_token_ttl" => some (builder.withRefreshLifetime span)
  | _ => none

/-- The callbacks: those that were given, else the standard ones of the settings. -/
def callbacks (builder : EngineBuilder) (config : SessionConfig) : Callbacks :=
  let standard := Callbacks.standard config
  { authenticator := builder.authenticator
    payload := builder.payload.getD standard.payload
    identity := builder.identity.getD standard.identity
    authorizer := builder.authorizer.getD standard.authorizer
    lifetime := builder.lifetime.getD standard.lifetime }

def readRules (name rules : String) : Except ConfigError TokenLookup :=
  (TokenLookup.parse rules).mapError fun error => .invalid (name ++ ": " ++ error.message)

/-- The settings with the lookup rules read, checked. -/
def settle (builder : EngineBuilder) : Except ConfigError SessionConfig := do
  let tokenLookup ←
    match builder.lookupRules with
    | some rules => readRules "token_lookup" rules
    | none => pure builder.config.tokenLookup
  let refreshTokenLookup ←
    match builder.refreshLookupRules with
    | some rules => some <$> readRules "refresh_token_lookup" rules
    | none => pure builder.config.refreshTokenLookup
  let config := { builder.config with tokenLookup, refreshTokenLookup }
  config.validate
  return config

/-- The keys: those of the resolver if there is one, else those of the settings. -/
def loadKeys (builder : EngineBuilder) (read : FileReader) (config : SessionConfig) :
    Except KeyError KeyManager :=
  match builder.resolver with
  | some resolver => .ok (KeyManager.ofResolver config.algorithm resolver)
  | none => KeyManager.load read config.algorithm config.keys

def build (builder : EngineBuilder) (read : FileReader) :
    Except SessionError (SessionEngine × Store) := do
  let config ← builder.settle.mapError .config
  let keys ← (builder.loadKeys read config).mapError .key
  let store := builder.store.getD (Store.ofConfigOrMemory config.store)
  return (⟨config, keys, builder.callbacks config⟩, store)

end EngineBuilder

end SessionTokens
