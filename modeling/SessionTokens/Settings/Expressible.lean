import SessionTokens.Settings.Sections
import SessionTokens.Store.Redis

/-!
# Settings that a text can tell

Not every configuration of a program can be told by a text of settings: a text
knows spans of whole seconds only, numbers of a word, and lookups that are made
of rules.
-/

namespace SessionTokens

def Span.IsExpressible (span : Span) : Prop :=
  ∃ seconds, seconds ≤ Decimal.maxWord64 ∧ span = Span.ofSeconds seconds

def TokenLookup.IsExpressible (lookup : TokenLookup) : Prop :=
  ∃ rules, TokenLookup.parse rules = .ok lookup

structure CookieConfig.IsExpressible (config : CookieConfig) : Prop where
  maxAge : ∀ span ∈ config.maxAge, span.IsExpressible
  refreshMaxAge : ∀ span ∈ config.refreshMaxAge, span.IsExpressible

structure ClientCacheConfig.IsExpressible (config : ClientCacheConfig) : Prop where
  size : config.size ≤ Decimal.maxWord64
  lifetime : config.lifetime.IsExpressible

structure RedisConfig.IsExpressible (config : RedisConfig) : Prop where
  database : Decimal.minInt64 ≤ config.database ∧ config.database ≤ Decimal.maxInt64
  connectTimeout : config.connectTimeout.IsExpressible
  clientCache : config.clientCache.IsExpressible

def StoreConfig.IsExpressible : StoreConfig → Prop
  | .memory => True
  | .redis config => config.IsExpressible

/-- Session settings that a text can tell. -/
structure SessionConfig.IsExpressible (config : SessionConfig) : Prop where
  timeout : config.timeout.IsExpressible
  maxRefresh : config.maxRefresh.IsExpressible
  refreshLifetime : config.refreshLifetime.IsExpressible
  tokenLookup : config.tokenLookup.IsExpressible
  refreshTokenLookup : ∀ lookup ∈ config.refreshTokenLookup, lookup.IsExpressible
  cookies : config.cookies.IsExpressible
  store : config.store.IsExpressible

structure SessionConfig.IsCopyOf (copy config : SessionConfig) : Prop where
  same : copy = config
  json : copy.toJson = config.toJson
  verdict : copy.validate = config.validate
  refreshLookup : copy.effectiveRefreshLookup.write = config.effectiveRefreshLookup.write
  connection : ∀ server, config.store = .redis server →
    ∃ other, copy.store = .redis other ∧ other.connectionAddress = server.connectionAddress

end SessionTokens
