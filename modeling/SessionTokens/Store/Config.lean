import SessionTokens.Settings.Setting
import SessionTokens.Time.Span

/-!
# Store configuration

Refresh tokens are kept in memory or on a Redis server.  The section of a store
names its kind under `backend`; every other value in it is read exactly.
-/

namespace SessionTokens

structure ClientCacheConfig where
  enabled : Bool := false
  size : Nat := 134217728
  lifetime : Span := Span.ofSeconds 60
  deriving DecidableEq, Repr

structure RedisConfig where
  address : String := "localhost:6379"
  password : String := ""
  database : Int := 0
  keyMark : String := "sessiongate:"
  connectTimeout : Span := Span.ofSeconds 5
  clientCache : ClientCacheConfig := {}
  deriving DecidableEq, Repr

inductive StoreConfig where
  | memory
  | redis (config : RedisConfig)
  deriving DecidableEq, Repr

def Span.toJson (span : Span) : Json := .int span.seconds

def Span.read? (strictness : Strictness) (value : Setting) : Option Span :=
  (value.natural? strictness).map Span.ofSeconds

namespace ClientCacheConfig

def fields : List String := ["enabled", "size_bytes", "ttl"]

def toJson (config : ClientCacheConfig) : Json :=
  .object [("enabled", .bool config.enabled), ("size_bytes", .int config.size),
    ("ttl", config.lifetime.toJson)]

def read? (value : Setting) : Option ClientCacheConfig := do
  let entries ← value.section? fields .exact
  return {
    enabled := ← Setting.field? entries "enabled" (Setting.flag? .exact) false
    size := ← Setting.field? entries "size_bytes" (Setting.natural? .exact) 134217728
    lifetime := ← Setting.field? entries "ttl" (Span.read? .exact) (Span.ofSeconds 60) }

end ClientCacheConfig

namespace RedisConfig

def fields : List String :=
  ["addr", "password", "db", "key_prefix", "connect_timeout", "client_cache"]

def toMembers (config : RedisConfig) : Members :=
  [("addr", .string config.address), ("password", .string config.password),
    ("db", .int config.database), ("key_prefix", .string config.keyMark),
    ("connect_timeout", config.connectTimeout.toJson),
    ("client_cache", config.clientCache.toJson)]

def read? (value : Setting) : Option RedisConfig := do
  let entries ← value.section? fields .exact
  return {
    address := ← Setting.field? entries "addr" (Setting.text? .exact) "localhost:6379"
    password := ← Setting.field? entries "password" (Setting.text? .exact) ""
    database := ← Setting.field? entries "db" Setting.integer? 0
    keyMark := ← Setting.field? entries "key_prefix" (Setting.text? .exact) "sessiongate:"
    connectTimeout :=
      ← Setting.field? entries "connect_timeout" (Span.read? .exact) (Span.ofSeconds 5)
    clientCache := ← Setting.field? entries "client_cache" ClientCacheConfig.read? {} }

def withAddress (config : RedisConfig) (address : String) : RedisConfig :=
  { config with address }

def withOptions (config : RedisConfig) (address password : String) (database : Int) :
    RedisConfig :=
  { config with address, password, database }

def withKeyMark (config : RedisConfig) (keyMark : String) : RedisConfig :=
  { config with keyMark }

def withConnectTimeout (config : RedisConfig) (connectTimeout : Span) : RedisConfig :=
  { config with connectTimeout }

def withClientCache (config : RedisConfig) (size : Nat) (lifetime : Span) : RedisConfig :=
  { config with clientCache := ⟨true, size, lifetime⟩ }

end RedisConfig

namespace StoreConfig

def redisAt (address : String) : StoreConfig := .redis (RedisConfig.withAddress {} address)

def toJson : StoreConfig → Json
  | .memory => .object [("backend", .string "memory")]
  | .redis config => .object (("backend", .string "redis") :: config.toMembers)

/-- The kind of a store section and the rest of the section. -/
def split? : Setting → Option (Setting × Setting)
  | .table entries =>
      (entries.lookup "backend").map fun kind =>
        (kind, .table (entries.filter (·.1 ≠ "backend")))
  | .list (kind :: rest) => some (kind, .list rest)
  | _ => none

/-- Reads a store section; a list for the memory holds nothing but its kind. -/
def read? (value : Setting) : Option StoreConfig := do
  let (kind, rest) ← split? value
  match kind, rest with
  | .text "memory", .list (_ :: _) => none
  | .text "memory", _ => return .memory
  | .text "redis", rest => (RedisConfig.read? rest).map .redis
  | _, _ => none

end StoreConfig

end SessionTokens
