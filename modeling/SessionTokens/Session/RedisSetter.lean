import SessionTokens.Session.Builder

/-!
# Setters of Redis settings

Three setters of a builder take values of Redis settings, and may be called in
any order and number.  Settings accumulate when of all values that the calls
give for a setting the last one stands, and what no call gives stays.
-/

namespace SessionTokens

inductive RedisSetter where
  | addressOnly (address : String)
  | options (address password : String) (database : Int)
  | clientCache (size : Nat) (lifetime : Span)
  deriving DecidableEq, Repr

namespace RedisSetter

def apply (builder : EngineBuilder) : RedisSetter → EngineBuilder
  | .addressOnly address => builder.withRedisAddress address
  | .options address password database => builder.withRedisOptions address password database
  | .clientCache size lifetime => builder.withRedisClientCache size lifetime

def applyAll (builder : EngineBuilder) (calls : List RedisSetter) : EngineBuilder :=
  calls.foldl apply builder

def isAddressOnly : RedisSetter → Bool
  | .addressOnly _ => true
  | .options .. | .clientCache .. => false

/-! ## The values that a call takes -/

def address? : RedisSetter → Option String
  | .addressOnly address | .options address _ _ => some address
  | .clientCache .. => none

def password? : RedisSetter → Option String
  | .options _ password _ => some password
  | .addressOnly _ | .clientCache .. => none

def database? : RedisSetter → Option Int
  | .options _ _ database => some database
  | .addressOnly _ | .clientCache .. => none

/-- The cache whose size and lifetime a call takes; it is switched on. -/
def clientCache? : RedisSetter → Option ClientCacheConfig
  | .clientCache size lifetime => some { enabled := true, size, lifetime }
  | .addressOnly _ | .options .. => none

/-- The value that the last of the calls with one gives, else the value before all calls. -/
def lastGiven {α : Type} (given : RedisSetter → Option α) (before : α) (calls : List RedisSetter) :
    α :=
  (calls.filterMap given).getLastD before

end RedisSetter

/--
Whether Redis settings are what calls should make of earlier ones: each setting
has the value of the last call that takes it, and else the value that it had.
-/
structure RedisConfig.Accumulated (before : RedisConfig) (calls : List RedisSetter)
    (after : RedisConfig) : Prop where
  address : after.address = RedisSetter.lastGiven RedisSetter.address? before.address calls
  password : after.password = RedisSetter.lastGiven RedisSetter.password? before.password calls
  database : after.database = RedisSetter.lastGiven RedisSetter.database? before.database calls
  clientCache :
    after.clientCache = RedisSetter.lastGiven RedisSetter.clientCache? before.clientCache calls
  /-- No call takes the beginning of the keys or the timeout. -/
  untaken : after.keyMark = before.keyMark ∧ after.connectTimeout = before.connectTimeout

/-- Whether settings accumulate over calls, whatever the builder and its Redis settings were. -/
def RedisSetter.Accumulate (calls : List RedisSetter) : Prop :=
  ∀ (builder : EngineBuilder) (before after : RedisConfig),
    builder.config.store = .redis before →
      (applyAll builder calls).config.store = .redis after → before.Accumulated calls after

/-- What calls make of a builder with Redis settings. -/
structure EngineBuilder.SetsRedis (builder : EngineBuilder) (before : RedisConfig)
    (calls : List RedisSetter) (after : RedisConfig) : Prop where
  /-- Nothing but the Redis settings changes. -/
  only : RedisSetter.applyAll builder calls = builder.withRedisConfig after
  address : after.address = RedisSetter.lastGiven RedisSetter.address? before.address calls
  /-- Without a call that takes the address alone, all settings accumulate. -/
  kept : (∀ call ∈ calls, call.isAddressOnly = false) → before.Accumulated calls after
  /-- Each call that takes the address alone starts over from the defaults. -/
  restarted : ∀ earlier address later, calls = earlier ++ .addressOnly address :: later →
    (∀ call ∈ later, call.isAddressOnly = false) →
      (RedisConfig.withAddress {} address).Accumulated later after

end SessionTokens
