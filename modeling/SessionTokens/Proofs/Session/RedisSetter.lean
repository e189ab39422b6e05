import SessionTokens.Service.Demo
import SessionTokens.Session.RedisSetter

/-!
# Redis settings that accumulate

The setter for address, password and database and the one for the cache go on
from the Redis settings that a builder has.  The setter for the address alone
starts over from the defaults.  So settings accumulate since the last call of it,
and over all calls just when there is none.
-/

namespace SessionTokens

namespace RedisSetter

def change (config : RedisConfig) : RedisSetter → RedisConfig
  | .addressOnly address => RedisConfig.withAddress {} address
  | .options address password database => config.withOptions address password database
  | .clientCache size lifetime => config.withClientCache size lifetime

def changeAll (config : RedisConfig) (calls : List RedisSetter) : RedisConfig :=
  calls.foldl change config

variable {builder : EngineBuilder} {before : RedisConfig} {calls : List RedisSetter}

/-! ## From builders to settings -/

theorem apply_withRedisConfig (builder : EngineBuilder) (config : RedisConfig)
    (call : RedisSetter) :
    apply (builder.withRedisConfig config) call =
      builder.withRedisConfig (change config call) := by
  cases call <;> rfl

theorem applyAll_withRedisConfig (builder : EngineBuilder) (config : RedisConfig)
    (calls : List RedisSetter) :
    applyAll (builder.withRedisConfig config) calls =
      builder.withRedisConfig (changeAll config calls) := by
  induction calls generalizing config with
  | nil => rfl
  | cons call calls ih =>
      calc applyAll (builder.withRedisConfig config) (call :: calls)
          = applyAll (apply (builder.withRedisConfig config) call) calls := rfl
        _ = applyAll (builder.withRedisConfig (change config call)) calls := by
            rw [apply_withRedisConfig]
        _ = builder.withRedisConfig (changeAll config (call :: calls)) := ih (change config call)

/-- Redis settings that are put where they are already change nothing. -/
theorem withRedisConfig_self (redis : builder.config.store = .redis before) :
    builder.withRedisConfig before = builder := by
  rw [EngineBuilder.withRedisConfig, EngineBuilder.withStoreConfig, EngineBuilder.configure,
    ← redis]

theorem applyAll_eq (redis : builder.config.store = .redis before) (calls : List RedisSetter) :
    applyAll builder calls = builder.withRedisConfig (changeAll before calls) := by
  calc applyAll builder calls
      = applyAll (builder.withRedisConfig before) calls := by rw [withRedisConfig_self redis]
    _ = builder.withRedisConfig (changeAll before calls) :=
        applyAll_withRedisConfig builder before calls

/-! ## From one call to all calls -/

section Settings

variable {α : Type} (setting : RedisConfig → α) (given : RedisSetter → Option α)

theorem lastGiven_cons (before : α) (call : RedisSetter) (calls : List RedisSetter) :
    lastGiven given before (call :: calls) =
      lastGiven given ((given call).getD before) calls := by
  rw [lastGiven, List.filterMap_cons]
  cases given call with
  | none => rfl
  | some value => exact List.getLastD_cons

/-- A setting that each call sets, if it takes it, has the last value that was taken. -/
theorem setting_changeAll (step : ∀ call ∈ calls, ∀ config,
      setting (change config call) = (given call).getD (setting config)) (before : RedisConfig) :
    setting (changeAll before calls) = lastGiven given (setting before) calls := by
  induction calls generalizing before with
  | nil => rfl
  | cons call calls ih =>
      have later := ih (fun other inside => step other (List.mem_cons_of_mem _ inside))
        (change before call)
      rw [lastGiven_cons, ← step call List.mem_cons_self]
      exact later

/-- A setting that no call changes stays. -/
theorem setting_changeAll_of_untaken (step : ∀ call ∈ calls, ∀ config,
      setting (change config call) = setting config) (before : RedisConfig) :
    setting (changeAll before calls) = setting before := by
  have untaken : calls.filterMap (fun _ => (none : Option α)) = [] := by simp
  rw [setting_changeAll setting (fun _ => none) step, lastGiven, untaken]
  rfl

end Settings

/-- Every call but that for the address alone sets what it takes, and nothing else. -/
theorem change_eq {call : RedisSetter} (free : call.isAddressOnly = false) (config : RedisConfig) :
    change config call =
      { config with
        address := call.address?.getD config.address
        password := call.password?.getD config.password
        database := call.database?.getD config.database
        clientCache := call.clientCache?.getD config.clientCache } := by
  cases call with
  | addressOnly address => cases free
  | options address password database => rfl
  | clientCache size lifetime => rfl

theorem address_changeAll (before : RedisConfig) (calls : List RedisSetter) :
    (changeAll before calls).address = lastGiven address? before.address calls :=
  setting_changeAll RedisConfig.address address? (fun call _ _ => by cases call <;> rfl) before

theorem accumulated_changeAll (free : ∀ call ∈ calls, call.isAddressOnly = false)
    (before : RedisConfig) : before.Accumulated calls (changeAll before calls) where
  address := address_changeAll before calls
  password := setting_changeAll RedisConfig.password password?
    (fun call inside config => by rw [change_eq (free call inside)]) before
  database := setting_changeAll RedisConfig.database database?
    (fun call inside config => by rw [change_eq (free call inside)]) before
  clientCache := setting_changeAll RedisConfig.clientCache clientCache?
    (fun call inside config => by rw [change_eq (free call inside)]) before
  untaken := Prod.mk.inj <| setting_changeAll_of_untaken
    (fun config => (config.keyMark, config.connectTimeout))
    (fun call inside config => by rw [change_eq (free call inside)]) before

/-- What was set before a call that takes the address alone does not matter after it. -/
theorem changeAll_append_address (before : RedisConfig) (earlier : List RedisSetter)
    (address : String) (later : List RedisSetter) :
    changeAll before (earlier ++ .addressOnly address :: later) =
      changeAll (RedisConfig.withAddress {} address) later := by
  rw [changeAll, List.foldl_append]
  rfl

theorem setsRedis (redis : builder.config.store = .redis before) (calls : List RedisSetter) :
    builder.SetsRedis before calls (changeAll before calls) where
  only := applyAll_eq redis calls
  address := address_changeAll before calls
  kept free := accumulated_changeAll free before
  restarted := by
    rintro earlier address later rfl free
    rw [changeAll_append_address]
    exact accumulated_changeAll free _

/-! ## Where settings are lost -/

/-- The default beginning of the keys is what every further call leaves. -/
theorem keyMark_changeAll (default : before.keyMark = ({} : RedisConfig).keyMark)
    (calls : List RedisSetter) : (changeAll before calls).keyMark = ({} : RedisConfig).keyMark := by
  induction calls generalizing before with
  | nil => exact default
  | cons call calls ih =>
      have next : (change before call).keyMark = ({} : RedisConfig).keyMark := by
        cases call <;> first | rfl | exact default
      exact ih next

theorem accumulate_iff : Accumulate calls ↔ ∀ call ∈ calls, call.isAddressOnly = false := by
  constructor
  · intro accumulate call inside
    obtain ⟨earlier, later, split⟩ := List.append_of_mem inside
    cases call with
    | options address password database => rfl
    | clientCache size lifetime => rfl
    | addressOnly address =>
        -- Keys that begin otherwise do so no more after the call.
        let marked : RedisConfig := { keyMark := "" }
        have store := congrArg (fun builder => builder.config.store) <|
          applyAll_withRedisConfig {} marked calls
        have lost := (accumulate _ marked _ rfl store).untaken.1
        rw [split, changeAll_append_address] at lost
        have default : (RedisConfig.withAddress {} address).keyMark = ({} : RedisConfig).keyMark :=
          rfl
        exact absurd ((keyMark_changeAll default later).symm.trans lost) (by decide)
  · intro free builder before after redis store
    rw [applyAll_eq redis] at store
    cases store
    exact accumulated_changeAll free before

end RedisSetter

/--
Settings accumulate since the last call that takes the address alone, which
starts over from the defaults; the address itself is always the last one given.
Over all calls settings accumulate just when there is no such call.  An address
that is given to the demonstration service beside its settings is such a call.
-/
theorem redis_settings_accumulate_since_address (builder : EngineBuilder) (before : RedisConfig)
    (redis : builder.config.store = .redis before) (calls : List RedisSetter) :
    (∃ after, builder.SetsRedis before calls after) ∧
      (RedisSetter.Accumulate calls ↔ ∀ call ∈ calls, call.isAddressOnly = false) ∧
      ∀ (options : Demo.Options) (address : String), options.redisAddress = some address →
        (Demo.builder builder.config options).config.store = .redisAt address := by
  refine ⟨⟨_, RedisSetter.setsRedis redis calls⟩, RedisSetter.accumulate_iff,
    fun options address given => ?_⟩
  rw [Demo.builder, given]
  rfl

def securedServer : RedisConfig where
  address := "cache:6380"
  password := "hunter2"
  database := 3
  keyMark := "app:"
  connectTimeout := Span.ofSeconds 2
  clientCache := ⟨true, 1024, Span.ofSeconds 5⟩

def securedBuilder : EngineBuilder := .ofConfig { store := .redis securedServer }

/-- Two setters in turn, and the same server without the address that the service is given. -/
theorem redis_settings_accumulate_since_address_secured :
    securedBuilder.config.store = .redis securedServer ∧
      (∃ after, securedBuilder.SetsRedis securedServer
          [.options "cache:6381" "letmein" 4, .clientCache 2048 (Span.ofSeconds 9)] after ∧
        after.address = "cache:6381" ∧ after.password = "letmein" ∧ after.database = 4 ∧
        after.clientCache = ⟨true, 2048, Span.ofSeconds 9⟩ ∧ after.keyMark = "app:" ∧
        after.connectTimeout = Span.ofSeconds 2) ∧
      (Demo.builder securedBuilder.config { redisAddress := some "other:6379" }).config.store =
        .redisAt "other:6379" := by
  obtain ⟨⟨after, made⟩, -, replaces⟩ :=
    redis_settings_accumulate_since_address securedBuilder securedServer rfl
      [.options "cache:6381" "letmein" 4, .clientCache 2048 (Span.ofSeconds 9)]
  have accumulated := made.kept (by decide)
  exact ⟨rfl, ⟨after, made, accumulated.address, accumulated.password, accumulated.database,
    accumulated.clientCache, accumulated.untaken.1, accumulated.untaken.2⟩, replaces _ _ rfl⟩

/-- An address that is set alone takes all other settings of the server away. -/
theorem address_alone_forgets_credentials :
    (RedisSetter.applyAll securedBuilder [.addressOnly "other:6379"]).config.store =
        .redis { address := "other:6379" } ∧
      ¬ securedServer.Accumulated [.addressOnly "other:6379"] { address := "other:6379" } := by
  refine ⟨rfl, fun accumulated => ?_⟩
  have lost := accumulated.password
  exact absurd lost (by decide)

end SessionTokens
