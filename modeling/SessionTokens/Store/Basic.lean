import SessionTokens.Store.Config
import SessionTokens.Store.Memory

/-!
# Stores

A store answers six operations, each of which may be out of order.  A store on
a Redis server is not available here: all its operations fail.
-/

namespace SessionTokens

inductive StoreBackend where
  | memory
  | redis
  deriving DecidableEq, Repr

def StoreBackend.name : StoreBackend → String
  | .memory => "memory"
  | .redis => "redis"

inductive StoreOperation where
  | set
  | get
  | take
  | delete
  | cleanup
  | count
  deriving DecidableEq, Repr

def StoreOperation.all : List StoreOperation := [.set, .get, .take, .delete, .cleanup, .count]

def StoreOperation.name : StoreOperation → String
  | .set => "set"
  | .get => "get"
  | .take => "take"
  | .delete => "delete"
  | .cleanup => "cleanup"
  | .count => "count"

def StoreOperation.ofName? (name : String) : Option StoreOperation :=
  all.find? fun operation => operation.name = name

/-- A store: its kind, its records, and the operations that are out of order. -/
structure Store where
  backend : StoreBackend := .memory
  memory : MemoryStore := ⟨[], List.nodup_nil⟩
  faults : List (StoreOperation × StoreError) := []
  deriving DecidableEq

namespace Store

def fault? (store : Store) (operation : StoreOperation) : Option StoreError :=
  store.faults.lookup operation

def attempt {α : Type} (store : Store) (operation : StoreOperation)
    (run : MemoryStore → Except StoreError α × MemoryStore) : Except StoreError α × Store :=
  match store.fault? operation with
  | some error => (.error error, store)
  | none =>
      let (outcome, memory) := run store.memory
      (outcome, { store with memory })

def set (store : Store) (now : Instant) (token : String) (userData : Json) (expiry : Instant) :
    Except StoreError Unit × Store :=
  store.attempt .set fun memory => (.ok (), memory.set now token userData expiry)

def get (store : Store) (now : Instant) (token : String) : Except StoreError Json × Store :=
  store.attempt .get fun memory => (memory.get now token, memory)

def take (store : Store) (now : Instant) (token : String) :
    Except StoreError RefreshRecord × Store :=
  store.attempt .take fun memory => memory.take now token

def delete (store : Store) (token : String) : Except StoreError Unit × Store :=
  store.attempt .delete fun memory => (.ok (), memory.delete token)

/-- Purges records that are over, and counts them. -/
def cleanup (store : Store) (now : Instant) : Except StoreError Nat × Store :=
  store.attempt .cleanup fun memory =>
    let (purged, memory) := memory.cleanup now
    (.ok purged, memory)

/-- Counts the records that are not over. -/
def count (store : Store) (now : Instant) : Except StoreError Nat × Store :=
  store.attempt .count fun memory => (.ok (memory.count now), memory)

def redisDisabled : StoreError :=
  .configuration
    "Redis store feature not enabled. Enable the 'redis-store' feature in Cargo.toml to use the Redis backend."

def disabledRedis : Store where
  backend := .redis
  faults := StoreOperation.all.map fun operation => (operation, redisDisabled)

def ofConfig : StoreConfig → Except StoreError Store
  | .memory => .ok {}
  | .redis _ => .error redisDisabled

def ofConfigOrMemory (config : StoreConfig) : Store :=
  match ofConfig config with
  | .ok store => store
  | .error _ => {}

end Store

end SessionTokens
