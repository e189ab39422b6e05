import SessionTokens.Store.Basic

/-!
# Histories of a store

A store answers calls one after another.  A history is a list of calls with
their instants, the latest first; the instants need not be in any order.  What a
history says about a token can be read off it without a store: which record the
last `set` of the token made, and whether something removed it since.
-/

namespace SessionTokens

inductive StoreCall where
  | set (token : String) (userData : Json) (expiry : Instant)
  | get (token : String)
  | take (token : String)
  | delete (token : String)
  | cleanup
  | count

inductive StoreAnswer where
  | done (outcome : Except StoreError Unit)
  | read (outcome : Except StoreError Json)
  | taken (outcome : Except StoreError RefreshRecord)
  | counted (outcome : Except StoreError Nat)

def StoreCall.token? : StoreCall → Option String
  | .set token _ _ | .get token | .take token | .delete token => some token
  | .cleanup | .count => none

def Store.perform (now : Instant) (store : Store) : StoreCall → StoreAnswer × Store
  | .set token userData expiry => (store.set now token userData expiry).map .done id
  | .get token => (store.get now token).map .read id
  | .take token => (store.take now token).map .taken id
  | .delete token => (store.delete token).map .done id
  | .cleanup => (store.cleanup now).map .counted id
  | .count => (store.count now).map .counted id

/-- The records that a call leaves in memory, whatever it answers. -/
def StoreCall.leave (now : Instant) (records : MemoryStore) : StoreCall → MemoryStore
  | .set token userData expiry => records.set now token userData expiry
  | .take token | .delete token => records.delete token
  | .cleanup => (records.cleanup now).2
  | .get _ | .count => records

structure StoreEvent where
  now : Instant
  call : StoreCall

/-- The store in memory that a history leaves, from an empty one. -/
def Store.after : List StoreEvent → Store
  | [] => {}
  | event :: earlier => ((Store.after earlier).perform event.now event.call).2

namespace StoreEvent

def record? (event : StoreEvent) : Option RefreshRecord :=
  match event.call with
  | .set token userData expiry => some ⟨token, userData, expiry, event.now⟩
  | _ => none

def Sets (event : StoreEvent) (token : String) : Prop :=
  ∃ record, event.record? = some record ∧ record.token = token

end StoreEvent

def lastSet? (history : List StoreEvent) (token : String) : Option RefreshRecord :=
  (history.filterMap StoreEvent.record?).find? (·.token = token)

/--
Whether a call removes a token after an earlier history: it takes the token,
deletes it, or is a cleanup no earlier than the expiry that the token was last set with.
-/
def StoreEvent.Removes (event : StoreEvent) (earlier : List StoreEvent) (token : String) : Prop :=
  event.call = .take token ∨ event.call = .delete token ∨
    event.call = .cleanup ∧
      ∃ record, lastSet? earlier token = some record ∧ record.expiry ≤ event.now

/-- Whether some call of a history sets a token, and no call after it removes the token. -/
def Keeps (history : List StoreEvent) (token : String) : Prop :=
  ∃ later setting earlier, history = later ++ setting :: earlier ∧ setting.Sets token ∧
    ∀ newer event older, later = newer ++ event :: older →
      ¬ event.Removes (older ++ setting :: earlier) token

end SessionTokens
