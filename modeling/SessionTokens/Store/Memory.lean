import SessionTokens.Json.Members
import SessionTokens.Store.Error
import SessionTokens.Time.Calendar

/-!
# Records in memory

What a store keeps for a refresh token, and a map from refresh tokens to such
records.  A record is over at its expiry, that instant included.  Looking at the
map never changes it: a record that is over stays until it is taken, deleted,
replaced or purged.
-/

namespace SessionTokens

structure RefreshRecord where
  token : String
  userData : Json
  expiry : Instant
  created : Instant
  deriving DecidableEq

namespace RefreshRecord

def isExpiredAt (record : RefreshRecord) (now : Instant) : Bool := record.expiry ≤ now

def remainingAt? (record : RefreshRecord) (now : Instant) : Option Span :=
  let left := record.expiry.since now
  if 0 < left then some ⟨left.toNat⟩ else none

def fields : List String := ["token", "user_data", "expiry", "created"]

def toJson (record : RefreshRecord) : Json :=
  .object
    [("token", .string record.token), ("user_data", record.userData),
      ("expiry", .string (Calendar.write record.expiry)),
      ("created", .string (Calendar.write record.created))]

def read? (value : Json) : Option RefreshRecord := do
  let entries ← value.fields? fields
  let token ← Json.textField? entries "token"
  let userData ← Members.get? entries "user_data"
  let expiry ← (Json.textField? entries "expiry").bind Calendar.read?
  let created ← (Json.textField? entries "created").bind Calendar.read?
  return ⟨token, userData, expiry, created⟩

end RefreshRecord

/-! ## Records by token -/

/-- Records by token, no token twice. -/
@[ext]
structure MemoryStore where
  records : List (String × RefreshRecord) := []
  distinct : (records.map Prod.fst).Nodup := by decide
  deriving DecidableEq

namespace MemoryStore

def tokens (store : MemoryStore) : List String := store.records.map (·.1)

/-- The number of records, those included that are over. -/
def storedCount (store : MemoryStore) : Nat := store.records.length

/-- The record of a token, whether or not it is over. -/
def record? (store : MemoryStore) (token : String) : Option RefreshRecord :=
  store.records.lookup token

def keep (store : MemoryStore) (admits : String × RefreshRecord → Bool) : MemoryStore :=
  ⟨store.records.filter admits, store.distinct.sublist (List.filter_sublist.map _)⟩

def delete (store : MemoryStore) (token : String) : MemoryStore := store.keep (·.1 ≠ token)

theorem not_mem_delete (store : MemoryStore) (token : String) :
    token ∉ (store.delete token).records.map Prod.fst := by
  simp [delete, keep]

/-- The map with a record in place of any record of the same token. -/
def set (store : MemoryStore) (now : Instant) (token : String) (userData : Json)
    (expiry : Instant) : MemoryStore where
  records := (token, ⟨token, userData, expiry, now⟩) :: (store.delete token).records
  distinct := List.nodup_cons.mpr ⟨not_mem_delete store token, (store.delete token).distinct⟩

def get (store : MemoryStore) (now : Instant) (token : String) : Except StoreError Json :=
  match store.record? token with
  | some record => if record.isExpiredAt now then .error .notFound else .ok record.userData
  | none => .error .notFound

/-- The record of a token, removed whether or not it is over, and handed out if it is not. -/
def take (store : MemoryStore) (now : Instant) (token : String) :
    Except StoreError RefreshRecord × MemoryStore :=
  match store.record? token with
  | some record =>
      (if record.isExpiredAt now then .error .notFound else .ok record, store.delete token)
  | none => (.error .notFound, store)

/-- The number of removed records, and the map without the records that are over. -/
def cleanup (store : MemoryStore) (now : Instant) : Nat × MemoryStore :=
  let kept := store.keep fun entry => !entry.2.isExpiredAt now
  (store.records.length - kept.records.length, kept)

def count (store : MemoryStore) (now : Instant) : Nat :=
  (store.keep fun entry => !entry.2.isExpiredAt now).records.length

end MemoryStore

end SessionTokens
