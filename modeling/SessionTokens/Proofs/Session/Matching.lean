import SessionTokens.Proofs.Session.Effect

/-!
# One call over two stores

A call asks the store for at most one record, and what it changes does not depend
on any other.  So over two stores that answer this one question alike, it is
answered alike, and every relation of records that is kept by the same change to
both is kept by the call.
-/

namespace SessionTokens

/-- Whether a relation of records is kept when the same change is made to both. -/
structure MemoryStore.KeptByChanges (now : Instant) (related : MemoryStore → MemoryStore → Prop) :
    Prop where
  set : ∀ {left right}, related left right → ∀ token userData expiry,
    related (left.set now token userData expiry) (right.set now token userData expiry)
  delete : ∀ {left right}, related left right → ∀ token,
    related (left.delete token) (right.delete token)

namespace Store

/-- Whether two stores are in order, and their records in a relation. -/
structure Related (related : MemoryStore → MemoryStore → Prop) (left right : Store) : Prop where
  left_whole : left.faults = []
  right_whole : right.faults = []
  records : related left.memory right.memory

/-- Two outcomes over stores: the same answer, and records in a relation. -/
inductive Matches (related : MemoryStore → MemoryStore → Prop) {α : Type} :
    α × Store → α × Store → Prop where
  | intro (answer : α) {left right : Store} (after : Related related left right) :
      Matches related (answer, left) (answer, right)

theorem Matches.map {related : MemoryStore → MemoryStore → Prop} {α β : Type}
    {left right : α × Store} (same : Matches related left right) (change : α → β) :
    Matches related (left.map change id) (right.map change id) := by
  cases same with
  | intro answer after => exact .intro (change answer) after

end Store

namespace SessionEngine

open Store (Related Matches)

variable {engine : SessionEngine} {now : Instant} {left right : Store} {token : String}
  {related : MemoryStore → MemoryStore → Prop}

theorem deposit_matches (kept : MemoryStore.KeptByChanges now related)
    (stores : Related related left right) (pending : PendingPair) :
    Matches related (pending.deposit now left) (pending.deposit now right) := by
  rw [deposit_of_faults stores.left_whole, deposit_of_faults stores.right_whole]
  exact .intro _ ⟨stores.left_whole, stores.right_whole, kept.set stores.records _ _ _⟩

theorem generateTokenPair_matches (kept : MemoryStore.KeptByChanges now related)
    (stores : Related related left right) (draw : Bytes) (userData : Json) :
    Matches related (engine.generateTokenPair now draw userData left)
      (engine.generateTokenPair now draw userData right) := by
  rw [generateTokenPair, generateTokenPair, issuePair, issuePair]
  cases engine.preparePair now draw userData none with
  | error error => exact .intro _ stores
  | ok pending => exact deposit_matches kept stores pending

theorem rotate_matches (kept : MemoryStore.KeptByChanges now related)
    (stores : Related related left right)
    (taken : (left.memory.take now token).1 = (right.memory.take now token).1) (draw : Bytes) :
    Matches related (engine.rotate now draw token left) (engine.rotate now draw token right) := by
  rw [rotate, rotate, takeRecord_of_faults stores.left_whole,
    takeRecord_of_faults stores.right_whole, ← taken, MemoryStore.take_snd, MemoryStore.take_snd]
  have without : Related related { left with memory := left.memory.delete token }
      { right with memory := right.memory.delete token } :=
    ⟨stores.left_whole, stores.right_whole, kept.delete stores.records token⟩
  cases (left.memory.take now token).1 with
  | error error => exact .intro _ without
  | ok record =>
      simp only [mapError_ok]
      cases engine.renew now draw record with
      | error error => exact .intro _ without
      | ok pending => exact deposit_matches kept without pending

theorem revoke_matches (kept : MemoryStore.KeptByChanges now related)
    (stores : Related related left right) (token : String) :
    Matches related (revoke token left) (revoke token right) := by
  rw [revoke_of_faults stores.left_whole, revoke_of_faults stores.right_whole]
  split
  · exact .intro _ stores
  · exact .intro _ ⟨stores.left_whole, stores.right_whole, kept.delete stores.records token⟩

theorem login_matches (kept : MemoryStore.KeptByChanges now related)
    (stores : Related related left right) (draw : Bytes) (credentials : Json) :
    Matches related (engine.login now draw credentials left)
      (engine.login now draw credentials right) := by
  rw [login, login]
  cases engine.authenticate credentials with
  | error error => exact .intro _ stores
  | ok userData => exact (generateTokenPair_matches kept stores draw userData).map _

theorem refresh_matches (kept : MemoryStore.KeptByChanges now related)
    (stores : Related related left right) {request : Request}
    (taken : ∀ token, engine.admitRefresh now request = .ok token →
      (left.memory.take now token).1 = (right.memory.take now token).1) (draw : Bytes) :
    Matches related (engine.refresh now draw request left)
      (engine.refresh now draw request right) := by
  rw [refresh, refresh]
  cases admitted : engine.admitRefresh now request with
  | error error => exact .intro _ stores
  | ok token => exact (rotate_matches kept stores (taken token admitted) draw).map _

theorem refreshTokenPair_matches (kept : MemoryStore.KeptByChanges now related)
    (stores : Related related left right)
    (taken : token ≠ "" → (left.memory.take now token).1 = (right.memory.take now token).1)
    (draw : Bytes) :
    Matches related (engine.refreshTokenPair now draw token left)
      (engine.refreshTokenPair now draw token right) := by
  rw [refreshTokenPair, refreshTokenPair]
  split
  · exact .intro _ stores
  · next filled => exact rotate_matches kept stores (taken filled) draw

theorem logout_matches (kept : MemoryStore.KeptByChanges now related)
    (stores : Related related left right) (request : Request) :
    Matches related (engine.logout request left) (engine.logout request right) := by
  rw [logout, logout]
  cases engine.refreshToken request with
  | error error => exact .intro _ stores
  | ok token => exact (revoke_matches kept stores token).map _

/--
Over two stores a call is answered alike and keeps their relation, if the record
that it takes, the data that it reads, and the number that it tells are the same.
-/
theorem perform_matches (kept : MemoryStore.KeptByChanges now related)
    (stores : Related related left right) {call : Call} (other : call ≠ .cleanup)
    (taken : ∀ token, call.traded? engine now = some token →
      (left.memory.take now token).1 = (right.memory.take now token).1)
    (read : ∀ token, call = .get token → left.memory.get now token = right.memory.get now token)
    (counted : call = .count → left.memory.count now = right.memory.count now) :
    Matches related (engine.perform now left call) (engine.perform now right call) := by
  cases call with
  | login draw credentials => exact (login_matches kept stores draw credentials).map _
  | generateTokenPair draw userData =>
      exact (generateTokenPair_matches kept stores draw userData).map _
  | refresh draw request =>
      have admitted (token : String) (admits : engine.admitRefresh now request = .ok token) :
          (left.memory.take now token).1 = (right.memory.take now token).1 :=
        taken token (by rw [Call.traded?, admits, toOption_ok])
      exact (refresh_matches kept stores admitted draw).map _
  | refreshTokenPair draw token =>
      have presented (filled : token ≠ "") :
          (left.memory.take now token).1 = (right.memory.take now token).1 :=
        taken token (if_neg filled)
      exact (refreshTokenPair_matches kept stores presented draw).map _
  | logout request => exact (logout_matches kept stores request).map _
  | revoke token => exact (revoke_matches kept stores token).map _
  | get token =>
      rw [perform, perform, Store.get_of_faults stores.left_whole,
        Store.get_of_faults stores.right_whole, read token rfl]
      exact .intro _ stores
  | count =>
      rw [perform, perform, Store.count_of_faults stores.left_whole,
        Store.count_of_faults stores.right_whole, counted rfl]
      exact .intro _ stores
  | cleanup => exact absurd rfl other
  | _ => exact .intro _ stores

end SessionEngine

end SessionTokens
