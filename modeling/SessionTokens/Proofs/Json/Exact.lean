import SessionTokens.Json.Exact
import SessionTokens.Proofs.Json.Members
import SessionTokens.Proofs.Json.Reading

/-!
# Exact values read back

A value that is exact and not nested too deeply comes back from its text as it
was, and merging changes nothing in it.  Both are shown by recursion over the
value, its items and its members.
-/

namespace SessionTokens

namespace Json

theorem isExact_int {value : Int} : (Json.int value).isExact = true ↔ IsWord value := by
  rw [isExact, decide_eq_true_eq, IsWord]

mutual

theorem reread_of_isExact : (value : Json) → (depth : Nat) → value.isExact = true →
    value.nesting ≤ depth → reread depth value = some value
  | .null, depth, _, _ => by cases depth <;> rfl
  | .bool _, depth, _, _ => by cases depth <;> rfl
  | .int _, depth, exact, _ => reread_int (isExact_int.mp exact) depth
  | .float _, _, exact, _ => by cases exact
  | .string _, depth, _, _ => by cases depth <;> rfl
  | .array _, 0, _, shallow => by simp [nesting] at shallow
  | .object _, 0, _, shallow => by simp [nesting] at shallow
  | .array items, depth + 1, exact, shallow => by
      rw [isExact] at exact
      rw [nesting, Nat.add_le_add_iff_right] at shallow
      rw [reread, rereadItems_of_exactItems items depth exact shallow, Option.map_some]
  | .object members, depth + 1, exact, shallow => by
      rw [isExact, Bool.and_eq_true] at exact
      rw [nesting, Nat.add_le_add_iff_right] at shallow
      rw [reread, rereadMembers_of_exactMembers members depth exact.2 shallow, Option.map_some]

theorem rereadItems_of_exactItems : (items : List Json) → (depth : Nat) →
    exactItems items = true → nestingItems items ≤ depth → rereadItems depth items = some items
  | [], _, _, _ => rfl
  | item :: rest, depth, exact, shallow => by
      rw [exactItems, Bool.and_eq_true] at exact
      rw [nestingItems, Nat.max_le] at shallow
      rw [rereadItems, reread_of_isExact item depth exact.1 shallow.1,
        rereadItems_of_exactItems rest depth exact.2 shallow.2]
      rfl

theorem rereadMembers_of_exactMembers : (members : List (String × Json)) → (depth : Nat) →
    exactMembers members = true → nestingMembers members ≤ depth →
      rereadMembers depth members = some members
  | [], _, _, _ => rfl
  | (name, value) :: rest, depth, exact, shallow => by
      rw [exactMembers, Bool.and_eq_true] at exact
      rw [nestingMembers, Nat.max_le] at shallow
      rw [rereadMembers, reread_of_isExact value depth exact.1 shallow.1,
        rereadMembers_of_exactMembers rest depth exact.2 shallow.2]
      rfl

end

mutual

theorem merge_of_isExact : (value : Json) → value.isExact = true → merge value = value
  | .null, _ => rfl
  | .bool _, _ => rfl
  | .int _, _ => rfl
  | .float _, _ => rfl
  | .string _, _ => rfl
  | .array items, exact => by
      rw [isExact] at exact
      rw [merge, mergeItems_of_exactItems items exact]
  | .object members, exact => by
      rw [isExact, Bool.and_eq_true, decide_eq_true_eq] at exact
      rw [merge, mergeMembers_of_exactMembers members exact.2, Members.ofPairs_eq_self exact.1]

theorem mergeItems_of_exactItems : (items : List Json) → exactItems items = true →
    mergeItems items = items
  | [], _ => rfl
  | item :: rest, exact => by
      rw [exactItems, Bool.and_eq_true] at exact
      rw [mergeItems, merge_of_isExact item exact.1, mergeItems_of_exactItems rest exact.2]

theorem mergeMembers_of_exactMembers : (members : List (String × Json)) →
    exactMembers members = true → mergeMembers members = members
  | [], _ => rfl
  | (name, value) :: rest, exact => by
      rw [exactMembers, Bool.and_eq_true] at exact
      rw [mergeMembers, merge_of_isExact value exact.1, mergeMembers_of_exactMembers rest exact.2]

end

/-! ## Setting a member -/

theorem exactMembers_iff {members : Members} :
    exactMembers members = true ↔ ∀ member ∈ members, member.2.isExact = true := by
  induction members with
  | nil => simp [exactMembers]
  | cons member rest ih => rw [exactMembers, Bool.and_eq_true, ih, List.forall_mem_cons]

theorem nestingMembers_le_iff {members : Members} {depth : Nat} :
    nestingMembers members ≤ depth ↔ ∀ member ∈ members, member.2.nesting ≤ depth := by
  induction members with
  | nil => simp [nestingMembers]
  | cons member rest ih => rw [nestingMembers, Nat.max_le, ih, List.forall_mem_cons]

theorem exactMembers_set {members : Members} {value : Json} (exact : exactMembers members = true)
    (valueExact : value.isExact = true) (name : String) :
    exactMembers (members.set name value) = true := by
  rw [exactMembers_iff] at exact ⊢
  exact @Members.forall_set _ _ (fun value => value.isExact = true) exact valueExact name

theorem nestingMembers_set_le {members : Members} {value : Json} {depth : Nat}
    (shallow : nestingMembers members ≤ depth) (valueShallow : value.nesting ≤ depth)
    (name : String) : nestingMembers (members.set name value) ≤ depth := by
  rw [nestingMembers_le_iff] at shallow ⊢
  exact @Members.forall_set _ _ (fun value => value.nesting ≤ depth) shallow valueShallow name

end Json

end SessionTokens
