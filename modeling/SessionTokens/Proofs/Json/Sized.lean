import SessionTokens.Proofs.Json.Exact
import SessionTokens.Proofs.Json.Range

/-!
# Values of any program read back

A value whose numbers fit 64 bits has a text that is read if and only if it is
not nested too deeply.  A floating-point number need not come back as it was; that
some number comes back is all that is said here.  Both directions are shown by
recursion over the value, its items and its members.
-/

namespace SessionTokens.Json

mutual

theorem reread_ne_none : (value : Json) → (depth : Nat) → value.isSized = true →
    value.nesting ≤ depth → reread depth value ≠ none
  | .null, depth, _, _ => by cases depth <;> nofun
  | .bool _, depth, _, _ => by cases depth <;> nofun
  | .int value, depth, sized, _ => by
      rw [isSized, decide_eq_true_eq] at sized
      rw [reread_int sized depth]
      nofun
  | .float value, depth, sized, _ => by
      rw [isSized] at sized
      cases depth <;> exact fun lost => readNumber_float_ne_none sized (Option.map_eq_none_iff.mp lost)
  | .string _, depth, _, _ => by cases depth <;> nofun
  | .array _, 0, _, shallow => by simp [nesting] at shallow
  | .object _, 0, _, shallow => by simp [nesting] at shallow
  | .array items, depth + 1, sized, shallow => by
      rw [isSized] at sized
      rw [nesting, Nat.add_le_add_iff_right] at shallow
      rw [reread]
      exact fun lost => rereadItems_ne_none items depth sized shallow (Option.map_eq_none_iff.mp lost)
  | .object members, depth + 1, sized, shallow => by
      rw [isSized] at sized
      rw [nesting, Nat.add_le_add_iff_right] at shallow
      rw [reread]
      exact fun lost =>
        rereadMembers_ne_none members depth sized shallow (Option.map_eq_none_iff.mp lost)

theorem rereadItems_ne_none : (items : List Json) → (depth : Nat) → sizedItems items = true →
    nestingItems items ≤ depth → rereadItems depth items ≠ none
  | [], _, _, _ => nofun
  | item :: rest, depth, sized, shallow => by
      rw [sizedItems, Bool.and_eq_true] at sized
      rw [nestingItems, Nat.max_le] at shallow
      obtain ⟨first, firstRead⟩ := Option.ne_none_iff_exists'.mp
        (reread_ne_none item depth sized.1 shallow.1)
      obtain ⟨others, othersRead⟩ := Option.ne_none_iff_exists'.mp
        (rereadItems_ne_none rest depth sized.2 shallow.2)
      rw [rereadItems, firstRead, othersRead]
      nofun

theorem rereadMembers_ne_none : (members : List (String × Json)) → (depth : Nat) →
    sizedMembers members = true → nestingMembers members ≤ depth →
      rereadMembers depth members ≠ none
  | [], _, _, _ => nofun
  | (name, value) :: rest, depth, sized, shallow => by
      rw [sizedMembers, Bool.and_eq_true] at sized
      rw [nestingMembers, Nat.max_le] at shallow
      obtain ⟨first, firstRead⟩ := Option.ne_none_iff_exists'.mp
        (reread_ne_none value depth sized.1 shallow.1)
      obtain ⟨others, othersRead⟩ := Option.ne_none_iff_exists'.mp
        (rereadMembers_ne_none rest depth sized.2 shallow.2)
      rw [rereadMembers, firstRead, othersRead]
      nofun

end

mutual

/-- What is read back is not nested more deeply than it may be. -/
theorem nesting_le_of_reread : (value : Json) → (depth : Nat) → reread depth value ≠ none →
    value.nesting ≤ depth
  | .null, _, _ => Nat.zero_le _
  | .bool _, _, _ => Nat.zero_le _
  | .int _, _, _ => Nat.zero_le _
  | .float _, _, _ => Nat.zero_le _
  | .string _, _, _ => Nat.zero_le _
  | .array _, 0, held => absurd rfl held
  | .object _, 0, held => absurd rfl held
  | .array items, depth + 1, held => by
      rw [reread, Ne, Option.map_eq_none_iff] at held
      rw [nesting, Nat.add_le_add_iff_right]
      exact nestingItems_le_of_reread items depth held
  | .object members, depth + 1, held => by
      rw [reread, Ne, Option.map_eq_none_iff] at held
      rw [nesting, Nat.add_le_add_iff_right]
      exact nestingMembers_le_of_reread members depth held

theorem nestingItems_le_of_reread : (items : List Json) → (depth : Nat) →
    rereadItems depth items ≠ none → nestingItems items ≤ depth
  | [], _, _ => Nat.zero_le _
  | item :: rest, depth, held => by
      obtain ⟨read, found⟩ := Option.ne_none_iff_exists'.mp held
      rw [rereadItems] at found
      obtain ⟨first, firstRead, found⟩ := Option.bind_eq_some_iff.mp found
      obtain ⟨others, othersRead, -⟩ := Option.bind_eq_some_iff.mp found
      rw [nestingItems, Nat.max_le]
      exact ⟨nesting_le_of_reread item depth (by rw [firstRead]; nofun),
        nestingItems_le_of_reread rest depth (by rw [othersRead]; nofun)⟩

theorem nestingMembers_le_of_reread : (members : List (String × Json)) → (depth : Nat) →
    rereadMembers depth members ≠ none → nestingMembers members ≤ depth
  | [], _, _ => Nat.zero_le _
  | (_, value) :: rest, depth, held => by
      obtain ⟨read, found⟩ := Option.ne_none_iff_exists'.mp held
      rw [rereadMembers] at found
      obtain ⟨first, firstRead, found⟩ := Option.bind_eq_some_iff.mp found
      obtain ⟨others, othersRead, -⟩ := Option.bind_eq_some_iff.mp found
      rw [nestingMembers, Nat.max_le]
      exact ⟨nesting_le_of_reread value depth (by rw [firstRead]; nofun),
        nestingMembers_le_of_reread rest depth (by rw [othersRead]; nofun)⟩

end

/-! ## Setting a member -/

theorem sizedMembers_iff {members : Members} :
    sizedMembers members = true ↔ ∀ member ∈ members, member.2.isSized = true := by
  induction members with
  | nil => simp [sizedMembers]
  | cons member rest ih => rw [sizedMembers, Bool.and_eq_true, ih, List.forall_mem_cons]

theorem sizedMembers_set {members : Members} {value : Json} (sized : sizedMembers members = true)
    (valueSized : value.isSized = true) (name : String) :
    sizedMembers (members.set name value) = true := by
  rw [sizedMembers_iff] at sized ⊢
  exact @Members.forall_set _ _ (fun value => value.isSized = true) sized valueSized name

end SessionTokens.Json
