import SessionTokens.Json.Basic

/-!
# Members of an object

A member list is a map that keeps the order in which names were first set.
Setting a known name keeps its place; removing a member moves the last member
into the gap.

A record with named fields is read from an object, or from an array of the
fields' values in their order.  Unknown members of an object are skipped; an
array may not be longer than the list of fields.
-/

namespace SessionTokens

abbrev Members := List (String × Json)

namespace Members

def get? (members : Members) (name : String) : Option Json :=
  (members.find? (·.1 = name)).map (·.2)

def contains (members : Members) (name : String) : Bool :=
  members.any (·.1 = name)

def names (members : Members) : List String := members.map (·.1)

/-- Sets a name: in its place when it is present, else at the end. -/
def set : Members → String → Json → Members
  | [], name, value => [(name, value)]
  | (other, old) :: rest, name, value =>
      if other = name then (name, value) :: rest else (other, old) :: set rest name value

def setAll (members pairs : Members) : Members :=
  pairs.foldl (fun members pair => members.set pair.1 pair.2) members

/-- The map of a list of pairs; of two pairs with one name the last value counts. -/
def ofPairs (pairs : Members) : Members := setAll [] pairs

/-- Removes a name, the last member taking its place. -/
def remove : Members → String → Members
  | [], _ => []
  | (other, value) :: rest, name =>
      if other = name then
        match rest.getLast? with
        | none => []
        | some last => last :: rest.dropLast
      else (other, value) :: remove rest name

def Distinct (members : Members) : Prop := members.names.Nodup

instance (members : Members) : Decidable members.Distinct :=
  inferInstanceAs (Decidable members.names.Nodup)

theorem distinct_cons {name : String} {value : Json} {rest : Members} :
    Distinct ((name, value) :: rest) ↔ name ∉ names rest ∧ Distinct rest :=
  List.nodup_cons

theorem mem_names_set {members : Members} {name : String} {value : Json} {other : String} :
    other ∈ (members.set name value).names ↔ other = name ∨ other ∈ members.names := by
  induction members with
  | nil => simp [set, names]
  | cons member rest ih =>
      simp only [names] at ih
      by_cases same : member.1 = name
      · simp [set, names, same]
      · simp only [set, same, if_false, names, List.map_cons, List.mem_cons, ih]
        grind

theorem distinct_set {members : Members} (distinct : members.Distinct) (name : String)
    (value : Json) : (members.set name value).Distinct := by
  induction members with
  | nil => simp [set, Distinct, names]
  | cons member rest ih =>
      obtain ⟨other, old⟩ := member
      have parts := distinct_cons.mp distinct
      by_cases same : other = name
      · subst same
        simpa [set] using distinct_cons.mpr parts
      · simp only [set, same, if_false]
        refine distinct_cons.mpr ⟨fun inside => ?_, ih parts.2⟩
        rcases mem_names_set.mp inside with equal | inside
        · exact same equal
        · exact parts.1 inside

theorem distinct_setAll {members : Members} (distinct : members.Distinct) (pairs : Members) :
    (members.setAll pairs).Distinct := by
  induction pairs generalizing members with
  | nil => exact distinct
  | cons pair rest ih => exact ih (distinct_set distinct pair.1 pair.2)

theorem distinct_ofPairs (pairs : Members) : (ofPairs pairs).Distinct :=
  distinct_setAll (by simp [Distinct, names]) pairs

theorem remove_perm {members : Members} (name : String) (distinct : members.Distinct) :
    (members.remove name).Perm (members.filter (·.1 ≠ name)) := by
  induction members with
  | nil => simp [remove]
  | cons member rest ih =>
      obtain ⟨other, value⟩ := member
      have parts := distinct_cons.mp distinct
      by_cases same : other = name
      · subst same
        have keep : rest.filter (·.1 ≠ other) = rest := by
          refine List.filter_eq_self.mpr fun member inside => ?_
          have differs : member.1 ≠ other := fun equal =>
            parts.1 (equal ▸ List.mem_map_of_mem inside)
          simpa using differs
        rw [List.filter_cons_of_neg (by simp), keep]
        rcases List.eq_nil_or_concat rest with empty | ⟨front, last, split⟩
        · simp [empty, remove]
        · subst split
          simpa [remove] using (List.perm_append_singleton last front).symm
      · simp only [remove, same, if_false]
        rw [List.filter_cons_of_pos (by simpa using same)]
        exact (ih parts.2).cons _

theorem distinct_remove {members : Members} (distinct : members.Distinct) (name : String) :
    (members.remove name).Distinct := by
  have perm := (remove_perm name distinct).map Prod.fst
  exact perm.nodup_iff.mpr ((List.filter_sublist.map Prod.fst).nodup distinct)

end Members

/-! ## Fields of a record -/

namespace Json

def fields? (names : List String) : Json → Option Members
  | .object members => some members
  | .array items => if items.length ≤ names.length then some (names.zip items) else none
  | _ => none

def textField? (fields : Members) (name : String) : Option String :=
  (Members.get? fields name).bind asString?

end Json

end SessionTokens
