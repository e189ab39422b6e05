import SessionTokens.Json.Parser

/-!
# Members as a map

Setting a name changes one place of a member list, which does not depend on the
value; removing the name forgets the value.  Merging changes no name, and leaves
members with different names in their order.
-/

namespace SessionTokens.Members

theorem get?_cons (member : String × Json) (members : Members) (name : String) :
    get? (member :: members) name =
      if member.1 = name then some member.2 else members.get? name := by
  by_cases same : member.1 = name <;> simp [get?, same]

theorem get?_append_cons {front : Members} {name : String} (absent : name ∉ front.names)
    (value : Json) (back : Members) : get? (front ++ (name, value) :: back) name = some value := by
  induction front with
  | nil => simp [get?_cons]
  | cons member front ih =>
      simp only [names, List.map_cons, List.mem_cons, not_or] at absent
      rw [List.cons_append, get?_cons, if_neg (Ne.symm absent.1)]
      exact ih absent.2

/-- A present name stands at a first place. -/
theorem exists_split_of_get? {members : Members} {name : String} {value : Json}
    (found : members.get? name = some value) :
    ∃ front back, name ∉ names front ∧ members = front ++ (name, value) :: back := by
  induction members with
  | nil => cases found
  | cons member members ih =>
      rw [get?_cons] at found
      by_cases same : member.1 = name
      · rw [if_pos same] at found
        cases found
        exact ⟨[], members, by simp [names], by rw [← same, List.nil_append]⟩
      · rw [if_neg same] at found
        obtain ⟨front, back, absent, split⟩ := ih found
        refine ⟨member :: front, back, ?_, by rw [split, List.cons_append]⟩
        simpa [names, Ne.symm same] using absent

/-- Every member after setting one is the one that was set, or was there before. -/
theorem mem_of_mem_set {members : Members} {name : String} {value : Json}
    {member : String × Json} (inside : member ∈ members.set name value) :
    member = (name, value) ∨ member ∈ members := by
  induction members with
  | nil => exact .inl (List.mem_singleton.mp inside)
  | cons first rest ih =>
      by_cases same : first.1 = name
      · rw [set, if_pos same] at inside
        exact (List.mem_cons.mp inside).imp_right (List.mem_cons_of_mem _)
      · rw [set, if_neg same] at inside
        rcases List.mem_cons.mp inside with rfl | later
        · exact .inr List.mem_cons_self
        · exact (ih later).imp_right (List.mem_cons_of_mem _)

/-- What holds of all values holds of them after setting one of which it holds. -/
theorem forall_set {members : Members} {value : Json} {holds : Json → Prop}
    (all : ∀ member ∈ members, holds member.2) (new : holds value) (name : String) :
    ∀ member ∈ members.set name value, holds member.2 := by
  intro member inside
  rcases mem_of_mem_set inside with rfl | old
  · exact new
  · exact all member old

/-- A member other than the one that is set keeps its value. -/
theorem get?_set_of_ne {name other : String} (differs : other ≠ name) (members : Members)
    (value : Json) : (members.set name value).get? other = members.get? other := by
  induction members with
  | nil => simp [set, Ne.symm differs, get?]
  | cons member members ih =>
      by_cases same : member.1 = name
      · simp [set, same, get?_cons, Ne.symm differs]
      · simp [set, same, get?_cons, ih]

/-- Setting a name puts its value at one place, which does not depend on the value. -/
theorem exists_set_eq (members : Members) (name : String) :
    ∃ front back, name ∉ names front ∧
      ∀ value, members.set name value = front ++ (name, value) :: back := by
  induction members with
  | nil => exact ⟨[], [], by simp [names], fun _ => rfl⟩
  | cons member members ih =>
      by_cases same : member.1 = name
      · exact ⟨[], members, by simp [names], fun value => by simp [set, same]⟩
      · obtain ⟨front, back, absent, split⟩ := ih
        refine ⟨member :: front, back, ?_, fun value => by simp [set, same, split]⟩
        simpa [names, Ne.symm same] using absent

@[simp] theorem get?_set (members : Members) (name : String) (value : Json) :
    (members.set name value).get? name = some value := by
  obtain ⟨front, back, absent, split⟩ := exists_set_eq members name
  rw [split]
  exact get?_append_cons absent value back

/-- Setting another name keeps a member at a place that does not depend on its value. -/
theorem exists_set_append_eq {front : Members} {name other : String} (differs : other ≠ name)
    (absent : name ∉ front.names) (back : Members) (set : Json) :
    ∃ front' back', name ∉ names front' ∧
      ∀ value, (front ++ (name, value) :: back).set other set =
        front' ++ (name, value) :: back' := by
  induction front with
  | nil =>
      exact ⟨[], back.set other set, by simp [names], fun value => by
        simp [Members.set, Ne.symm differs]⟩
  | cons member front ih =>
      simp only [names, List.map_cons, List.mem_cons, not_or] at absent
      by_cases same : member.1 = other
      · refine ⟨(other, set) :: front, back, ?_, fun value => by simp [Members.set, same]⟩
        simpa [names, Ne.symm differs] using absent.2
      · obtain ⟨front', back', absent', split⟩ := ih absent.2
        refine ⟨member :: front', back', ?_, fun value => by simp [Members.set, same, split]⟩
        simpa [names, absent.1] using absent'

/-- Removing a name forgets its value. -/
theorem remove_append_cons {front : Members} {name : String} (absent : name ∉ front.names)
    (value other : Json) (back : Members) :
    remove (front ++ (name, value) :: back) name =
      remove (front ++ (name, other) :: back) name := by
  induction front with
  | nil => simp [remove]
  | cons member front ih =>
      simp only [names, List.map_cons, List.mem_cons, not_or] at absent
      simp only [List.cons_append, remove, Ne.symm absent.1, if_false]
      rw [ih absent.2]

/-- Removing a name forgets that it was set. -/
theorem remove_set (members : Members) (name : String) (value : Json) :
    (members.set name value).remove name = members.remove name := by
  induction members with
  | nil => simp [set, remove]
  | cons member rest ih =>
      by_cases same : member.1 = name
      · simp [set, remove, same]
      · simp [set, remove, same, ih]

theorem remove_eq_self {members : Members} {name : String} (absent : name ∉ members.names) :
    members.remove name = members := by
  induction members with
  | nil => rfl
  | cons member rest ih =>
      simp only [names, List.map_cons, List.mem_cons, not_or] at absent
      simp only [remove, Ne.symm absent.1, if_false]
      rw [ih absent.2]

theorem set_append_of_mem {front : Members} {name : String} (present : name ∈ front.names)
    (back : Members) (value : Json) : set (front ++ back) name value = front.set name value ++ back := by
  induction front with
  | nil => simp [names] at present
  | cons member front ih =>
      simp only [names, List.map_cons, List.mem_cons] at present
      by_cases same : member.1 = name
      · simp [set, same]
      · simp [set, same, ih (present.resolve_left (Ne.symm same))]

theorem set_append_of_not_mem {front : Members} {name : String} (absent : name ∉ front.names)
    (back : Members) (value : Json) : set (front ++ back) name value = front ++ back.set name value := by
  induction front with
  | nil => rfl
  | cons member front ih =>
      simp only [names, List.map_cons, List.mem_cons, not_or] at absent
      simp [set, Ne.symm absent.1, ih absent.2]

theorem set_eq_append {members : Members} {name : String} (absent : name ∉ members.names)
    (value : Json) : members.set name value = members ++ [(name, value)] := by
  simpa [set] using set_append_of_not_mem absent [] value

theorem remove_head (name : String) (value : Json) (front : Members) (last : String × Json) :
    remove ((name, value) :: (front ++ [last])) name = last :: front := by
  simp [remove]

/-- Removing two names forgets that the second was set, although the first removal moves members. -/
theorem remove_remove_set {members : Members} (distinct : members.Distinct) {name other : String}
    (differs : name ≠ other) (value : Json) :
    ((members.set other value).remove name).remove other = (members.remove name).remove other := by
  induction members with
  | nil => simp [set, remove, Ne.symm differs]
  | cons member rest ih =>
      obtain ⟨first, old⟩ := member
      by_cases isOther : first = other
      · subst isOther
        simp [set, remove, Ne.symm differs]
      by_cases isName : first = name
      · subst isName
        simp only [set, isOther, if_false]
        -- The last member moves to the front: another one, the one that is set, or a new one.
        obtain rfl | ⟨front, last, rfl⟩ := List.eq_nil_or_concat rest
        · simp [set, remove]
        rw [List.concat_eq_append] at distinct ⊢
        rw [remove_head]
        by_cases inFront : other ∈ names front
        · have lastDiffers : last.1 ≠ other := by
            rintro rfl
            have rest := (distinct_cons.mp distinct).2
            rw [Distinct, names, List.map_append] at rest
            exact (List.nodup_append.mp rest).2.2 _ inFront _ (by simp) rfl
          rw [set_append_of_mem inFront, remove_head]
          simp only [remove, lastDiffers, if_false, remove_set]
        rw [set_append_of_not_mem inFront]
        by_cases isLast : last.1 = other
        · simp [set, isLast, remove]
        · have absent : other ∉ names (last :: front) := by
            simpa [names, Ne.symm isLast] using inFront
          simp only [set, isLast, if_false]
          rw [List.append_cons, remove_head, remove_head, remove_eq_self absent]
      · simp only [set, isOther, if_false, remove, isName]
        rw [ih (distinct_cons.mp distinct).2]

theorem setAll_eq_append {members pairs : Members} (distinct : (members ++ pairs).Distinct) :
    members.setAll pairs = members ++ pairs := by
  induction pairs generalizing members with
  | nil => simp [setAll]
  | cons pair pairs ih =>
      have absent : pair.1 ∉ members.names := by
        intro inside
        have parts := List.nodup_append.mp (show (members.names ++ names (pair :: pairs)).Nodup by
          simpa [Distinct, names] using distinct)
        exact parts.2.2 _ inside _ (by simp [names]) rfl
      have step : (members ++ [pair] ++ pairs).Distinct := by simpa using distinct
      have rest := ih step
      simpa [setAll, set_eq_append absent] using rest

/-- Members with different names are the map of themselves. -/
theorem ofPairs_eq_self {pairs : Members} (distinct : pairs.Distinct) : ofPairs pairs = pairs := by
  have whole := @setAll_eq_append [] pairs distinct
  simpa [ofPairs] using whole

theorem mergeMembers_append (front back : Members) :
    Json.mergeMembers (front ++ back) = Json.mergeMembers front ++ Json.mergeMembers back := by
  induction front with
  | nil => rfl
  | cons member front ih => simp [Json.mergeMembers, ih]

@[simp] theorem names_mergeMembers (members : Members) :
    names (Json.mergeMembers members) = names members := by
  induction members with
  | nil => rfl
  | cons member members ih => exact congrArg (member.1 :: ·) ih

end SessionTokens.Members
