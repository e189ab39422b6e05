import SessionTokens.Settings.Path

/-!
# Settings put at a path

What a tree has at a name after a value was put somewhere.  Putting a value at
a path changes the entry that the path begins with and no other, and a table
remains a table.
-/

namespace SessionTokens.Setting

/-! ## Entries -/

/-- A name in entries with a first one. -/
theorem lookup_cons (name first : String) (value : Setting) (rest : Entries) :
    List.lookup name ((first, value) :: rest) =
      if name = first then some value else List.lookup name rest := by
  by_cases same : name = first
  · simp [same]
  · rw [List.lookup_cons, beq_false_of_ne same, if_neg same]

/-- After a change under a name, that name has the changed value and any other what it had. -/
theorem lookup_changeEntry (change : Setting → Setting) (name other : String)
    (entries : Entries) :
    (changeEntry change name entries).lookup other =
      if other = name then some (change ((entries.lookup name).getD .absent))
      else entries.lookup other := by
  induction entries with
  | nil => simp [changeEntry, lookup_cons]
  | cons entry rest ih =>
      obtain ⟨first, value⟩ := entry
      by_cases here : first = name
      · subst here
        by_cases same : other = first <;> simp [changeEntry, lookup_cons, same]
      · by_cases same : other = first
        · subst same
          simp [changeEntry, here]
        · simp [changeEntry, lookup_cons, here, Ne.symm here, same, ih]

/-- A field after a change under its name. -/
@[simp]
theorem field?_changeEntry_self {α : Type} (change : Setting → Setting) (name : String)
    (entries : Entries) (read : Setting → Option α) (default : α) :
    field? (changeEntry change name entries) name read default =
      read (change ((entries.lookup name).getD .absent)) := by
  simp [field?, lookup_changeEntry]

/-- A field after a change under another name. -/
theorem field?_changeEntry_of_ne {α : Type} (change : Setting → Setting) {name other : String}
    (different : other ≠ name) (entries : Entries) (read : Setting → Option α) (default : α) :
    field? (changeEntry change name entries) other read default =
      field? entries other read default := by
  simp [field?, lookup_changeEntry, different]

/-! ## Trees -/

/-- A scalar put over a value replaces it. -/
@[simp]
theorem merge_text (setting : Setting) (text : String) : setting.merge (.text text) = .text text := by
  simp [merge]

/-- Every path begins with a name. -/
theorem readPath_eq_cons (name : String) :
    ∃ first steps, readPath name = .entry first :: steps := by
  unfold readPath
  cases readPathName? name.toList with
  | none => exact ⟨name, [], rfl⟩
  | some found =>
      obtain ⟨first, rest⟩ := found
      cases read : readSteps rest.length rest with
      | none => exact ⟨name, [], by simp [read]⟩
      | some steps => exact ⟨first, steps, by simp [read]⟩

/-- A value that is put into a tree goes under the name that its path begins with. -/
theorem put_of_readPath {name first : String} {steps : List PathStep}
    (path : readPath name = .entry first :: steps) (setting value : Setting) :
    setting.put name value =
      .table (changeEntry (changeAt (fun old => old.merge value) steps) first
        setting.entries) := by
  rw [put, path]
  cases setting <;> simp only [changeAt]

/-- A value under the name of an entry. -/
theorem put_of_readPath_one {name field : String} (path : readPath name = [.entry field])
    (entries : Entries) (value : Setting) :
    (Setting.table entries).put name value =
      .table (changeEntry (fun old => old.merge value) field entries) := by
  rw [put_of_readPath path]
  simp only [changeAt]
  rfl

/-- A value under the name of an entry in a section. -/
theorem put_of_readPath_two {name home field : String}
    (path : readPath name = [.entry home, .entry field]) (entries : Entries) (value : Setting) :
    (Setting.table entries).put name value =
      .table (changeEntry
        (fun old => .table (changeEntry (fun old => old.merge value) field old.entries))
        home entries) := by
  rw [put_of_readPath path]
  simp only [changeAt]
  rfl

/-- A tree is a table once a value was put into it. -/
theorem put_eq_table (setting : Setting) (name : String) (value : Setting) :
    ∃ entries, setting.put name value = .table entries := by
  obtain ⟨first, steps, path⟩ := readPath_eq_cons name
  exact ⟨_, put_of_readPath path setting value⟩

/-- A table remains a table when values are put into it. -/
theorem putAll_eq_table (entries : Entries) (values : Entries) :
    ∃ final, (Setting.table entries).putAll values = .table final := by
  induction values generalizing entries with
  | nil => exact ⟨entries, rfl⟩
  | cons value rest ih =>
      obtain ⟨next, put⟩ := put_eq_table (.table entries) value.1 value.2
      obtain ⟨final, rest⟩ := ih next
      exact ⟨final, by rw [putAll, List.foldl_cons, put]; exact rest⟩

/-- Putting in some values and then others. -/
theorem putAll_append (setting : Setting) (first second : Entries) :
    setting.putAll (first ++ second) = (setting.putAll first).putAll second :=
  List.foldl_append

end SessionTokens.Setting
