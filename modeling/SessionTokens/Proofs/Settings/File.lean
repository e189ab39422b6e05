import SessionTokens.Proofs.Outcome
import SessionTokens.Proofs.Settings.Path
import SessionTokens.Settings.Texts

/-!
# Configuration files loaded

A file is loaded by reading its tree, with the settings of the environment put
over it, and by checking what was read.
-/

namespace SessionTokens.SessionConfig

variable {read : FileReader} {path scope : String} {environment : List (String × String)}

/-- The settings of a file with others put over them are those of its tree with the others. -/
theorem settings?_eq_map (read : FileReader) (format : FileFormat) (path : String)
    (overrides : Entries) :
    settings? read format path overrides =
      (settings? read format path []).map (·.putAll overrides) := by
  simp only [settings?]
  cases contents? read format path with
  | none => rfl
  | some octets =>
      cases parsed : format.parse? (Utf8.decodeLossy (withoutMark octets)) with
      | none => simp [parsed]
      | some entries => simp [parsed, Setting.putAll]

/-- The tree of a file is a table. -/
theorem tree?_eq_table {tree : Setting} (file : tree? read path = some tree) :
    ∃ entries, tree = .table entries := by
  simp only [tree?, settings?, Option.bind_eq_bind, Option.bind_eq_some_iff, Option.pure_def,
    Option.some.injEq] at file
  obtain ⟨_, -, _, -, entries, -, rfl⟩ := file
  exact Setting.putAll_eq_table [] entries

/-- The outcome of loading a file that is there and has settings. -/
theorem load_of_tree? {tree : Setting} (present : read path ≠ .error .missing)
    (file : tree? read path = some tree) (environment : List (String × String))
    (scope : String) :
    load read environment path scope =
      match read? .lenient (tree.putAll (Environment.settings scope environment)) with
      | none => .error (.parse "unreadable")
      | some config => config.validate.map fun _ => config := by
  obtain ⟨format, extension, file⟩ := Option.bind_eq_some_iff.mp file
  unfold load
  dsimp only
  split
  · next missing => exact absurd missing present
  · rw [if_neg Bool.false_ne_true, extension]
    dsimp only
    rw [settings?_eq_map, file, Option.map_some, Option.bind_some]
    cases read? .lenient (tree.putAll (Environment.settings scope environment)) with
    | none => rfl
    | some config => cases valid : config.validate <;> simp only [valid] <;> rfl

/-- A configuration that was loaded was read from the tree of the file and is valid. -/
theorem read?_of_load {tree : Setting} {config : SessionConfig}
    (present : read path ≠ .error .missing) (file : tree? read path = some tree)
    (loaded : load read environment path scope = .ok config) :
    read? .lenient (tree.putAll (Environment.settings scope environment)) = some config ∧
      config.validate = .ok () := by
  rw [load_of_tree? present file] at loaded
  split at loaded
  · cases loaded
  · next found read =>
    cases valid : found.validate with
    | error problem => rw [valid] at loaded; cases loaded
    | ok =>
      rw [valid] at loaded
      cases loaded
      exact ⟨read, valid⟩

/-- A file that was loaded is there and has settings. -/
theorem exists_tree_of_load {config : SessionConfig}
    (loaded : load read environment path scope = .ok config) :
    read path ≠ .error .missing ∧ ∃ tree, tree? read path = some tree := by
  unfold load at loaded
  obtain ⟨there, loaded⟩ := check_eq_ok.mp loaded
  refine ⟨fun missing => there (by rw [missing]), ?_⟩
  cases extension : (extension? path).bind FileFormat.ofExtension? with
  | none => rw [extension] at loaded; cases loaded
  | some format =>
    rw [extension] at loaded
    dsimp only at loaded
    rw [settings?_eq_map] at loaded
    cases file : settings? read format path [] with
    | none => rw [file] at loaded; cases loaded
    | some tree =>
      exact ⟨tree, by simp only [tree?, extension, file, Option.bind_eq_bind, Option.bind_some]⟩

/-! ## Checked configurations -/

/-- A check that comes first finds nothing when it is passed and so are the others. -/
theorem firstComplaint_eq_none_iff {refused : Prop} [Decidable refused] {reason : String}
    {rest : Option String} :
    (if refused then some reason else rest) = none ↔ ¬ refused ∧ rest = none := by
  by_cases refuses : refused <;> simp [refuses]

theorem validate_eq_ok_iff {config : SessionConfig} :
    config.validate = .ok () ↔ config.complaint? = none := by
  unfold validate
  split <;> simp_all

end SessionTokens.SessionConfig
