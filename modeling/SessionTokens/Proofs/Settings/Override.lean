import SessionTokens.Proofs.Settings.Environment
import SessionTokens.Proofs.Settings.File
import SessionTokens.Proofs.Settings.Sections

/-!
# Settings overridden by the environment

A variable overrides a text setting of a file only under a name that has two
underscores after the scope.
-/

namespace SessionTokens

variable {entries : Entries}

/-! ## Texts put into a tree -/

/--
What is read from a section when nothing but its named values are left: what
was read before, or the default when the section was a list.
-/
theorem Setting.read_entries {α : Type} {read : Setting → Option α} {name : String}
    {default config : α} {fields : List String}
    (sections : ∀ value, read value =
      (value.section? fields .lenient).bind fun entries => read (.table entries))
    (empty : read (.table []) = some default)
    (loaded : Setting.field? entries name read default = some config) :
    read (.table ((entries.lookup name).getD .absent).entries) =
      some (((entries.lookup name).getD .absent).keptAsTable default config) := by
  unfold Setting.field? at loaded
  cases found : entries.lookup name with
  | none =>
      rw [found] at loaded
      cases loaded
      exact empty
  | some value =>
      rw [found] at loaded
      cases value with
      | table named => exact loaded
      | list items => exact empty
      | _ => cases (sections _).symm.trans loaded

namespace TextSetting

/-- A store section that takes names is a table. -/
theorem lookup_store_of_takesNames {field : ServerText}
    (named : (server field).TakesNames (.table entries)) :
    ∃ values, entries.lookup "store" = some (.table values) := by
  obtain ⟨values, home⟩ := named
  have found : (entries.lookup "store").getD .absent = .table values := home
  cases store : entries.lookup "store" with
  | none => rw [store] at found; cases found
  | some value => rw [store] at found; exact ⟨values, by rw [← found]; rfl⟩

/-- A text that is put into a configuration under the names of a setting is that setting. -/
theorem read?_put {config : SessionConfig} (setting : TextSetting) {name : String}
    (path : Setting.readPath name = setting.path.map .entry)
    (read : SessionConfig.read? .lenient (.table entries) = some config)
    (named : setting.TakesNames (.table entries)) (text : String) :
    SessionConfig.read? .lenient ((Setting.table entries).put name (.text text)) =
      some (setting.replace (setting.kept (.table entries) config) text) := by
  rw [SessionConfig.read?_table_eq_some_iff] at read
  cases setting with
  | engine field =>
      rw [Setting.put_of_readPath_one path, SessionConfig.read?_table_eq_some_iff]
      exact read.with_text field text
  | key field =>
      have rest := Setting.read_entries (KeyConfig.read?_eq_bind .lenient) rfl read.keys
      rw [Setting.put_of_readPath_two path, SessionConfig.read?_table_eq_some_iff]
      exact read.with_keys (KeyConfig.read?_changeEntry rest field text)
  | cookie field =>
      have rest := Setting.read_entries (CookieConfig.read?_eq_bind .lenient) rfl read.cookies
      rw [Setting.put_of_readPath_two path, SessionConfig.read?_table_eq_some_iff]
      exact read.with_cookies (CookieConfig.read?_changeEntry rest field text)
  | server field =>
      obtain ⟨values, found⟩ := lookup_store_of_takesNames named
      have store := read.store
      rw [Setting.field?, found] at store
      have rest : StoreConfig.read?
          (.table ((entries.lookup "store").getD .absent).entries) = some config.store := by
        rw [found]
        exact store
      rw [Setting.put_of_readPath_two path, SessionConfig.read?_table_eq_some_iff]
      exact read.with_store (StoreConfig.read?_changeEntry rest field text)

/-- A store section that is no table cannot take a setting of a server. -/
theorem read?_put_eq_none (setting : TextSetting) {name : String}
    (path : Setting.readPath name = setting.path.map .entry)
    (unnamed : ¬ setting.TakesNames (.table entries)) (text : String) :
    SessionConfig.read? .lenient ((Setting.table entries).put name (.text text)) = none := by
  cases setting with
  | server field =>
      rw [Setting.put_of_readPath_two path]
      refine Option.eq_none_iff_forall_not_mem.mpr fun config read => ?_
      have store := (SessionConfig.read?_table_eq_some_iff.mp read).store
      have missing : ((entries.lookup "store").getD .absent).entries = [] := by
        cases home : (entries.lookup "store").getD .absent with
        | table values => exact absurd ⟨values, home⟩ unnamed
        | _ => rfl
      rw [Setting.field?_changeEntry_self, missing] at store
      obtain ⟨kind, rest, split, -⟩ := StoreConfig.read?_eq_some store
      cases field <;> cases split
  | _ => exact absurd trivial unnamed

/-- A configuration is as valid with another text that is not blank. -/
theorem validate_replace {config : SessionConfig} (valid : config.validate = .ok ())
    (setting : TextSetting) (tree : Setting) {text : String}
    (filled : Text.trim text.toList ≠ []) :
    (setting.replace (setting.kept tree config) text).validate = .ok () := by
  have named : text ≠ "" := by
    rintro rfl
    exact filled rfl
  rw [SessionConfig.validate_eq_ok_iff] at valid ⊢
  rcases setting with field | field | field | field
  · simp only [SessionConfig.complaint?, SessionConfig.firstComplaint_eq_none_iff] at valid ⊢
    cases field <;> simp_all [replace, EngineText.replace, kept]
  all_goals exact valid

/-! ## Names of settings -/

/-- The name of a setting among variables spells its path. -/
theorem readPath_variableName (setting : TextSetting) :
    Setting.readPath (String.ofList
      (Environment.separate (Text.lower setting.variableName.toList))) =
      setting.path.map .entry := by
  rcases setting with field | field | field | field <;> cases field <;> decide +kernel

/-- The name of a setting among variables does not begin with an underscore. -/
theorem head?_variableName (setting : TextSetting) :
    (Text.lower setting.variableName.toList).head? ≠ some '_' := by
  rcases setting with field | field | field | field <;> cases field <;> decide +kernel

end TextSetting

/--
A variable overrides a text setting when its name has two underscores after the
scope.  With one, as in the documented `SESSIONGATE_KEYS__SECRET`, it changes
nothing.
-/
theorem overrides_need_two_underscores (read : FileReader) (path scope : String)
    (setting : TextSetting) {config : SessionConfig}
    (loaded : SessionConfig.load read [] path scope = .ok config) {word : String}
    (letters : Environment.IsWord word) :
    (∀ before after text,
      SessionConfig.load read (before ++ (scope ++ "_" ++ setting.variableName, text) :: after)
          path scope =
        SessionConfig.load read (before ++ after) path scope) ∧
      ∃ tree, SessionConfig.tree? read path = some tree ∧
        (setting.TakesNames tree →
          SessionConfig.load read [(scope ++ "__" ++ setting.variableName, word)] path scope =
            .ok (setting.replace (setting.kept tree config) word)) ∧
        (¬ setting.TakesNames tree →
          SessionConfig.load read [(scope ++ "__" ++ setting.variableName, word)] path scope =
            .error (.parse "unreadable")) := by
  obtain ⟨present, tree, file⟩ := SessionConfig.exists_tree_of_load loaded
  obtain ⟨read, valid⟩ := SessionConfig.read?_of_load present file loaded
  obtain ⟨entries, rfl⟩ := SessionConfig.tree?_eq_table file
  have put := Environment.putAll_settings_word (.table entries)
    (Environment.pathOf?_two_underscores scope setting.variableName) letters
  refine ⟨fun before after text => ?_, _, file, fun named => ?_, fun unnamed => ?_⟩
  · have ignored := Environment.pathOf?_one_underscore scope _ setting.head?_variableName
    rw [SessionConfig.load_of_tree? present file, SessionConfig.load_of_tree? present file,
      Environment.settings_of_ignored ignored]
  · rw [SessionConfig.load_of_tree? present file, put,
      setting.read?_put setting.readPath_variableName read named word]
    dsimp only
    rw [setting.validate_replace valid _ letters.filled]
    rfl
  · rw [SessionConfig.load_of_tree? present file, put,
      setting.read?_put_eq_none setting.readPath_variableName unnamed word]

def secretFile : FileReader := fun path =>
  if path = "a.yaml" then .ok (Utf8.ofString "keys:\n  secret: file\n") else .error .missing

theorem overrides_need_two_underscores_realm :
    SessionConfig.load secretFile [("SESSIONGATE_REALM", "accounts")] "a.yaml" "SESSIONGATE" =
        .ok { keys := { secret := "file" } } ∧
      SessionConfig.load secretFile [("SESSIONGATE__REALM", "accounts")] "a.yaml" "SESSIONGATE" =
        .ok { keys := { secret := "file" }, realm := "accounts" } := by
  have loaded : SessionConfig.load secretFile [] "a.yaml" "SESSIONGATE" =
      .ok { keys := { secret := "file" } } := by decide +kernel
  have letters : Environment.IsWord "accounts" := ⟨by decide, by decide, by decide⟩
  obtain ⟨ignored, _, -, taken, -⟩ := overrides_need_two_underscores secretFile "a.yaml"
    "SESSIONGATE" (.engine .realm) loaded letters
  exact ⟨(ignored [] [] "accounts").trans loaded, taken trivial⟩

/-- A variable with the documented name leaves the secret of the file as it is. -/
theorem named_variable_leaves_the_secret :
    let config : SessionConfig := { keys := { secret := "file" } }
    SessionConfig.load secretFile [] "a.yaml" "SESSIONGATE" = .ok config ∧
      Environment.IsWord "override" ∧
      (TextSetting.key .secret).variableName = "KEYS__SECRET" ∧
      SessionConfig.load secretFile [("SESSIONGATE_KEYS__SECRET", "override")] "a.yaml"
          "SESSIONGATE" ≠
        .ok ((TextSetting.key .secret).replace config "override") :=
  ⟨by decide +kernel, ⟨by decide, by decide, by decide⟩, by decide, by decide +kernel⟩

end SessionTokens
