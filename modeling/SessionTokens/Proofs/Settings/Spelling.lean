import SessionTokens.Proofs.Settings.Override

/-!
# Spellings of overridden settings

A variable that overrides a text setting is read as a value first, and the
setting gets the spelling of that value.  So only kept texts arrive as they
are, and texts of one value cannot be told apart afterwards.
-/

namespace SessionTokens

variable {entries : Entries} {value : Setting}

/-! ## Where a setting is read from -/

namespace TextSetting

/-- A text setting is the text of the value at its place. -/
theorem text?_place? {config : SessionConfig} (setting : TextSetting)
    (read : SessionConfig.read? .lenient (.table entries) = some config)
    (place : setting.place? (.table entries) = some value) (present : value ≠ .absent) :
    ∃ text, Setting.text? setting.strictness value = some text ∧
      setting.value? config = some text := by
  rw [SessionConfig.read?_table_eq_some_iff] at read
  cases setting with
  | engine field => exact ⟨_, read.text? field place, rfl⟩
  | key field =>
      obtain ⟨named, home, found⟩ := Option.bind_eq_some_iff.mp place
      have keys := Setting.read_of_section? (KeyConfig.read?_eq_bind .lenient) read.keys home
      exact KeyConfig.text?_of_read? keys field found present
  | cookie field =>
      obtain ⟨named, home, found⟩ := Option.bind_eq_some_iff.mp place
      have cookies :=
        Setting.read_of_section? (CookieConfig.read?_eq_bind .lenient) read.cookies home
      exact CookieConfig.text?_of_read? cookies field found present
  | server field =>
      unfold place? at place
      dsimp only at place
      split at place
      · next rest split =>
        have split : StoreConfig.split? ((entries.lookup "store").getD .absent) =
          some (.text "redis", rest) := split
        obtain ⟨named, listed, found⟩ := Option.bind_eq_some_iff.mp place
        have store : StoreConfig.read? ((entries.lookup "store").getD .absent) =
            some config.store := by
          cases home : entries.lookup "store" with
          | none => rw [home] at split; cases split
          | some value => exact (Setting.field?_of_lookup home).symm.trans read.store
        obtain ⟨server, read, same⟩ := StoreConfig.read?_server store split
        rw [RedisConfig.read?_eq_bind, listed, Option.bind_some] at read
        exact ⟨_, RedisConfig.text?_of_read? read field found, by rw [value?, same]; rfl⟩
      · cases place

/-- A value that is put under the names of a setting is the value that the setting is read from. -/
theorem place?_put (setting : TextSetting) {name : String}
    (path : Setting.readPath name = setting.path.map .entry)
    (housed : setting.HasHome (.table entries)) (text : String) :
    setting.place? ((Setting.table entries).put name (Environment.valueOf text)) =
      some (Environment.valueOf text) := by
  cases setting with
  | engine field =>
      rw [Setting.put_of_readPath_one path]
      simp [place?, Setting.entries, Setting.lookup_changeEntry]
  | key field =>
      rw [Setting.put_of_readPath_two path]
      simp [place?, home, Setting.entries, Setting.lookup_changeEntry, Setting.section?]
  | cookie field =>
      rw [Setting.put_of_readPath_two path]
      simp [place?, home, Setting.entries, Setting.lookup_changeEntry, Setting.section?]
  | server field =>
      obtain ⟨values, home, backend⟩ := housed
      have home : (entries.lookup "store").getD .absent = .table values := home
      have split := StoreConfig.split?_changeEntry
        (fun old => old.merge (Environment.valueOf text)) field backend
      rw [Setting.put_of_readPath_two path]
      have changed : (server field).home (.table (Setting.changeEntry
          (fun old => .table (Setting.changeEntry
            (fun old => old.merge (Environment.valueOf text)) field.name old.entries))
          "store" entries)) =
          .table (Setting.changeEntry (fun old => old.merge (Environment.valueOf text))
            field.name values) := by
        simp [TextSetting.home, Setting.entries, Setting.lookup_changeEntry, home]
      unfold place?
      dsimp only
      rw [changed, split]
      simp [Setting.section?, Setting.lookup_changeEntry]

end TextSetting

/-! ## Variables that override a setting -/

namespace Environment

variable {read : FileReader} {path scope name : String} {before after : List (String × String)}
  {setting : TextSetting}

/-- The last variable overrides a setting when its name spells the path of the setting. -/
theorem overrides_of_path {tree : Setting} {target : String}
    (file : SessionConfig.tree? read path = some tree) (set : pathOf? scope name = some target)
    (names : Setting.readPath target = setting.path.map .entry)
    (home : setting.HasHome (tree.putAll (settings scope before))) :
    Overrides read path scope before name [] setting := by
  obtain ⟨entries, rfl⟩ := SessionConfig.tree?_eq_table file
  refine ⟨_, file, fun text => ?_⟩
  have last : settings scope (before ++ [(name, text)]) =
      settings scope before ++ [(target, valueOf text)] := by
    simp [settings, set]
  obtain ⟨rest, table⟩ := Setting.putAll_eq_table entries (settings scope before)
  rw [last, Setting.putAll_append, table]
  exact setting.place?_put names (table ▸ home) text

/-- A setting that is overridden is the spelling of the variable's value. -/
theorem Overrides.value?_eq {config : SessionConfig} {text : String}
    (overrides : Overrides read path scope before name after setting)
    (loaded : SessionConfig.load read (before ++ (name, text) :: after) path scope =
      .ok config) :
    Setting.text? setting.strictness (valueOf text) = some (spelling text) ∧
      setting.value? config = some (spelling text) := by
  obtain ⟨tree, file, place⟩ := overrides
  obtain ⟨present, -⟩ := SessionConfig.exists_tree_of_load loaded
  obtain ⟨loaded, -⟩ := SessionConfig.read?_of_load present file loaded
  obtain ⟨entries, rfl⟩ := SessionConfig.tree?_eq_table file
  obtain ⟨rest, table⟩ :=
    Setting.putAll_eq_table entries (settings scope (before ++ (name, text) :: after))
  have here := place text
  rw [table] at loaded here
  obtain ⟨found, spelled, value⟩ := setting.text?_place? loaded here (valueOf_ne_absent text)
  cases eq_spelling_of_text? spelled
  exact ⟨spelled, value⟩

end Environment

/--
A text setting that a variable overrides is the spelling of the value of the
variable's text, which is that text only for texts that are kept.  A setting of
a server takes only a text that is no other value.  A leading zero of a number
makes no difference to what is loaded.
-/
theorem overriding_texts_are_respelled {read : FileReader} {path scope name : String}
    {before after : List (String × String)} {setting : TextSetting} {config : SessionConfig}
    {text : String}
    (overrides : Environment.Overrides read path scope before name after setting)
    (loaded : SessionConfig.load read (before ++ (name, text) :: after) path scope =
      .ok config) :
    setting.value? config = some (Environment.spelling text) ∧
      (setting.value? config = some text ↔ Environment.IsKept text) ∧
      (setting.strictness = .exact → Environment.valueOf text = .text text) ∧
      ∀ digits : String, Json.IsRun digits.toList → text = "0" ++ digits →
        SessionConfig.load read (before ++ (name, digits) :: after) path scope = .ok config := by
  obtain ⟨spelled, value⟩ := overrides.value?_eq loaded
  refine ⟨value, ?_, fun exactly => ?_, ?_⟩
  · rw [value, Option.some.injEq, Environment.spelling_eq_self_iff]
  · rw [exactly] at spelled
    exact Environment.valueOf_of_text?_exact spelled
  · rintro digits run rfl
    have same := Environment.valueOf_zero_append run
    rw [← loaded, SessionConfig.load, SessionConfig.load, Environment.settings_of_same_value same]

/-- A variable with two underscores after the scope overrides the secret of the file. -/
theorem overrides_secret : Environment.Overrides secretFile "a.yaml" "SESSIONGATE" []
    "SESSIONGATE__KEYS__SECRET" [] (.key .secret) := by
  have loaded : SessionConfig.load secretFile [] "a.yaml" "SESSIONGATE" =
      .ok { keys := { secret := "file" } } := by decide +kernel
  obtain ⟨-, tree, file⟩ := SessionConfig.exists_tree_of_load loaded
  have set : Environment.pathOf? "SESSIONGATE" "SESSIONGATE__KEYS__SECRET" =
      some "keys.secret" := by decide +kernel
  exact Environment.overrides_of_path file set (by decide +kernel) trivial

theorem overriding_texts_are_respelled_exponent :
    SessionConfig.load secretFile [("SESSIONGATE__KEYS__SECRET", "1e3")] "a.yaml" "SESSIONGATE" =
        .ok { keys := { secret := "1000" } } ∧
      ¬ Environment.IsKept "1e3" := by
  have loaded : SessionConfig.load secretFile [("SESSIONGATE__KEYS__SECRET", "1e3")] "a.yaml"
      "SESSIONGATE" = .ok { keys := { secret := "1000" } } := by decide +kernel
  obtain ⟨-, kept, -⟩ := overriding_texts_are_respelled overrides_secret loaded
  exact ⟨loaded, fun same => absurd (kept.mpr same) (by decide)⟩

/-- Two texts of one number load as the same secret, and only one of them is that secret. -/
theorem leading_zero_of_a_secret_is_lost :
    Environment.Overrides secretFile "a.yaml" "SESSIONGATE" [] "SESSIONGATE__KEYS__SECRET" []
        (.key .secret) ∧
      SessionConfig.load secretFile [("SESSIONGATE__KEYS__SECRET", "0123")] "a.yaml"
          "SESSIONGATE" = .ok { keys := { secret := "123" } } ∧
      SessionConfig.load secretFile [("SESSIONGATE__KEYS__SECRET", "123")] "a.yaml"
          "SESSIONGATE" = .ok { keys := { secret := "123" } } :=
  ⟨overrides_secret, by decide +kernel, by decide +kernel⟩

end SessionTokens
