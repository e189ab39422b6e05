import SessionTokens.Proofs.Settings.Path
import SessionTokens.Settings.Texts

/-!
# Reading sections

When a section is read, and into what: every field is read from the value
under its own name alone.  So a text that is put under the name of a field
changes that field of the result and no other.
-/

namespace SessionTokens

variable {strictness : Strictness} {entries : Entries} {value : Setting}

/-! ## Fields -/

namespace Setting

/-- A field that is there is read from its value. -/
theorem field?_of_lookup {α : Type} {name : String} {read : Setting → Option α} {default : α}
    (found : entries.lookup name = some value) :
    field? entries name read default = read value := by
  rw [field?, found]

/-- A section that stands for entries is read as the table of them. -/
theorem read_of_section? {α : Type} {name : String} {read : Setting → Option α}
    {default config : α} {fields : List String} {named : Entries}
    (sections : ∀ value, read value =
      (value.section? fields strictness).bind fun entries => read (.table entries))
    (loaded : field? entries name read default = some config)
    (home : ((entries.lookup name).getD .absent).section? fields strictness = some named) :
    read (.table named) = some config := by
  cases found : entries.lookup name with
  | none => rw [found] at home; cases home
  | some value =>
    rw [found, Option.getD_some] at home
    rwa [field?_of_lookup found, sections, home, Option.bind_some] at loaded

/-- A text that may be missing is read from a value that is there. -/
theorem text?_of_optional? {text : Option String} (present : value ≠ .absent)
    (read : optional? (text? strictness) value = some text) :
    ∃ found, text? strictness value = some found ∧ text = some found := by
  have mapped : (text? strictness value).map some = some text := by
    cases value with
    | absent => exact absurd rfl present
    | _ => exact read
  obtain ⟨found, read, same⟩ := Option.map_eq_some_iff.mp mapped
  exact ⟨found, read, same.symm⟩

end Setting

/-! ## Keys -/

namespace KeyConfig

/-- A section is read as the table of the entries that it stands for. -/
theorem read?_eq_bind (strictness : Strictness) (value : Setting) :
    read? strictness value =
      (value.section? fields strictness).bind fun entries => read? strictness (.table entries) :=
  rfl

/-- A key section is read when each of its texts is. -/
theorem read?_table_eq_some_iff {config : KeyConfig} :
    read? strictness (.table entries) = some config ↔
      ∀ field : KeyText,
        Setting.field? entries field.name (Setting.optional? (Setting.text? strictness)) none =
          some (field.value? config) := by
  simp only [read?, Setting.section?, Option.bind_eq_bind, Option.bind_some,
    Option.bind_eq_some_iff, Option.pure_def]
  constructor
  · rintro ⟨_, secret, _, privateKeyFile, _, privateKey, _, passphrase, _, publicKeyFile, _,
      publicKey, same⟩ field
    cases same
    cases field <;> assumption
  · intro read
    exact ⟨_, read .secret, _, read .privateKeyFile, _, read .privateKey, _,
      read .privateKeyPassphrase, _, read .publicKeyFile, _, read .publicKey, rfl⟩

end KeyConfig

/-- Texts of a key section have names of their own. -/
theorem KeyText.name_injective {field other : KeyText} (same : field.name = other.name) :
    field = other := by
  cases field <;> cases other <;> first | rfl | exact absurd same (by decide)

/-- The texts of a configuration in which one was replaced. -/
theorem KeyText.value?_replace (config : KeyConfig) (text : String) (field other : KeyText) :
    other.value? (field.replace config text) =
      if other = field then some text else other.value? config := by
  cases field <;> cases other <;> rfl

/-- A text that is put under the name of a field is read as that field. -/
theorem KeyConfig.read?_changeEntry {config : KeyConfig}
    (read : KeyConfig.read? .lenient (.table entries) = some config) (field : KeyText)
    (text : String) :
    KeyConfig.read? .lenient
        (.table (Setting.changeEntry (fun old => old.merge (.text text)) field.name entries)) =
      some (field.replace config text) := by
  rw [read?_table_eq_some_iff] at read ⊢
  intro other
  rw [KeyText.value?_replace]
  by_cases same : other = field
  · simp [same, Setting.optional?, Setting.text?]
  · have different : other.name ≠ field.name := fun names => same (KeyText.name_injective names)
    rw [Setting.field?_changeEntry_of_ne _ different, if_neg same, read other]

/-- A text of a key section is read from the value under its name. -/
theorem KeyConfig.text?_of_read? {config : KeyConfig}
    (read : KeyConfig.read? .lenient (.table entries) = some config) (field : KeyText)
    (found : entries.lookup field.name = some value) (present : value ≠ .absent) :
    ∃ text, Setting.text? .lenient value = some text ∧ field.value? config = some text :=
  Setting.text?_of_optional? present
    ((Setting.field?_of_lookup found).symm.trans (read?_table_eq_some_iff.mp read field))

/-! ## Cookies -/

namespace CookieConfig

structure ReadFrom (strictness : Strictness) (entries : Entries) (config : CookieConfig) : Prop where
  sendCookie : Setting.field? entries "send_cookie" (Setting.flag? strictness) false =
    some config.sendCookie
  name : Setting.field? entries "name" (Setting.text? strictness) "jwt" = some config.name
  maxAge : Setting.field? entries "max_age" (Setting.optional? (Span.read? strictness)) none =
    some config.maxAge
  domain : Setting.field? entries "domain" (Setting.optional? (Setting.text? strictness)) none =
    some config.domain
  secure : Setting.field? entries "secure" (Setting.flag? strictness) false = some config.secure
  httpOnly : Setting.field? entries "http_only" (Setting.flag? strictness) false =
    some config.httpOnly
  sameSite : Setting.field? entries "same_site"
    (Setting.optional? (Setting.choice? SameSite.ofName? strictness)) none = some config.sameSite
  refreshName : Setting.field? entries "refresh_name" (Setting.text? strictness) "refresh_token" =
    some config.refreshName
  refreshMaxAge : Setting.field? entries "refresh_max_age"
    (Setting.optional? (Span.read? strictness)) none = some config.refreshMaxAge
  refreshHttpOnly : Setting.field? entries "refresh_http_only" (Setting.flag? strictness) true =
    some config.refreshHttpOnly

/-- A section is read as the table of the entries that it stands for. -/
theorem read?_eq_bind (strictness : Strictness) (value : Setting) :
    read? strictness value =
      (value.section? fields strictness).bind fun entries => read? strictness (.table entries) :=
  rfl

/-- A cookie section is read when each of its fields is. -/
theorem read?_table_eq_some_iff {config : CookieConfig} :
    read? strictness (.table entries) = some config ↔ ReadFrom strictness entries config := by
  simp only [read?, Setting.section?, Option.bind_eq_bind, Option.bind_some,
    Option.bind_eq_some_iff, Option.pure_def]
  constructor
  · rintro ⟨_, sendCookie, _, name, _, maxAge, _, domain, _, secure, _, httpOnly, _, sameSite, _,
      refreshName, _, refreshMaxAge, _, refreshHttpOnly, same⟩
    cases same
    constructor <;> assumption
  · intro read
    exact ⟨_, read.sendCookie, _, read.name, _, read.maxAge, _, read.domain, _, read.secure, _,
      read.httpOnly, _, read.sameSite, _, read.refreshName, _, read.refreshMaxAge, _,
      read.refreshHttpOnly, rfl⟩

/-- A text that is put under the name of a field is read as that field. -/
theorem read?_changeEntry {config : CookieConfig}
    (read : read? .lenient (.table entries) = some config) (field : CookieText)
    (text : String) :
    read? .lenient
        (.table (Setting.changeEntry (fun old => old.merge (.text text)) field.name entries)) =
      some (field.replace config text) := by
  rw [read?_table_eq_some_iff] at read ⊢
  cases read
  cases field
  all_goals
    constructor <;>
      simp_all [CookieText.name, CookieText.replace, Setting.field?_changeEntry_of_ne,
        Setting.optional?, Setting.text?]

end CookieConfig

/-- A text of a cookie section is read from the value under its name. -/
theorem CookieConfig.text?_of_read? {config : CookieConfig}
    (read : CookieConfig.read? .lenient (.table entries) = some config) (field : CookieText)
    (found : entries.lookup field.name = some value) (present : value ≠ .absent) :
    ∃ text, Setting.text? .lenient value = some text ∧ field.value? config = some text := by
  have read := read?_table_eq_some_iff.mp read
  cases field with
  | accessName => exact ⟨_, (Setting.field?_of_lookup found).symm.trans read.name, rfl⟩
  | domain =>
    exact Setting.text?_of_optional? present
      ((Setting.field?_of_lookup found).symm.trans read.domain)
  | refreshName => exact ⟨_, (Setting.field?_of_lookup found).symm.trans read.refreshName, rfl⟩

/-! ## Stores -/

namespace RedisConfig

structure ReadFrom (entries : Entries) (config : RedisConfig) : Prop where
  address : Setting.field? entries "addr" (Setting.text? .exact) "localhost:6379" =
    some config.address
  password : Setting.field? entries "password" (Setting.text? .exact) "" = some config.password
  database : Setting.field? entries "db" Setting.integer? 0 = some config.database
  keyMark : Setting.field? entries "key_prefix" (Setting.text? .exact) "sessiongate:" =
    some config.keyMark
  connectTimeout : Setting.field? entries "connect_timeout" (Span.read? .exact)
    (Span.ofSeconds 5) = some config.connectTimeout
  clientCache : Setting.field? entries "client_cache" ClientCacheConfig.read? {} =
    some config.clientCache

/-- A section is read as the table of the entries that it stands for. -/
theorem read?_eq_bind (value : Setting) :
    read? value = (value.section? fields .exact).bind fun entries => read? (.table entries) :=
  rfl

/-- A section for a server is read when each of its fields is. -/
theorem read?_table_eq_some_iff {config : RedisConfig} :
    read? (.table entries) = some config ↔ ReadFrom entries config := by
  simp only [read?, Setting.section?, Option.bind_eq_bind, Option.bind_some,
    Option.bind_eq_some_iff, Option.pure_def]
  constructor
  · rintro ⟨_, address, _, password, _, database, _, keyMark, _, connectTimeout, _, clientCache,
      same⟩
    cases same
    constructor <;> assumption
  · intro read
    exact ⟨_, read.address, _, read.password, _, read.database, _, read.keyMark, _,
      read.connectTimeout, _, read.clientCache, rfl⟩

/-- A text that is put under the name of a field is read as that field. -/
theorem read?_changeEntry {config : RedisConfig}
    (read : read? (.table entries) = some config) (field : ServerText) (text : String) :
    read? (.table (Setting.changeEntry (fun old => old.merge (.text text)) field.name entries)) =
      some (field.replace config text) := by
  rw [read?_table_eq_some_iff] at read ⊢
  cases read
  cases field
  all_goals
    constructor <;>
      simp_all [ServerText.name, ServerText.replace, Setting.field?_changeEntry_of_ne,
        Setting.text?]

/-- A text of a section for a server is read from the value under its name. -/
theorem text?_of_read? {config : RedisConfig}
    (read : read? (.table entries) = some config) (field : ServerText)
    (found : entries.lookup field.name = some value) :
    Setting.text? .exact value = some (field.value config) := by
  have read := read?_table_eq_some_iff.mp read
  have here (default : String) : Setting.field? entries field.name (Setting.text? .exact) default =
      Setting.text? .exact value := Setting.field?_of_lookup found
  cases field with
  | address => exact (here _).symm.trans read.address
  | password => exact (here _).symm.trans read.password
  | keyMark => exact (here _).symm.trans read.keyMark

end RedisConfig

namespace StoreConfig

/-- A store section without a value under a name that it keeps for itself is changed elsewhere. -/
theorem filter_changeEntry (change : Setting → Setting) {name kind : String}
    (different : name ≠ kind) (entries : Entries) :
    (Setting.changeEntry change name entries).filter (·.1 ≠ kind) =
      Setting.changeEntry change name (entries.filter (·.1 ≠ kind)) := by
  induction entries with
  | nil => simp [Setting.changeEntry, different]
  | cons entry rest ih =>
      by_cases here : entry.1 = name
      · have other : entry.1 ≠ kind := here ▸ different
        simp [Setting.changeEntry, here, different]
      · by_cases kept : entry.1 = kind
        · simp_all [Setting.changeEntry]
        · simp_all [Setting.changeEntry]

/-- A change of a setting of a server leaves the kind of the store. -/
theorem split?_changeEntry (change : Setting → Setting) (field : ServerText) {kind : Setting}
    (backend : entries.lookup "backend" = some kind) :
    split? (.table (Setting.changeEntry change field.name entries)) =
      some (kind, .table (Setting.changeEntry change field.name
        (entries.filter (·.1 ≠ "backend")))) := by
  have different : field.name ≠ "backend" := by cases field <;> decide
  rw [split?, Setting.lookup_changeEntry, if_neg different.symm, backend,
    filter_changeEntry _ different]
  rfl

/-- When a store section is read: it says that it is the memory, or a server with its settings. -/
theorem read?_eq_some {value : Setting} {store : StoreConfig} (read : read? value = some store) :
    ∃ kind rest, split? value = some (.text kind, rest) ∧
      (kind = "memory" ∧ store = .memory ∨
        kind = "redis" ∧ ∃ config, RedisConfig.read? rest = some config ∧ store = .redis config) := by
  simp only [read?, Option.bind_eq_bind, Option.bind_eq_some_iff] at read
  obtain ⟨⟨kind, rest⟩, split, read⟩ := read
  dsimp only at read
  split at read
  · cases read
  · cases read
    exact ⟨_, _, split, .inl ⟨rfl, rfl⟩⟩
  · obtain ⟨config, server, rfl⟩ := Option.map_eq_some_iff.mp read
    exact ⟨_, _, split, .inr ⟨rfl, config, server, rfl⟩⟩
  · cases read

/-- A store section that says it is a server is read as its settings. -/
theorem read?_server {value rest : Setting} {store : StoreConfig}
    (read : read? value = some store) (server : split? value = some (.text "redis", rest)) :
    ∃ config, RedisConfig.read? rest = some config ∧ store = .redis config := by
  obtain ⟨kind, other, split, store⟩ := read?_eq_some read
  cases split.symm.trans server
  rcases store with ⟨memory, -⟩ | ⟨-, store⟩
  · exact absurd memory (by decide)
  · exact store

/-- A text that is put under the name of a field is read as that field. -/
theorem read?_changeEntry {store : StoreConfig}
    (read : read? (.table entries) = some store) (field : ServerText) (text : String) :
    read? (.table (Setting.changeEntry (fun old => old.merge (.text text)) field.name entries)) =
      some (store.replaceText field text) := by
  obtain ⟨kind, rest, split, kinds⟩ := read?_eq_some read
  obtain ⟨value, backend, same⟩ := Option.map_eq_some_iff.mp split
  cases same
  have changed := split?_changeEntry (fun old => old.merge (.text text)) field backend
  rw [read?, changed]
  rcases kinds with ⟨rfl, rfl⟩ | ⟨rfl, config, server, rfl⟩
  · rfl
  · simp only [Option.bind_eq_bind, Option.bind_some, RedisConfig.read?_changeEntry server]
    rfl

end StoreConfig

/-! ## Engines -/

namespace SessionConfig

structure ReadFrom (strictness : Strictness) (entries : Entries) (config : SessionConfig) : Prop where
  realm : Setting.field? entries "realm" (Setting.text? strictness) "sessiongate" =
    some config.realm
  algorithm : Setting.field? entries "signing_algorithm"
    (Setting.choice? Algorithm.ofName? strictness) .hs256 = some config.algorithm
  keys : Setting.field? entries "keys" (KeyConfig.read? strictness) {} = some config.keys
  timeout : Setting.field? entries "timeout" (Span.read? strictness) (Span.ofSeconds 3600) =
    some config.timeout
  maxRefresh : Setting.field? entries "max_refresh" (Span.read? strictness)
    (Span.ofSeconds 86400) = some config.maxRefresh
  refreshLifetime : Setting.field? entries "refresh_token_ttl" (Span.read? strictness)
    (Span.ofSeconds 2592000) = some config.refreshLifetime
  tokenLookup : Setting.field? entries "token_lookup" (TokenLookup.read? strictness) .standard =
    some config.tokenLookup
  refreshTokenLookup : Setting.field? entries "refresh_token_lookup"
    (Setting.optional? (TokenLookup.read? strictness)) none = some config.refreshTokenLookup
  headName : Setting.field? entries "token_head_name" (Setting.text? strictness) "Bearer" =
    some config.headName
  identityKey : Setting.field? entries "identity_key" (Setting.text? strictness) "identity" =
    some config.identityKey
  expiryField : Setting.field? entries "exp_field" (Setting.text? strictness) Claims.expiryName =
    some config.expiryField
  sendAuthorization : Setting.field? entries "send_authorization" (Setting.flag? strictness)
    false = some config.sendAuthorization
  cookies : Setting.field? entries "cookies" (CookieConfig.read? strictness) {} =
    some config.cookies
  store : Setting.field? entries "store" StoreConfig.read? .memory = some config.store

/-- A section is read as the table of the entries that it stands for. -/
theorem read?_eq_bind (strictness : Strictness) (value : Setting) :
    read? strictness value =
      (value.section? fields strictness).bind fun entries => read? strictness (.table entries) :=
  rfl

/-- A configuration is read when each of its fields is. -/
theorem read?_table_eq_some_iff {config : SessionConfig} :
    read? strictness (.table entries) = some config ↔ ReadFrom strictness entries config := by
  constructor
  · intro read
    obtain ⟨_, realm, read⟩ := Option.bind_eq_some_iff.mp read
    obtain ⟨_, algorithm, read⟩ := Option.bind_eq_some_iff.mp read
    obtain ⟨_, keys, read⟩ := Option.bind_eq_some_iff.mp read
    obtain ⟨_, timeout, read⟩ := Option.bind_eq_some_iff.mp read
    obtain ⟨_, maxRefresh, read⟩ := Option.bind_eq_some_iff.mp read
    obtain ⟨_, refreshLifetime, read⟩ := Option.bind_eq_some_iff.mp read
    obtain ⟨_, tokenLookup, read⟩ := Option.bind_eq_some_iff.mp read
    obtain ⟨_, refreshTokenLookup, read⟩ := Option.bind_eq_some_iff.mp read
    obtain ⟨_, headName, read⟩ := Option.bind_eq_some_iff.mp read
    obtain ⟨_, identityKey, read⟩ := Option.bind_eq_some_iff.mp read
    obtain ⟨_, expiryField, read⟩ := Option.bind_eq_some_iff.mp read
    obtain ⟨_, sendAuthorization, read⟩ := Option.bind_eq_some_iff.mp read
    obtain ⟨_, cookies, read⟩ := Option.bind_eq_some_iff.mp read
    obtain ⟨_, store, read⟩ := Option.bind_eq_some_iff.mp read
    cases read
    constructor <;> assumption
  · intro read
    unfold read?
    dsimp only [Setting.section?, Option.bind_eq_bind, Option.bind_some]
    rw [read.realm, read.algorithm, read.keys, read.timeout, read.maxRefresh,
      read.refreshLifetime, read.tokenLookup, read.refreshTokenLookup, read.headName,
      read.identityKey, read.expiryField, read.sendAuthorization, read.cookies, read.store]
    rfl

namespace ReadFrom

variable {config : SessionConfig} (read : ReadFrom .lenient entries config) {change : Setting → Setting}

include read

/-- A text that is put under the name of a field is read as that field. -/
theorem with_text (field : EngineText) (text : String) :
    ReadFrom .lenient (Setting.changeEntry (fun old => old.merge (.text text)) field.name entries)
      (field.replace config text) := by
  cases read
  cases field
  all_goals
    constructor <;>
      simp_all [EngineText.name, EngineText.replace, Setting.field?_changeEntry_of_ne,
        Setting.text?]

/-- Another key section changes the keys alone. -/
theorem with_keys {keys : KeyConfig}
    (changed : KeyConfig.read? .lenient (change ((entries.lookup "keys").getD .absent)) =
      some keys) :
    ReadFrom .lenient (Setting.changeEntry change "keys" entries) { config with keys } := by
  cases read
  constructor <;> simp_all [Setting.field?_changeEntry_of_ne]

/-- Another cookie section changes the cookies alone. -/
theorem with_cookies {cookies : CookieConfig}
    (changed : CookieConfig.read? .lenient (change ((entries.lookup "cookies").getD .absent)) =
      some cookies) :
    ReadFrom .lenient (Setting.changeEntry change "cookies" entries) { config with cookies } := by
  cases read
  constructor <;> simp_all [Setting.field?_changeEntry_of_ne]

/-- Another store section changes the store alone. -/
theorem with_store {store : StoreConfig}
    (changed : StoreConfig.read? (change ((entries.lookup "store").getD .absent)) = some store) :
    ReadFrom .lenient (Setting.changeEntry change "store" entries) { config with store } := by
  cases read
  constructor <;> simp_all [Setting.field?_changeEntry_of_ne]

/-- A text of the engine is read from the value under its name. -/
theorem text? (field : EngineText) (found : entries.lookup field.name = some value) :
    Setting.text? .lenient value = some (field.value config) := by
  have here (default : String) : Setting.field? entries field.name (Setting.text? .lenient) default =
      Setting.text? .lenient value := Setting.field?_of_lookup found
  cases field with
  | realm => exact (here _).symm.trans read.realm
  | headName => exact (here _).symm.trans read.headName
  | identityKey => exact (here _).symm.trans read.identityKey
  | expiryField => exact (here _).symm.trans read.expiryField

end ReadFrom

end SessionConfig

end SessionTokens
