import SessionTokens.Proofs.Json.Exact
import SessionTokens.Proofs.Lookup.Rules
import SessionTokens.Proofs.Settings.Sections
import SessionTokens.Settings.Expressible

/-!
# Settings survive being saved

Whatever configuration is read can be told by a text, and every configuration
that a text can tell is written as an object from which it is read again.  So a
configuration that was read, saved and read again is the same one.
-/

namespace SessionTokens

variable {strictness : Strictness} {entries : Entries}

/-! ## What is read can be told -/

namespace Setting

variable {α : Type} (holds : α → Prop) {read : Setting → Option α} {name : String}

/-- What holds of the default and of all that is read holds of a field. -/
theorem forall_of_field? {default value : α} (found : field? entries name read default = some value)
    (reads : ∀ setting value, read setting = some value → holds value) (start : holds default) :
    holds value := by
  rw [field?] at found
  split at found
  · cases found
    exact start
  · exact reads _ _ found

/-- What holds of all that is read holds of an optional field. -/
theorem forall_of_optional? {value : Option α}
    (found : field? entries name (optional? read) none = some value)
    (reads : ∀ setting value, read setting = some value → holds value) :
    ∀ inner ∈ value, holds inner := by
  refine forall_of_field? (fun value => ∀ inner ∈ value, holds inner) found ?_ nofun
  intro setting value found inner inside
  cases inside
  cases setting with
  | absent => cases found
  | _ =>
      obtain ⟨same, read, equal⟩ := Option.map_eq_some_iff.mp found
      cases equal
      exact reads _ _ read

theorem natural?_le {value : Setting} {number : Nat} (read : natural? strictness value = some number) :
    number ≤ Decimal.maxWord64 := by
  cases value with
  | absent => cases strictness <;> cases read
  | list items => cases strictness <;> cases read
  | table entries => cases strictness <;> cases read
  | whole value =>
      have read : (if 0 ≤ value ∧ value ≤ Decimal.maxWord64 then some value.toNat else none) =
          some number := by cases strictness <;> exact read
      split at read
      · cases read
        omega
      · cases read
  | flag value =>
      cases strictness <;> cases read
      cases value <;> decide
  | decimal value =>
      cases strictness <;> cases read
      rcases value with number | negative | - <;> try cases negative
      all_goals simp only [nearestWord]
      all_goals omega
  | text value =>
      cases strictness
      · cases read
      · simp only [natural?] at read
        split at read
        · cases read
          decide
        · split at read
          · cases read
            decide
          · simp only [readWord?] at read
            split at read
            · split at read
              · cases read
                assumption
              · cases read
            · cases read

theorem integer?_bounds {value : Setting} {number : Int} (read : integer? value = some number) :
    Decimal.minInt64 ≤ number ∧ number ≤ Decimal.maxInt64 := by
  cases value <;> try cases read
  rw [integer?] at read
  split at read
  · cases read
    assumption
  · cases read

end Setting

theorem Span.isExpressible_ofSeconds {seconds : Nat} (small : seconds ≤ Decimal.maxWord64) :
    (Span.ofSeconds seconds).IsExpressible :=
  ⟨seconds, small, rfl⟩

theorem Span.isExpressible_of_read? (value : Setting) (span : Span)
    (read : Span.read? strictness value = some span) : span.IsExpressible := by
  obtain ⟨seconds, natural, rfl⟩ := Option.map_eq_some_iff.mp read
  exact isExpressible_ofSeconds (Setting.natural?_le natural)

theorem TokenLookup.isExpressible_of_read? (value : Setting) (lookup : TokenLookup)
    (read : TokenLookup.read? strictness value = some lookup) : lookup.IsExpressible := by
  obtain ⟨rules, -, parsed⟩ := Option.bind_eq_some_iff.mp read
  refine ⟨rules, ?_⟩
  cases outcome : TokenLookup.parse rules with
  | error => rw [outcome] at parsed; cases parsed
  | ok other => rw [outcome] at parsed; cases parsed; rfl

theorem TokenLookup.isExpressible_standard : TokenLookup.standard.IsExpressible :=
  ⟨"header:Authorization", by decide +kernel⟩

theorem CookieConfig.isExpressible_of_read? (value : Setting) (config : CookieConfig)
    (read : CookieConfig.read? strictness value = some config) : config.IsExpressible := by
  obtain ⟨entries, -, read⟩ := Option.bind_eq_some_iff.mp (read?_eq_bind strictness value ▸ read)
  have read := read?_table_eq_some_iff.mp read
  exact ⟨Setting.forall_of_optional? _ read.maxAge Span.isExpressible_of_read?,
    Setting.forall_of_optional? _ read.refreshMaxAge Span.isExpressible_of_read?⟩

theorem ClientCacheConfig.isExpressible_default : ({} : ClientCacheConfig).IsExpressible :=
  ⟨by decide, Span.isExpressible_ofSeconds (by decide)⟩

theorem ClientCacheConfig.isExpressible_of_read? (value : Setting) (config : ClientCacheConfig)
    (read : ClientCacheConfig.read? value = some config) : config.IsExpressible := by
  simp only [ClientCacheConfig.read?, Option.bind_eq_bind, Option.bind_eq_some_iff,
    Option.pure_def] at read
  obtain ⟨entries, -, _, -, _, size, _, lifetime, same⟩ := read
  cases same
  exact ⟨Setting.forall_of_field? (· ≤ Decimal.maxWord64) size (fun _ _ => Setting.natural?_le)
      (by decide),
    Setting.forall_of_field? _ lifetime Span.isExpressible_of_read?
      (Span.isExpressible_ofSeconds (by decide))⟩

theorem RedisConfig.isExpressible_of_read? (value : Setting) (config : RedisConfig)
    (read : RedisConfig.read? value = some config) : config.IsExpressible := by
  obtain ⟨entries, -, read⟩ := Option.bind_eq_some_iff.mp (read?_eq_bind value ▸ read)
  have read := read?_table_eq_some_iff.mp read
  exact ⟨Setting.forall_of_field?
      (fun number => Decimal.minInt64 ≤ number ∧ number ≤ Decimal.maxInt64) read.database
      (fun _ _ => Setting.integer?_bounds) (by decide),
    Setting.forall_of_field? _ read.connectTimeout Span.isExpressible_of_read?
      (Span.isExpressible_ofSeconds (by decide)),
    Setting.forall_of_field? _ read.clientCache ClientCacheConfig.isExpressible_of_read?
      ClientCacheConfig.isExpressible_default⟩

theorem StoreConfig.isExpressible_of_read? (value : Setting) (config : StoreConfig)
    (read : StoreConfig.read? value = some config) : config.IsExpressible := by
  obtain ⟨kind, rest, -, ⟨-, rfl⟩ | ⟨-, server, served, rfl⟩⟩ := read?_eq_some read
  · trivial
  · exact RedisConfig.isExpressible_of_read? _ _ served

/-- Whatever is read as a configuration can be told by a text. -/
theorem SessionConfig.isExpressible_of_read? {value : Setting} {config : SessionConfig}
    (read : SessionConfig.read? strictness value = some config) : config.IsExpressible := by
  obtain ⟨entries, -, read⟩ := Option.bind_eq_some_iff.mp (read?_eq_bind strictness value ▸ read)
  have read := read?_table_eq_some_iff.mp read
  have span {name : String} {seconds : Nat} {span : Span} (small : seconds ≤ Decimal.maxWord64)
      (found : Setting.field? entries name (Span.read? strictness) (Span.ofSeconds seconds) =
        some span) : span.IsExpressible :=
    Setting.forall_of_field? _ found Span.isExpressible_of_read? (Span.isExpressible_ofSeconds small)
  exact
    { timeout := span (by decide) read.timeout
      maxRefresh := span (by decide) read.maxRefresh
      refreshLifetime := span (by decide) read.refreshLifetime
      tokenLookup := Setting.forall_of_field? _ read.tokenLookup
        TokenLookup.isExpressible_of_read? TokenLookup.isExpressible_standard
      refreshTokenLookup :=
        Setting.forall_of_optional? _ read.refreshTokenLookup TokenLookup.isExpressible_of_read?
      cookies := Setting.forall_of_field? _ read.cookies CookieConfig.isExpressible_of_read?
        ⟨nofun, nofun⟩
      store := Setting.forall_of_field? _ read.store StoreConfig.isExpressible_of_read? trivial }

/-! ## What can be told is read again -/

theorem Json.string_ne_null {text : String} : Json.string text ≠ .null := by
  rintro ⟨⟩

theorem Json.int_ne_null {value : Int} : Json.int value ≠ .null := by
  rintro ⟨⟩

namespace Setting

variable {α : Type} {name : String}

theorem ofMembers_append (front back : Members) :
    ofMembers (front ++ back) = ofMembers front ++ ofMembers back := by
  induction front with
  | nil => rfl
  | cons member front ih => rw [List.cons_append, ofMembers, ofMembers, ih, List.cons_append]

theorem lookup_optionalMember (name other : String) (value : Option Json) :
    (ofMembers (optionalMember name value)).lookup other =
      if other = name then value.map ofJson else none := by
  cases value with
  | none => simp [optionalMember, ofMembers]
  | some value => simp [optionalMember, ofMembers, lookup_cons]

/-- An optional field that is written when there is a value is read again. -/
theorem field?_of_map {read : Setting → Option α} {write : α → Json} {value : Option α}
    (found : entries.lookup name = (value.map write).map ofJson)
    (present : ∀ inner, write inner ≠ .null)
    (reread : ∀ inner ∈ value, read (ofJson (write inner)) = some inner) :
    field? entries name (optional? read) none = some value := by
  cases value with
  | none => rw [field?, found]; rfl
  | some inner =>
      have mapped : optional? read (ofJson (write inner)) =
          (read (ofJson (write inner))).map some := by
        cases written : write inner with
        | null => exact absurd written (present inner)
        | _ => rfl
      rw [field?_of_lookup (found.trans rfl), mapped, reread inner rfl, Option.map_some]

end Setting

theorem Span.IsExpressible.read?_toJson {span : Span} (expressible : span.IsExpressible)
    (strictness : Strictness) :
    Span.read? strictness (Setting.ofJson span.toJson) = some span := by
  obtain ⟨seconds, small, rfl⟩ := expressible
  rw [Span.toJson, Setting.ofJson, Span.read?, Span.seconds_ofSeconds, Setting.natural?,
    if_pos ⟨by omega, by omega⟩, Int.toNat_natCast, Option.map_some]

theorem TokenLookup.IsExpressible.read?_write {lookup : TokenLookup}
    (expressible : lookup.IsExpressible) (strictness : Strictness) :
    TokenLookup.read? strictness (.text lookup.write) = some lookup := by
  obtain ⟨rules, parsed⟩ := expressible
  rw [TokenLookup.read?, Setting.text?, Option.bind_eq_bind, Option.bind_some, parse_write parsed]
  rfl

theorem KeyConfig.read?_toJson (config : KeyConfig) (strictness : Strictness) :
    KeyConfig.read? strictness (Setting.ofJson config.toJson) = some config := by
  rw [toJson, Setting.ofJson, read?_table_eq_some_iff]
  intro field
  refine @Setting.field?_of_map _ _ _ _ Json.string _ ?_ (fun _ => Json.string_ne_null) ?_
  · cases field <;>
      simp [Setting.ofMembers_append, List.lookup_append, Setting.lookup_optionalMember,
        KeyText.name, KeyText.value?]
  · intro text _
    cases strictness <;> rfl

/-! ## Sections -/

section Fields

variable {name : String}

theorem Setting.field?_text {value default : String}
    (found : entries.lookup name = some (.text value)) :
    field? entries name (text? strictness) default = some value := by
  rw [field?_of_lookup found]
  cases strictness <;> rfl

theorem Setting.field?_flag {value default : Bool}
    (found : entries.lookup name = some (.flag value)) :
    field? entries name (flag? strictness) default = some value := by
  rw [field?_of_lookup found]
  cases strictness <;> rfl

theorem Setting.field?_span {span default : Span} (expressible : span.IsExpressible)
    (found : entries.lookup name = some (ofJson span.toJson)) :
    field? entries name (Span.read? strictness) default = some span := by
  rw [field?_of_lookup found, expressible.read?_toJson strictness]

theorem Setting.field?_optionalSpan {value : Option Span}
    (expressible : ∀ span ∈ value, span.IsExpressible)
    (found : entries.lookup name = (value.map Span.toJson).map ofJson) :
    field? entries name (optional? (Span.read? strictness)) none = some value :=
  field?_of_map found (fun _ => Json.int_ne_null) fun span inside => (expressible span inside).read?_toJson strictness

end Fields

theorem CookieConfig.IsExpressible.read?_toJson {config : CookieConfig}
    (expressible : config.IsExpressible) (strictness : Strictness) :
    CookieConfig.read? strictness (Setting.ofJson config.toJson) = some config := by
  obtain ⟨entries, written, sendCookie, name, maxAge, domain, secure, httpOnly, sameSite,
      refreshName, refreshMaxAge, refreshHttpOnly⟩ : ∃ entries,
      Setting.ofJson config.toJson = .table entries ∧
      entries.lookup "send_cookie" = some (.flag config.sendCookie) ∧
      entries.lookup "name" = some (.text config.name) ∧
      entries.lookup "max_age" = (config.maxAge.map Span.toJson).map Setting.ofJson ∧
      entries.lookup "domain" = (config.domain.map Json.string).map Setting.ofJson ∧
      entries.lookup "secure" = some (.flag config.secure) ∧
      entries.lookup "http_only" = some (.flag config.httpOnly) ∧
      entries.lookup "same_site" =
        (config.sameSite.map fun policy => Json.string policy.name).map Setting.ofJson ∧
      entries.lookup "refresh_name" = some (.text config.refreshName) ∧
      entries.lookup "refresh_max_age" =
        (config.refreshMaxAge.map Span.toJson).map Setting.ofJson ∧
      entries.lookup "refresh_http_only" = some (.flag config.refreshHttpOnly) := by
    refine ⟨_, rfl, ?_⟩
    simp [Setting.ofMembers_append, Setting.ofMembers, Setting.ofJson, List.lookup_append,
      Setting.lookup_cons, Setting.lookup_optionalMember]
  have domain : Setting.field? entries "domain" (Setting.optional? (Setting.text? strictness)) none =
      some config.domain :=
    Setting.field?_of_map domain (fun _ => Json.string_ne_null) fun text _ => by cases strictness <;> rfl
  have sameSite : Setting.field? entries "same_site"
      (Setting.optional? (Setting.choice? SameSite.ofName? strictness)) none =
        some config.sameSite :=
    Setting.field?_of_map sameSite (fun _ => Json.string_ne_null) fun policy _ => SameSite.ofName?_name policy
  rw [written]
  exact CookieConfig.read?_table_eq_some_iff.mpr
    { sendCookie := Setting.field?_flag sendCookie
      name := Setting.field?_text name
      maxAge := Setting.field?_optionalSpan expressible.maxAge maxAge
      domain
      secure := Setting.field?_flag secure
      httpOnly := Setting.field?_flag httpOnly
      sameSite
      refreshName := Setting.field?_text refreshName
      refreshMaxAge := Setting.field?_optionalSpan expressible.refreshMaxAge refreshMaxAge
      refreshHttpOnly := Setting.field?_flag refreshHttpOnly }

theorem ClientCacheConfig.IsExpressible.read?_toJson {config : ClientCacheConfig}
    (expressible : config.IsExpressible) :
    ClientCacheConfig.read? (Setting.ofJson config.toJson) = some config := by
  obtain ⟨entries, written, enabled, size, lifetime⟩ : ∃ entries,
      Setting.ofJson config.toJson = .table entries ∧
      entries.lookup "enabled" = some (.flag config.enabled) ∧
      entries.lookup "size_bytes" = some (.whole config.size) ∧
      entries.lookup "ttl" = some (Setting.ofJson config.lifetime.toJson) := by
    refine ⟨_, rfl, ?_⟩
    simp [Setting.ofMembers, Setting.ofJson, Setting.lookup_cons]
  have size : Setting.field? entries "size_bytes" (Setting.natural? .exact) 134217728 =
      some config.size := by
    have small := expressible.size
    rw [Setting.field?_of_lookup size, Setting.natural?, if_pos ⟨by omega, by omega⟩,
      Int.toNat_natCast]
  rw [written]
  simp only [ClientCacheConfig.read?, Setting.section?, Option.bind_eq_bind, Option.bind_some,
    Setting.field?_flag enabled, size, Setting.field?_span expressible.lifetime lifetime]
  rfl

/-- The settings of a server are read again, also with other members around them. -/
theorem RedisConfig.IsExpressible.read?_toMembers {config : RedisConfig}
    (expressible : config.IsExpressible) :
    RedisConfig.read? (.table (Setting.ofMembers config.toMembers)) = some config := by
  refine RedisConfig.read?_table_eq_some_iff.mpr
    { address := Setting.field?_text rfl
      password := Setting.field?_text rfl
      database := ?_
      keyMark := Setting.field?_text rfl
      connectTimeout := Setting.field?_span expressible.connectTimeout rfl
      clientCache := ?_ }
  · have found : (Setting.ofMembers config.toMembers).lookup "db" = some (.whole config.database) :=
      rfl
    rw [Setting.field?_of_lookup found, Setting.integer?, if_pos expressible.database]
  · exact (Setting.field?_of_lookup rfl).trans expressible.clientCache.read?_toJson

theorem StoreConfig.IsExpressible.read?_toJson {config : StoreConfig}
    (expressible : config.IsExpressible) :
    StoreConfig.read? (Setting.ofJson config.toJson) = some config := by
  cases config with
  | memory => rfl
  | redis server =>
      have split : split? (Setting.ofJson (toJson (.redis server))) =
          some (.text "redis", .table (Setting.ofMembers server.toMembers)) := rfl
      have read := RedisConfig.IsExpressible.read?_toMembers expressible
      simp only [StoreConfig.read?, split, Option.bind_eq_bind, Option.bind_some, read,
        Option.map_some]

/-- A configuration that can be told is read again from the object that it is written as. -/
theorem SessionConfig.IsExpressible.read?_toJson {config : SessionConfig}
    (expressible : config.IsExpressible) (strictness : Strictness) :
    SessionConfig.read? strictness (Setting.ofJson config.toJson) = some config := by
  obtain ⟨entries, written, realm, algorithm, keys, timeout, maxRefresh, refreshLifetime,
      tokenLookup, refreshTokenLookup, headName, identityKey, expiryField, sendAuthorization,
      cookies, store⟩ : ∃ entries,
      Setting.ofJson config.toJson = .table entries ∧
      entries.lookup "realm" = some (.text config.realm) ∧
      entries.lookup "signing_algorithm" = some (.text config.algorithm.name) ∧
      entries.lookup "keys" = some (Setting.ofJson config.keys.toJson) ∧
      entries.lookup "timeout" = some (Setting.ofJson config.timeout.toJson) ∧
      entries.lookup "max_refresh" = some (Setting.ofJson config.maxRefresh.toJson) ∧
      entries.lookup "refresh_token_ttl" = some (Setting.ofJson config.refreshLifetime.toJson) ∧
      entries.lookup "token_lookup" = some (.text config.tokenLookup.write) ∧
      entries.lookup "refresh_token_lookup" =
        (config.refreshTokenLookup.map fun lookup => Json.string lookup.write).map
          Setting.ofJson ∧
      entries.lookup "token_head_name" = some (.text config.headName) ∧
      entries.lookup "identity_key" = some (.text config.identityKey) ∧
      entries.lookup "exp_field" = some (.text config.expiryField) ∧
      entries.lookup "send_authorization" = some (.flag config.sendAuthorization) ∧
      entries.lookup "cookies" = some (Setting.ofJson config.cookies.toJson) ∧
      entries.lookup "store" = some (Setting.ofJson config.store.toJson) := by
    refine ⟨_, rfl, ?_⟩
    simp [Setting.ofMembers_append, Setting.ofMembers, Setting.ofJson, List.lookup_append,
      Setting.lookup_cons, Setting.lookup_optionalMember]
  have algorithm : Setting.field? entries "signing_algorithm"
      (Setting.choice? Algorithm.ofName? strictness) .hs256 = some config.algorithm := by
    rw [Setting.field?_of_lookup algorithm, Setting.choice?, Algorithm.ofName?_name]
  have keys : Setting.field? entries "keys" (KeyConfig.read? strictness) {} = some config.keys := by
    rw [Setting.field?_of_lookup keys, KeyConfig.read?_toJson]
  have tokenLookup : Setting.field? entries "token_lookup" (TokenLookup.read? strictness)
      .standard = some config.tokenLookup := by
    rw [Setting.field?_of_lookup tokenLookup, expressible.tokenLookup.read?_write strictness]
  have refreshTokenLookup : Setting.field? entries "refresh_token_lookup"
      (Setting.optional? (TokenLookup.read? strictness)) none = some config.refreshTokenLookup :=
    Setting.field?_of_map refreshTokenLookup (fun _ => Json.string_ne_null) fun lookup inside =>
      (expressible.refreshTokenLookup lookup inside).read?_write strictness
  have cookies : Setting.field? entries "cookies" (CookieConfig.read? strictness) {} =
      some config.cookies := by
    rw [Setting.field?_of_lookup cookies, expressible.cookies.read?_toJson strictness]
  have store : Setting.field? entries "store" StoreConfig.read? .memory = some config.store := by
    rw [Setting.field?_of_lookup store, expressible.store.read?_toJson]
  rw [written]
  exact SessionConfig.read?_table_eq_some_iff.mpr
    { realm := Setting.field?_text realm
      algorithm
      keys
      timeout := Setting.field?_span expressible.timeout timeout
      maxRefresh := Setting.field?_span expressible.maxRefresh maxRefresh
      refreshLifetime := Setting.field?_span expressible.refreshLifetime refreshLifetime
      tokenLookup
      refreshTokenLookup
      headName := Setting.field?_text headName
      identityKey := Setting.field?_text identityKey
      expiryField := Setting.field?_text expiryField
      sendAuthorization := Setting.field?_flag sendAuthorization
      cookies
      store }

/-! ## The text of what can be told -/

namespace Json

/-- A value that a text keeps as it is, not nested deeper than so far. -/
structure IsKept (depth : Nat) (value : Json) : Prop where
  exact : value.isExact = true
  shallow : value.nesting ≤ depth

theorem IsKept.parse?_write {value : Json} (kept : value.IsKept maxDepth) :
    parse? (write escapePlain value) = some value := by
  rw [parse?, parseRaw?_write, reread_of_isExact value maxDepth kept.exact kept.shallow,
    Option.map_some, merge_of_isExact value kept.exact]

variable {depth : Nat}

theorem isKept_string (text : String) : IsKept depth (.string text) := ⟨rfl, Nat.zero_le _⟩

theorem isKept_bool (flag : Bool) : IsKept depth (.bool flag) := ⟨rfl, Nat.zero_le _⟩

theorem isKept_int {value : Int} (low : Decimal.minInt64 ≤ value)
    (high : value ≤ Decimal.maxWord64) : IsKept depth (.int value) :=
  ⟨isExact_int.mpr ⟨low, high⟩, Nat.zero_le _⟩

theorem isKept_natural {value : Nat} (small : value ≤ Decimal.maxWord64) :
    IsKept depth (.int value) :=
  isKept_int (Int.le_trans (show Decimal.minInt64 ≤ 0 by decide) (Int.natCast_nonneg value))
    (Int.ofNat_le.mpr small)

end Json

structure Members.AreKept (depth : Nat) (names : List String) (members : Members) : Prop where
  values : ∀ member ∈ members, member.2.IsKept depth
  ordered : members.names.Sublist names

namespace Members.AreKept

variable {depth : Nat} {name : String} {value : Json} {members back : Members}
  {names others : List String}

theorem nil : AreKept depth [] [] := ⟨nofun, List.Sublist.refl _⟩

theorem cons (kept : value.IsKept depth) (rest : AreKept depth names members) :
    AreKept depth (name :: names) ((name, value) :: members) :=
  ⟨List.forall_mem_cons.mpr ⟨kept, rest.values⟩, rest.ordered.cons_cons name⟩

theorem optional {value : Option Json} (kept : ∀ inner ∈ value, inner.IsKept depth) :
    AreKept depth [name] (optionalMember name value) := by
  cases value with
  | none => exact ⟨nofun, List.nil_sublist _⟩
  | some inner => exact cons (kept inner rfl) nil

theorem append (front : AreKept depth names members) (rest : AreKept depth others back) :
    AreKept depth (names ++ others) (members ++ back) where
  values := List.forall_mem_append.mpr ⟨front.values, rest.values⟩
  ordered := by
    rw [Members.names, List.map_append]
    exact front.ordered.append rest.ordered

/-- An object of such members is kept when the names are different. -/
theorem object (kept : AreKept depth names members) (distinct : names.Nodup) :
    (Json.object members).IsKept (depth + 1) where
  exact := by
    rw [Json.isExact, Bool.and_eq_true, decide_eq_true_eq]
    exact ⟨kept.ordered.nodup distinct,
      Json.exactMembers_iff.mpr fun member inside => (kept.values member inside).exact⟩
  shallow := Nat.add_le_add_right
    (Json.nestingMembers_le_iff.mpr fun member inside => (kept.values member inside).shallow) 1

end Members.AreKept

section Kept

open Json (isKept_string isKept_bool isKept_natural isKept_int)

variable {depth : Nat}

theorem Span.IsExpressible.isKept {span : Span} (expressible : span.IsExpressible) :
    span.toJson.IsKept depth := by
  obtain ⟨seconds, small, rfl⟩ := expressible
  rw [Span.toJson, Span.seconds_ofSeconds]
  exact isKept_natural small

theorem isKept_of_map {α : Type} {value : Option α} {write : α → Json}
    (kept : ∀ inner ∈ value, (write inner).IsKept depth) :
    ∀ json ∈ value.map write, json.IsKept depth := by
  cases value with
  | none => nofun
  | some inner =>
      rintro json inside
      cases inside
      exact kept inner rfl

theorem KeyConfig.isKept (config : KeyConfig) : config.toJson.IsKept (depth + 1) := by
  have text (name : String) (value : Option String) :
      Members.AreKept depth [name] (optionalMember name (value.map .string)) :=
    .optional (isKept_of_map fun text _ => isKept_string text)
  have kept : Members.AreKept depth fields _ :=
    (((((text _ config.secret).append (text _ config.privateKeyFile)).append
      (text _ config.privateKey)).append (text _ config.privateKeyPassphrase)).append
        (text _ config.publicKeyFile)).append (text _ config.publicKey)
  exact kept.object (by decide)

theorem CookieConfig.IsExpressible.isKept {config : CookieConfig}
    (expressible : config.IsExpressible) : config.toJson.IsKept (depth + 1) := by
  have kept : Members.AreKept depth fields _ :=
    ((((((Members.AreKept.cons (isKept_bool config.sendCookie)
        (.cons (isKept_string config.name) .nil)).append
      (.optional (isKept_of_map fun span inside => (expressible.maxAge span inside).isKept))).append
      (.optional (isKept_of_map fun text (_ : text ∈ config.domain) => isKept_string text))).append
      (.cons (isKept_bool config.secure) (.cons (isKept_bool config.httpOnly) .nil))).append
      (.optional (isKept_of_map fun policy (_ : policy ∈ config.sameSite) =>
        isKept_string policy.name))).append
      (.cons (isKept_string config.refreshName) .nil)).append
      (.optional (isKept_of_map fun span inside =>
        (expressible.refreshMaxAge span inside).isKept)) |>.append
      (.cons (isKept_bool config.refreshHttpOnly) .nil)
  exact kept.object (by decide)

theorem ClientCacheConfig.IsExpressible.isKept {config : ClientCacheConfig}
    (expressible : config.IsExpressible) : config.toJson.IsKept (depth + 1) := by
  have kept : Members.AreKept depth fields _ :=
    .cons (isKept_bool config.enabled) (.cons (isKept_natural expressible.size)
      (.cons expressible.lifetime.isKept .nil))
  exact kept.object (by decide)

theorem StoreConfig.IsExpressible.isKept {config : StoreConfig}
    (expressible : config.IsExpressible) : config.toJson.IsKept (depth + 2) := by
  cases config with
  | memory =>
      have kept : Members.AreKept (depth + 1) ["backend"] _ := .cons (isKept_string "memory") .nil
      exact kept.object (by decide)
  | redis server =>
      have low := expressible.database.1
      have high : server.database ≤ Decimal.maxWord64 := by
        have := expressible.database.2
        rw [Decimal.maxInt64] at this
        rw [Decimal.maxWord64]
        omega
      have kept : Members.AreKept (depth + 1) ("backend" :: RedisConfig.fields) _ :=
        .cons (isKept_string "redis") (.cons (isKept_string server.address)
          (.cons (isKept_string server.password) (.cons (isKept_int low high)
            (.cons (isKept_string server.keyMark) (.cons expressible.connectTimeout.isKept
              (.cons expressible.clientCache.isKept .nil))))))
      exact kept.object (by decide)

/-- A configuration that can be told is written as an object that a text keeps. -/
theorem SessionConfig.IsExpressible.isKept {config : SessionConfig}
    (expressible : config.IsExpressible) : config.toJson.IsKept (depth + 3) := by
  have kept : Members.AreKept (depth + 2) fields _ :=
    ((Members.AreKept.cons (isKept_string config.realm)
        (.cons (isKept_string config.algorithm.name) (.cons config.keys.isKept
          (.cons expressible.timeout.isKept (.cons expressible.maxRefresh.isKept
            (.cons expressible.refreshLifetime.isKept
              (.cons (isKept_string config.tokenLookup.write) .nil))))))).append
      (.optional (isKept_of_map fun lookup (_ : lookup ∈ config.refreshTokenLookup) =>
        isKept_string lookup.write))).append
      (.cons (isKept_string config.headName) (.cons (isKept_string config.identityKey)
        (.cons (isKept_string config.expiryField) (.cons (isKept_bool config.sendAuthorization)
          (.cons expressible.cookies.isKept (.cons expressible.store.isKept .nil))))))
  exact kept.object (by decide)

end Kept

/-! ## All settings -/

theorem SessionConfig.IsCopyOf.refl (config : SessionConfig) : config.IsCopyOf config where
  same := rfl
  json := rfl
  verdict := rfl
  refreshLookup := rfl
  connection := fun server here => ⟨server, here, rfl⟩

/--
A configuration that was read, from whatever value and in whichever way, is
written as an object that a text keeps, and from that object it is read again as
it was: all its fields, and with them what it is written as, whether it is valid,
where refresh tokens are looked for, and which server it leads to.
-/
theorem saved_settings_are_kept {strictness : Strictness} {value : Setting}
    {config : SessionConfig} (read : SessionConfig.read? strictness value = some config) :
    Json.parse? (Json.write Json.escapePlain config.toJson) = some config.toJson ∧
      ∀ rereading : Strictness, ∃ copy,
        SessionConfig.read? rereading (Setting.ofJson config.toJson) = some copy ∧
          copy.IsCopyOf config := by
  have expressible := SessionConfig.isExpressible_of_read? read
  exact ⟨(expressible.isKept : Json.IsKept (124 + 3) _).parse?_write, fun rereading =>
    ⟨config, expressible.read?_toJson rereading, .refl config⟩⟩

/-- Sections as lists, missing and empty fields, the longest span and a server of their own. -/
theorem saved_settings_are_kept_server :
    ∃ config : SessionConfig,
      SessionConfig.read? .exact (Setting.ofJson (.object
        [("signing_algorithm", .string "RS256"), ("keys", .array [.null, .string "key.pem"]),
          ("timeout", .int 18446744073709551615), ("token_lookup", .string " query : token ,,"),
          ("cookies", .object [("max_age", .int 60), ("domain", .null),
            ("same_site", .object [("lax", .null)])]),
          ("store", .object [("password", .string "p@ss"), ("backend", .string "redis"),
            ("db", .int (-3)), ("client_cache", .array [.bool true])])])) = some config ∧
        config.keys = { privateKeyFile := "key.pem" } ∧
        config.tokenLookup = ⟨[⟨.query, "token"⟩]⟩ ∧
        config.cookies = { maxAge := Span.ofSeconds 60, sameSite := some .lax } ∧
        config.store = .redis
          { password := "p@ss", database := -3, clientCache := { enabled := true } } ∧
        ∃ copy, SessionConfig.read? .exact (Setting.ofJson config.toJson) = some copy ∧
          copy.IsCopyOf config := by
  refine ⟨
    { algorithm := .rs256
      keys := { privateKeyFile := "key.pem" }
      timeout := Span.ofSeconds 18446744073709551615
      tokenLookup := ⟨[⟨.query, "token"⟩]⟩
      cookies := { maxAge := Span.ofSeconds 60, sameSite := some .lax }
      store := .redis
        { password := "p@ss", database := -3, clientCache := { enabled := true } } },
    ?read, rfl, rfl, rfl, rfl, (saved_settings_are_kept ?read).2 .exact⟩
  decide +kernel

end SessionTokens
