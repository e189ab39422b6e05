import SessionTokens.Settings.File

/-!
# Text settings

The settings that hold a text of their own: those of the engine itself, and
those in its sections for keys, for cookies and for a server.  Each has a path
into the tree of settings, and the variables of the environment that belong to
it are named after that path.
-/

namespace SessionTokens

/-- The texts of an engine that are in no section. -/
inductive EngineText where
  | realm
  | headName
  | identityKey
  | expiryField
  deriving DecidableEq, Repr

namespace EngineText

def name : EngineText → String
  | .realm => "realm"
  | .headName => "token_head_name"
  | .identityKey => "identity_key"
  | .expiryField => "exp_field"

def value (config : SessionConfig) : EngineText → String
  | .realm => config.realm
  | .headName => config.headName
  | .identityKey => config.identityKey
  | .expiryField => config.expiryField

def replace (config : SessionConfig) (text : String) : EngineText → SessionConfig
  | .realm => { config with realm := text }
  | .headName => { config with headName := text }
  | .identityKey => { config with identityKey := text }
  | .expiryField => { config with expiryField := text }

end EngineText

inductive KeyText where
  | secret
  | privateKeyFile
  | privateKey
  | privateKeyPassphrase
  | publicKeyFile
  | publicKey
  deriving DecidableEq, Repr

namespace KeyText

def name : KeyText → String
  | .secret => "secret"
  | .privateKeyFile => "private_key_file"
  | .privateKey => "private_key"
  | .privateKeyPassphrase => "private_key_passphrase"
  | .publicKeyFile => "public_key_file"
  | .publicKey => "public_key"

def value? (config : KeyConfig) : KeyText → Option String
  | .secret => config.secret
  | .privateKeyFile => config.privateKeyFile
  | .privateKey => config.privateKey
  | .privateKeyPassphrase => config.privateKeyPassphrase
  | .publicKeyFile => config.publicKeyFile
  | .publicKey => config.publicKey

def replace (config : KeyConfig) (text : String) : KeyText → KeyConfig
  | .secret => { config with secret := text }
  | .privateKeyFile => { config with privateKeyFile := text }
  | .privateKey => { config with privateKey := text }
  | .privateKeyPassphrase => { config with privateKeyPassphrase := text }
  | .publicKeyFile => { config with publicKeyFile := text }
  | .publicKey => { config with publicKey := text }

end KeyText

inductive CookieText where
  | accessName
  | domain
  | refreshName
  deriving DecidableEq, Repr

namespace CookieText

def name : CookieText → String
  | .accessName => "name"
  | .domain => "domain"
  | .refreshName => "refresh_name"

def value? (config : CookieConfig) : CookieText → Option String
  | .accessName => some config.name
  | .domain => config.domain
  | .refreshName => some config.refreshName

def replace (config : CookieConfig) (text : String) : CookieText → CookieConfig
  | .accessName => { config with name := text }
  | .domain => { config with domain := text }
  | .refreshName => { config with refreshName := text }

end CookieText

inductive ServerText where
  | address
  | password
  | keyMark
  deriving DecidableEq, Repr

namespace ServerText

def name : ServerText → String
  | .address => "addr"
  | .password => "password"
  | .keyMark => "key_prefix"

def value (config : RedisConfig) : ServerText → String
  | .address => config.address
  | .password => config.password
  | .keyMark => config.keyMark

def replace (config : RedisConfig) (text : String) : ServerText → RedisConfig
  | .address => { config with address := text }
  | .password => { config with password := text }
  | .keyMark => { config with keyMark := text }

end ServerText

def StoreConfig.text? (field : ServerText) : StoreConfig → Option String
  | .memory => none
  | .redis config => some (field.value config)

/-- The store with another text for its server; the memory has none. -/
def StoreConfig.replaceText (field : ServerText) (text : String) : StoreConfig → StoreConfig
  | .memory => .memory
  | .redis config => .redis (field.replace config text)

/-- What was read from a section, or the default if a list has to give way to a table. -/
def Setting.keptAsTable {α : Type} (default config : α) : Setting → α
  | .list _ => default
  | _ => config

inductive TextSetting where
  | engine (field : EngineText)
  | key (field : KeyText)
  | cookie (field : CookieText)
  | server (field : ServerText)
  deriving DecidableEq, Repr

namespace TextSetting

def path : TextSetting → List String
  | .engine field => [field.name]
  | .key field => ["keys", field.name]
  | .cookie field => ["cookies", field.name]
  | .server field => ["store", field.name]

/-- The name of a setting among variables: its path in upper case, two underscores between names. -/
def variableName (setting : TextSetting) : String :=
  String.ofList
    (List.intercalate ['_', '_'] (setting.path.map fun name => name.toList.map Char.toUpper))

def value? (config : SessionConfig) : TextSetting → Option String
  | .engine field => some (field.value config)
  | .key field => field.value? config.keys
  | .cookie field => field.value? config.cookies
  | .server field => config.store.text? field

def replace (config : SessionConfig) (text : String) : TextSetting → SessionConfig
  | .engine field => field.replace config text
  | .key field => { config with keys := field.replace config.keys text }
  | .cookie field => { config with cookies := field.replace config.cookies text }
  | .server field => { config with store := config.store.replaceText field text }

/-- How freely a setting is read; the store section takes nothing but texts. -/
def strictness : TextSetting → Strictness
  | .server _ => .exact
  | _ => .lenient

/-- The section of a setting in a tree; absent if it is missing. -/
def home (tree : Setting) : TextSetting → Setting
  | .engine _ => tree
  | .key _ => (tree.entries.lookup "keys").getD .absent
  | .cookie _ => (tree.entries.lookup "cookies").getD .absent
  | .server _ => (tree.entries.lookup "store").getD .absent

/--
The value that a setting is read from in a tree.  A section is a table or a
list of its values in their order; that of a server says that it is one.
-/
def place? (tree : Setting) (setting : TextSetting) : Option Setting :=
  match setting with
  | .engine field => tree.entries.lookup field.name
  | .key field =>
      ((setting.home tree).section? KeyConfig.fields .lenient).bind (·.lookup field.name)
  | .cookie field =>
      ((setting.home tree).section? CookieConfig.fields .lenient).bind (·.lookup field.name)
  | .server field =>
      match StoreConfig.split? (setting.home tree) with
      | some (.text "redis", rest) =>
          (rest.section? RedisConfig.fields .exact).bind (·.lookup field.name)
      | _ => none

/--
Whether a setting can be put under its name into its section.  A store section
must be a table then, since it has to name its kind beside the setting.
-/
def TakesNames (tree : Setting) : TextSetting → Prop
  | .server field => ∃ entries, (server field).home tree = .table entries
  | _ => True

/-- Whether a setting has a section: that of a server must be a table that says it is one. -/
def HasHome (tree : Setting) : TextSetting → Prop
  | .server field => ∃ entries, (server field).home tree = .table entries ∧
      entries.lookup "backend" = some (.text "redis")
  | _ => True

/--
The configuration before a setting is put under its name into its section.  A
section that is a list gives way to a table, where the other values are missing.
-/
def kept (tree : Setting) (config : SessionConfig) (setting : TextSetting) : SessionConfig :=
  match setting with
  | .key _ => { config with keys := (setting.home tree).keptAsTable {} config.keys }
  | .cookie _ => { config with cookies := (setting.home tree).keptAsTable {} config.cookies }
  | _ => config

end TextSetting

namespace SessionConfig

def tree? (read : FileReader) (path : String) : Option Setting := do
  let format ← (extension? path).bind FileFormat.ofExtension?
  settings? read format path []

end SessionConfig

namespace Environment

/-- Whether a character is neither a digit nor a sign nor a point. -/
def isLetter (char : Char) : Bool := !Decimal.isDigit char && char ∉ ['+', '-', '.']

/--
A text of letters: it is not blank, no character is a digit, a sign or a point,
and it is no word for a truth value or for a number.
-/
structure IsWord (text : String) : Prop where
  filled : Text.trim text.toList ≠ []
  letters : text.toList.all isLetter = true
  plain : Setting.lower text ∉ ["true", "false", "inf", "infinity", "nan"]

def spelling (text : String) : String :=
  (Setting.text? .lenient (valueOf text)).getD text

/-- A text that is a value's own spelling, so that reading the value gives it back. -/
inductive IsKept (text : String) : Prop where
  /-- A text that is neither a truth value nor a number. -/
  | plain (switch : Setting.lower text ∉ ["true", "false"])
      (number : Decimal.number? text.toList = none)
  | switch (word : text ∈ ["true", "false"])
  /-- A whole number in the range of a signed word, without needless zeros or signs. -/
  | whole (value : Int) (least : Decimal.minInt64 ≤ value) (greatest : value ≤ Decimal.maxInt64)
      (written : text = String.ofList (Json.writeInt value))
  /-- Another number, written plainly with the fewest digits. -/
  | decimal (value : Extended64)
      (fraction : Decimal.integer? Decimal.minInt64 Decimal.maxInt64 text.toList = none)
      (number : Decimal.number? text.toList = some value)
      (written : text = Setting.writeDecimal value)

/--
A variable overrides a setting, among others and over a file: whatever its
text, the setting is read from the value of that text.
-/
def Overrides (read : FileReader) (path scope : String)
    (before : List (String × String)) (name : String) (after : List (String × String))
    (setting : TextSetting) : Prop :=
  ∃ tree, SessionConfig.tree? read path = some tree ∧
    ∀ text, setting.place? (tree.putAll (settings scope (before ++ (name, text) :: after))) =
      some (valueOf text)

end Environment

end SessionTokens
