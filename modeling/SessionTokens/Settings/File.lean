import SessionTokens.Json.Parser
import SessionTokens.Settings.Path
import SessionTokens.Settings.Sections
import SessionTokens.Settings.Toml.Document
import SessionTokens.Settings.Yaml.Document
import SessionTokens.Text.Case
import SessionTokens.Text.Split

/-!
# Settings from files and from the environment

Settings come from a file, whose name says its format, and from variables of
the environment put over them.  The result is checked before it is used.

A variable sets a value when its name, without regard to case, starts with the
program's scope and two underscores.  Further double underscores stand for the
points of a path.  A text that looks like a truth value or a number is one.
-/

namespace SessionTokens

/-! ## Variables -/

namespace Environment

def standardScope : String := "SESSIONGATE"

/-- A text with every two underscores in a row made a point. -/
def separate : List Char → List Char
  | '_' :: '_' :: rest => '.' :: separate rest
  | char :: rest => char :: separate rest
  | [] => []

/-- The path that a variable sets, if it belongs to the scope. -/
def pathOf? (scope name : String) : Option String :=
  let mark := Text.lower (scope.toList ++ ['_', '_'])
  let name := Text.lower name.toList
  if mark.isPrefixOf name then some (String.ofList (separate (name.drop mark.length)))
  else none

def valueOf (text : String) : Setting :=
  let word := Setting.lower text
  if word = "true" then .flag true
  else if word = "false" then .flag false
  else
    match Decimal.integer? Decimal.minInt64 Decimal.maxInt64 text.toList with
    | some value => .whole value
    | none =>
        match Decimal.number? text.toList with
        | some value => .decimal value
        | none => .text text

def settings (scope : String) (environment : List (String × String)) : Entries :=
  environment.filterMap fun (name, text) =>
    (pathOf? scope name).map fun path => (path, valueOf text)

end Environment

/-! ## Files -/

inductive FileFormat where
  | toml
  | yaml
  | json
  deriving DecidableEq, Repr

namespace FileFormat

def ofExtension? (name : String) : Option FileFormat :=
  match name with
  | "toml" => some .toml
  | "yaml" | "yml" => some .yaml
  | "json" => some .json
  | _ => none

def extensions : FileFormat → List String
  | .toml => ["toml"]
  | .yaml => ["yaml", "yml"]
  | .json => ["json"]

/-- A whole number beyond a signed word becomes the nearest other number. -/
def widen (value : Int) : Setting :=
  if value ≤ Decimal.maxInt64 then .whole value
  else .decimal (((Binary64.ofInt value).map .finite).getD .notANumber)

mutual

def ofJson : Json → Setting
  | .int value => widen value
  | .array items => .list (ofItems items)
  | .object members => .table (ofMembers members)
  | .null => .absent
  | .bool value => .flag value
  | .float value => .decimal (.finite value)
  | .string value => .text value

def ofItems : List Json → List Setting
  | [] => []
  | item :: rest => ofJson item :: ofItems rest

def ofMembers : Members → Entries
  | [] => []
  | (name, value) :: rest => (name, ofJson value) :: ofMembers rest

end

def parse? (format : FileFormat) (text : List Char) : Option Entries :=
  match format with
  | .toml => Toml.parse? text
  | .yaml => Yaml.parse? text
  | .json =>
      match (Json.parse? text).map ofJson with
      | some (.table entries) => some entries
      | _ => none

end FileFormat

namespace SessionConfig

def extension? (path : String) : Option String := do
  let names := (Text.splitAll '/' path.toList).filter fun name => name ≠ [] && name ≠ ['.']
  let name ← names.getLast?
  let (stem, extension) ← Text.splitLast '.' name
  if stem = [] ∨ name = ['.', '.'] then none else return String.ofList extension

/-- The octets of a file without a mark of their order at the front. -/
def withoutMark : Bytes → Bytes
  | 0xEF :: 0xBB :: 0xBF :: rest => rest
  | octets => octets

/--
The contents of a file.  When the path is a directory, a file whose name has an
extension of the format added is looked for.
-/
def contents? (read : FileReader) (format : FileFormat) (path : String) : Option Bytes :=
  match read path with
  | .ok octets => some octets
  | .error _ =>
      format.extensions.findSome? fun extension => (read (path ++ "." ++ extension)).toOption

def settings? (read : FileReader) (format : FileFormat) (path : String) (overrides : Entries) :
    Option Setting := do
  let octets ← contents? read format path
  let entries ← format.parse? (Utf8.decodeLossy (withoutMark octets))
  return ((Setting.table []).putAll entries).putAll overrides

def load (read : FileReader) (environment : List (String × String)) (path scope : String) :
    Except ConfigError SessionConfig := do
  if (match read path with | .error .missing => true | _ => false) then
    throw (.fileNotFound path)
  match (extension? path).bind FileFormat.ofExtension? with
  | none => throw .unsupportedFormat
  | some format =>
      match (settings? read format path (Environment.settings scope environment)).bind
          (SessionConfig.read? .lenient) with
      | none => throw (.parse "unreadable")
      | some config =>
          config.validate
          return config

end SessionConfig

end SessionTokens
