import SessionTokens.Address.Basic
import SessionTokens.Json.Number
import SessionTokens.Store.Config
import SessionTokens.Store.Error

/-!
# Connection addresses

The address of a Redis server from its settings: a bare host gets a scheme, and
password and database go into the address.

The usual form of such an address is plain: a host, maybe a port, and maybe one of
the two schemes in front.
-/

namespace SessionTokens

namespace RedisConfig

/-- Whether a text has a colon with two slashes somewhere. -/
def hasScheme : List Char → Bool
  | ':' :: '/' :: '/' :: _ => true
  | _ :: rest => hasScheme rest
  | [] => false

/-- The address as it is read: with a scheme in front when there is none. -/
def fullAddress (config : RedisConfig) : String :=
  if hasScheme config.address.toList then config.address else "redis://" ++ config.address

def schemes : List String := ["redis", "rediss"]

def connectionAddress (config : RedisConfig) : Except StoreError Address := do
  let plain ← (Address.parse config.fullAddress).mapError fun fault =>
    .configuration ("invalid Redis address '" ++ config.address ++ "': " ++ fault.message)
  if ¬ schemes.contains plain.scheme then
    throw (.configuration ("unsupported Redis URL scheme '" ++ plain.scheme ++ "'"))
  let secured ←
    if config.password = "" then pure plain
    else
      match plain.withPassword? config.password with
      | some address => pure address
      | none => throw (.configuration "Redis address cannot carry a password")
  return if config.database = 0 then secured
    else secured.withSegment (Json.writeInt config.database)

end RedisConfig

/-! ## Plain addresses -/

namespace Address

def isHostChar (char : Char) : Bool :=
  char.isLower || char.isDigit || char = '.' || char = '-'

/-- What stands in front of a host for a scheme. -/
inductive SchemeText : String → List Char → Prop
  | bare : SchemeText "redis" []
  | plain : SchemeText "redis" "redis://".toList
  | secured : SchemeText "rediss" "rediss://".toList

/-- What stands behind a host for a port: nothing, or a colon and decimal digits. -/
inductive PortText : Option Nat → List Char → Prop
  | absent : PortText none []
  | digits {run : List Char} (filled : run ≠ [])
      (digits : ∀ char ∈ run, Decimal.isDigit char = true)
      (small : Decimal.ofDigits 0 run ≤ 65535) :
      PortText (some (Decimal.ofDigits 0 run)) (':' :: run)

/-- A host with a scheme and a port as it is written in settings. -/
structure IsPlain (text scheme : String) (host : List Char) (port : Option Nat) : Prop where
  filled : host ≠ []
  chars : ∀ char ∈ host, isHostChar char = true
  written : ∃ front back, SchemeText scheme front ∧ PortText port back ∧
    text = String.ofList (front ++ (host ++ back))

def decodedPassword (address : Address) : Bytes :=
  match address.authority with
  | .server server => Percent.decode (Utf8.encode server.password)
  | _ => []

end Address

/--
An address that leads to a server under the credentials of a configuration.
Escapes that stand in the password are replaced like those that are put there.
-/
structure RedisConfig.LeadsTo (config : RedisConfig) (scheme : String) (host : List Char)
    (port : Option Nat) (address : Address) : Prop where
  scheme : address.scheme = scheme
  server : ∃ password, address.authority = .server { password, host, port } ∧
    (password = [] ↔ config.password = "")
  path : address.path = if config.database = 0 then [] else '/' :: Json.writeInt config.database
  bare : address.query = none ∧ address.fragment = none
  password : address.decodedPassword = Percent.decode (Utf8.ofString config.password)

end SessionTokens
