import SessionTokens.Session.Builder
import SessionTokens.Settings.File

/-!
# The demonstration service

A service with two users whose passwords are their names.  Its settings come
from a configuration file; a secret and a Redis address may be given beside it.
-/

namespace SessionTokens.Demo

def users : List String := ["admin", "test"]

def credential? (credentials : Json) (name : String) : Option String := do
  let members ← credentials.asObject?
  let value ← Members.get? members name
  value.asString?

def userData (user : String) : Json :=
  .object [("user", .string user), ("first_name", .string "Demo"), ("last_name", .string "User")]

/-- The user with given credentials: one of the users, with the name as the password. -/
def identify (credentials : Json) : Except AuthenticationError String :=
  match credential? credentials "username", credential? credentials "password" with
  | some user, some password =>
      if user = password ∧ users.contains user then .ok user
      else .error .failedAuthentication
  | _, _ => .error .missingLoginValues

/-- Admits the users, and hands out their data. -/
def authenticate (credentials : Json) : Except AuthenticationError Json :=
  (identify credentials).map userData

inductive StartError where
  | loading (path : String) (error : ConfigError)
  | starting (error : SessionError)
  deriving DecidableEq

def StartError.message : StartError → String
  | .loading path _ => "failed to load " ++ path
  | .starting _ => "failed to initialize session engine"

def StartError.cause : StartError → String
  | .loading _ error => error.message
  | .starting error => error.message

structure Options where
  configPath : Option String := none
  secret : Option String := none
  redisAddress : Option String := none
  deriving DecidableEq, Repr

def settings (read : FileReader) (environment : List (String × String)) (options : Options) :
    Except StartError SessionConfig :=
  match options.configPath with
  | none => .ok {}
  | some path =>
      (SessionConfig.load read environment path Environment.standardScope).mapError (.loading path)

def builder (config : SessionConfig) (options : Options) : EngineBuilder :=
  let plain := { EngineBuilder.ofConfig config with authenticator := some authenticate }
  let secured :=
    match options.secret with
    | some secret => plain.withSecret secret
    | none => plain
  match options.redisAddress with
  | some address => secured.withRedisAddress address
  | none => secured

def start (read : FileReader) (environment : List (String × String)) (options : Options) :
    Except StartError (SessionEngine × Store) := do
  let config ← settings read environment options
  ((builder config options).build read).mapError .starting

end SessionTokens.Demo
