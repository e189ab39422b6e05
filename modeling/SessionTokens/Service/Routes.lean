import SessionTokens.Service.MediaType
import SessionTokens.Service.Reply

/-!
# Routes

Four paths make a session service: login, refresh, logout, and the identity of
the caller.  Path and method are looked at before the body.
-/

namespace SessionTokens

inductive Route where
  | login
  | refresh
  | logout
  | identity
  deriving DecidableEq, Repr

namespace Route

def all : List Route := [.login, .refresh, .logout, .identity]

def path : Route → String
  | .login => "/login"
  | .refresh => "/refresh"
  | .logout => "/logout"
  | .identity => "/me"

def ofPath? (path : String) : Option Route := all.find? fun route => route.path = path

def methods : Route → List String
  | .identity => ["GET", "HEAD"]
  | _ => ["POST"]

def maxLoginSize : Nat := 2097152

def maxBodySize : Nat := 65536

/-- The credentials in a login body, or the status to answer with. -/
def credentials (request : Request) (body : Bytes) : Except Nat Json :=
  if ¬ request.hasJsonBody then .error 415
  else if maxLoginSize < body.length then .error 413
  else
    match Json.parseBytes? body with
    | some value => .ok value
    | none => .error 400

def attach (request : Request) (body : Bytes) : Except Nat Request :=
  if maxBodySize < body.length then .error 413 else .ok (request.withBody body)

def serve (route : Route) (engine : SessionEngine) (now : Instant) (draw : Bytes)
    (request : Request) (body : Bytes) (store : Store) : Reply × Store :=
  match route with
  | .login =>
      match credentials request body with
      | .error status => (.plain status, store)
      | .ok credentials =>
          let (outcome, store) := engine.login now draw credentials store
          (.ofGrant engine outcome, store)
  | .refresh =>
      match attach request body with
      | .error status => (.plain status, store)
      | .ok request =>
          let (outcome, store) := engine.refresh now draw request store
          (.ofGrant engine outcome, store)
  | .logout =>
      match attach request body with
      | .error status => (.plain status, store)
      | .ok request =>
          let (outcome, store) := engine.logout request store
          (.ofLogout engine outcome, store)
  | .identity =>
      match attach request body with
      | .error status => (.plain status, store)
      | .ok request => (.ofValidation engine (engine.validate now request), store)

end Route

/-- Answers a request: an unknown path is not found, and a question for headers gets no body. -/
def SessionEngine.respond (engine : SessionEngine) (now : Instant) (draw : Bytes)
    (request : Request) (body : Bytes) (store : Store) : Reply × Store :=
  match Route.ofPath? request.target.path with
  | none => (.plain 404, store)
  | some route =>
      if ¬ route.methods.contains request.method then (.plain 405, store)
      else
        let (reply, store) := route.serve engine now draw request body store
        (if request.method = "HEAD" then { reply with body := none } else reply, store)

end SessionTokens
