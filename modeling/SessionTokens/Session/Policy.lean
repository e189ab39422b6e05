import SessionTokens.Session.Engine
import SessionTokens.Time.Calendar

/-!
# Ready-made callbacks

Common ways to make claims from the data of a user, to read an identity off
claims, to admit requests, and to choose a lifetime.
-/

namespace SessionTokens.Callbacks

/-- The members of an object become the claims; any other value is the claim `value`. -/
def spread : Json → Claims
  | .object members => .ofPairs members
  | value => .ofPairs [("value", value)]

def withRole (role : String) (userData : Json) : Claims :=
  .ofPairs [("sub", userData), ("role", .string role)]

def anonymous (_ : Claims) : Option Json := none

def allClaims (claims : Claims) : Option Json := some claims.toJson

def denyAll (_ : Option Json) (_ : Request) : Bool := false

def hasIdentity (identity : Option Json) (_ : Request) : Bool := identity.isSome

/-- Admits everybody to one path, and one identity to all others. -/
def onlyOrPath (identity : Json) (path : String) (found : Option Json) (request : Request) : Bool :=
  found = some identity || request.target.path = path

def hasMethod (method : String) (_ : Option Json) (request : Request) : Bool :=
  request.method = method

/-- The lifetime that a claim gives, or another when it gives none. -/
def claimedLifetime (name : String) (otherwise : Span) (claims : Claims) : Span :=
  ((claims.get? name).bind Span.ofJson?).getD otherwise

end SessionTokens.Callbacks
