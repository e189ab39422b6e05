import SessionTokens.Session.Rotation

/-!
# Replies

What a session service answers: a status, a JSON body or none, cookies to set,
a challenge, and an authorization to echo.  A header whose text may not stand in
a header is left out.
-/

namespace SessionTokens

structure Reply where
  status : Nat
  body : Option Json := none
  setCookies : List Bytes := []
  challenge : Option Bytes := none
  authorization : Option Bytes := none

namespace Reply

def plain (status : Nat) : Reply := { status }

def success (body : Json) (cookies : List SetCookie) : Reply where
  status := 200
  body := some body
  setCookies := cookies.filterMap SetCookie.headerValue?

/-- A reply that a session operation failed; a refused caller is challenged. -/
def failure (engine : SessionEngine) (error : SessionError) : Reply where
  status := error.status
  body := some <| .object
    [("code", .int error.status), ("message", .string error.message),
      ("category", .string error.category)]
  challenge := if error.status = 401 then Request.fieldValue? engine.challenge else none

def ofGrant (engine : SessionEngine) : Except SessionError SessionGrant → Reply
  | .ok grant => success grant.pair.toJson grant.cookies
  | .error error => failure engine error

def ofLogout (engine : SessionEngine) : Except SessionError LogoutOutcome → Reply
  | .ok outcome =>
      success (.object [("code", .int 200), ("revoked", .bool outcome.revoked)]) outcome.cookies
  | .error error => failure engine error

def ofValidation (engine : SessionEngine) : Except SessionError ValidatedRequest → Reply
  | .ok validated =>
      { success
          (.object
            [("identity", validated.identity.getD .null), ("claims", validated.claims.toJson)])
          [] with
        authorization := validated.authorization.bind Request.fieldValue? }
  | .error error => failure engine error

end Reply

end SessionTokens
