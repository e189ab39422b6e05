import SessionTokens.Request.Basic
import SessionTokens.Time.Span

/-!
# Cookies

Tokens may be delivered as cookies.  The refresh cookie is always marked for
secure transport; a cookie without a lifetime removes the one of its name.
-/

namespace SessionTokens

inductive SameSite where
  | strict
  | lax
  | none
  deriving DecidableEq, Repr

namespace SameSite

def all : List SameSite := [.strict, .lax, .none]

/-- The name in a cookie. -/
def write : SameSite → String
  | .strict => "Strict"
  | .lax => "Lax"
  | .none => "None"

def name : SameSite → String
  | .strict => "strict"
  | .lax => "lax"
  | .none => "none"

def ofName? (name : String) : Option SameSite := all.find? fun policy => policy.name = name

@[simp] theorem ofName?_name (policy : SameSite) : ofName? policy.name = some policy := by
  cases policy <;> decide

end SameSite

structure CookieConfig where
  sendCookie : Bool := false
  name : String := "jwt"
  maxAge : Option Span := none
  domain : Option String := none
  secure : Bool := false
  httpOnly : Bool := false
  sameSite : Option SameSite := none
  refreshName : String := "refresh_token"
  refreshMaxAge : Option Span := none
  refreshHttpOnly : Bool := true
  deriving DecidableEq, Repr

/-- A cookie to set, always for all paths. -/
structure SetCookie where
  name : String
  value : String
  domain : Option String
  maxAge : Nat
  httpOnly : Bool
  secure : Bool
  sameSite : Option SameSite
  deriving DecidableEq, Repr

namespace SetCookie

def expired (cookie : SetCookie) : SetCookie := { cookie with value := "", maxAge := 0 }

def isRemoval (cookie : SetCookie) : Bool := cookie.maxAge = 0

/-- The text of the header that sets the cookie; an empty domain is left out. -/
def write (cookie : SetCookie) : String :=
  let domain :=
    match cookie.domain.filter (· ≠ "") with
    | some domain => "; Domain=" ++ domain
    | none => ""
  let sameSite :=
    match cookie.sameSite with
    | some policy => "; SameSite=" ++ policy.write
    | none => ""
  cookie.name ++ "=" ++ cookie.value ++ "; Path=/" ++ domain
    ++ "; Max-Age=" ++ String.ofList (Decimal.digits cookie.maxAge)
    ++ (if cookie.httpOnly then "; HttpOnly" else "")
    ++ (if cookie.secure then "; Secure" else "")
    ++ sameSite

/-- The header value that sets the cookie, when its text may stand in one. -/
def headerValue? (cookie : SetCookie) : Option Bytes := Request.fieldValue? cookie.write

end SetCookie

namespace CookieConfig

def accessCookie (config : CookieConfig) (token : String) (lifetime : Span) : SetCookie where
  name := config.name
  value := token
  domain := config.domain
  maxAge := (config.maxAge.getD lifetime).seconds
  httpOnly := config.httpOnly
  secure := config.secure
  sameSite := config.sameSite

def refreshCookie (config : CookieConfig) (token : String) (lifetime : Span) : SetCookie where
  name := config.refreshName
  value := token
  domain := config.domain
  maxAge := (config.refreshMaxAge.getD lifetime).seconds
  httpOnly := config.refreshHttpOnly
  secure := true
  sameSite := config.sameSite

def clearingCookies (config : CookieConfig) : List SetCookie :=
  [(config.accessCookie "" ⟨0⟩).expired, (config.refreshCookie "" ⟨0⟩).expired]

end CookieConfig

end SessionTokens
