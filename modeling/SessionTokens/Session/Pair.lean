import SessionTokens.Cookie
import SessionTokens.Json.Members
import SessionTokens.Time.Instant

/-!
# Token pairs and session records

An access token with its refresh token.  Outside the program the instants of a
pair are whole seconds.

Under the refresh token a store keeps the data of the user and the second in
which the session began.  Both stay the same as long as the session lives.
-/

namespace SessionTokens

/-- An access token and the refresh token that renews it. -/
structure TokenPair where
  accessToken : String
  tokenType : String
  refreshToken : String
  expiresAt : Instant
  createdAt : Instant
  deriving DecidableEq, Repr

namespace TokenPair

def bearer : String := "Bearer"

/-- The whole seconds until the access token expires; none once it has. -/
def expiresIn (pair : TokenPair) (now : Instant) : Nat :=
  (pair.expiresAt.since now / Span.nanosPerSecond).toNat

def fields : List String :=
  ["access_token", "token_type", "refresh_token", "expires_at", "created_at"]

def toJson (pair : TokenPair) : Json :=
  .object
    [("access_token", .string pair.accessToken), ("token_type", .string pair.tokenType),
      ("refresh_token", .string pair.refreshToken), ("expires_at", .int pair.expiresAt.seconds),
      ("created_at", .int pair.createdAt.seconds)]

def readSecond? : Json → Option Instant
  | .int second => Instant.ofSeconds? second
  | _ => none

def read? (value : Json) : Option TokenPair := do
  let entries ← value.fields? fields
  let accessToken ← Json.textField? entries "access_token"
  let tokenType ← Json.textField? entries "token_type"
  let refreshToken ← Json.textField? entries "refresh_token"
  let expiresAt ← (Members.get? entries "expires_at").bind readSecond?
  let createdAt ← (Members.get? entries "created_at").bind readSecond?
  return { accessToken, tokenType, refreshToken, expiresAt, createdAt }

end TokenPair

structure SessionGrant where
  pair : TokenPair
  cookies : List SetCookie
  deriving DecidableEq, Repr

structure LogoutOutcome where
  /-- Whether a refresh token was presented and revoked. -/
  revoked : Bool
  cookies : List SetCookie
  deriving DecidableEq, Repr

/-! ## Session records -/

/-- The session that a refresh token stands for. -/
structure SessionRecord where
  userData : Json
  /-- The second in which the session began. -/
  origin : Int
  deriving DecidableEq

namespace SessionRecord

def fields : List String := ["user_data", "orig_iat"]

def toJson (record : SessionRecord) : Json :=
  .object [("user_data", record.userData), ("orig_iat", .int record.origin)]

/-- Reads a whole number of the range of a signed 64-bit word. -/
def readSecond? : Json → Option Int
  | .int second =>
      if Decimal.minInt64 ≤ second ∧ second ≤ Decimal.maxInt64 then some second else none
  | _ => none

/-- Reads a record.  As in `Json.parse?`, a private mark of raw texts is left out. -/
def read? (value : Json) : Option SessionRecord := do
  let entries ← value.fields? fields
  let userData ← Members.get? entries "user_data"
  let origin ← (Members.get? entries "orig_iat").bind readSecond?
  return ⟨userData, origin⟩

end SessionRecord

end SessionTokens
