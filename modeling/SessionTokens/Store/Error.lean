import SessionTokens.Time.Span

/-!
# Store errors

Why a store of refresh tokens did not do what it was asked.  Only an outage
passes by itself.
-/

namespace SessionTokens

inductive StoreError where
  | notFound
  | unavailable (reason : String)
  | timeout (span : Span)
  | backend (reason : String)
  | serialization (reason : String)
  | configuration (reason : String)
  deriving DecidableEq, Repr

namespace StoreError

def message : StoreError → String
  | .notFound => "Refresh token not found"
  | .unavailable reason => "Refresh token store unavailable: " ++ reason
  | .timeout span => "Refresh token store operation timed out after " ++ span.describe
  | .backend reason => "Refresh token store backend error: " ++ reason
  | .serialization reason => "Refresh token record serialization failed: " ++ reason
  | .configuration reason => "Refresh token store configuration error: " ++ reason

def code : StoreError → String
  | .notFound => "NotFound"
  | .unavailable _ => "Unavailable"
  | .timeout _ => "Timeout"
  | .backend _ => "Backend"
  | .serialization _ => "Serialization"
  | .configuration _ => "Configuration"

/-- Whether the same operation may succeed later. -/
def isTransient : StoreError → Bool
  | .unavailable _ | .timeout _ | .backend _ => true
  | .notFound | .serialization _ | .configuration _ => false

def category : StoreError → String
  | .notFound => "not_found"
  | .unavailable _ => "unavailable"
  | .timeout _ => "timeout"
  | .backend _ => "backend"
  | .serialization _ => "serialization"
  | .configuration _ => "configuration"

end StoreError

end SessionTokens
