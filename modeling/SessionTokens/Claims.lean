import SessionTokens.Json.Members
import SessionTokens.Json.Printer

/-!
# Claims

The signed payload of an access token: named values in order, no name twice.
Two names are reserved for the lifetime of a session: the claim with its first
issue time, and the claim with the expiry, whose name is a setting.
-/

namespace SessionTokens

/-- Named values in order, no name twice. -/
structure Claims where
  members : Members
  distinct : members.Distinct
  deriving DecidableEq

namespace Claims

/-- The claim with the first issue time of a session. -/
def originName : String := "orig_iat"

def expiryName : String := "exp"

def empty : Claims := ⟨[], by simp [Members.Distinct, Members.names]⟩

instance : Inhabited Claims := ⟨empty⟩

/-- The claims of a list of pairs; of two pairs with one name the last value counts. -/
def ofPairs (pairs : Members) : Claims := ⟨Members.ofPairs pairs, Members.distinct_ofPairs pairs⟩

def get? (claims : Claims) (name : String) : Option Json := claims.members.get? name

def contains (claims : Claims) (name : String) : Bool := claims.members.contains name

def size (claims : Claims) : Nat := claims.members.length

/-- Sets a claim: in its place when it is present, else at the end. -/
def insert (claims : Claims) (name : String) (value : Json) : Claims :=
  ⟨claims.members.set name value, Members.distinct_set claims.distinct name value⟩

/-- Removes a claim, the last claim taking its place. -/
def remove (claims : Claims) (name : String) : Claims :=
  ⟨claims.members.remove name, Members.distinct_remove claims.distinct name⟩

def withoutTiming (claims : Claims) (expiryField : String) : Claims :=
  (claims.remove expiryField).remove originName

def toJson (claims : Claims) : Json := .object claims.members

/-- The text that is signed. -/
def render (claims : Claims) : List Char := Json.write Json.escapePlain claims.toJson

/-- A whole number brought into the range of a signed 64-bit word. -/
def clampInt64 (value : Int) : Int := max Decimal.minInt64 (min Decimal.maxInt64 value)

end Claims

/-- A number as whole seconds: the fraction is cut off, and the range of a word is kept. -/
def Json.wholeSeconds? : Json → Option Int
  | .int value => some (Claims.clampInt64 value)
  | .float value => some (Claims.clampInt64 value.truncate)
  | _ => none

def Claims.origin? (claims : Claims) : Option Int :=
  (claims.get? Claims.originName).bind Json.wholeSeconds?

end SessionTokens
