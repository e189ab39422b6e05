import SessionTokens.Hash.Sha2
import SessionTokens.Text.Split

/-!
# Signing algorithms

Eleven algorithms in three families.  A name in configuration may have blanks
around it and letters in either case; a name in a token has neither.
-/

namespace SessionTokens

inductive Algorithm where
  | hs256 | hs384 | hs512
  | rs256 | rs384 | rs512
  | ps256 | ps384 | ps512
  | es256 | es384
  deriving DecidableEq, Repr

inductive KeyFamily where
  | hmac
  | rsa
  | curve
  deriving DecidableEq, Repr

def KeyFamily.name : KeyFamily → String
  | .hmac => "hmac"
  | .rsa => "rsa"
  | .curve => "ec"

namespace Algorithm

def all : List Algorithm :=
  [.hs256, .hs384, .hs512, .rs256, .rs384, .rs512, .ps256, .ps384, .ps512, .es256, .es384]

def name : Algorithm → String
  | .hs256 => "HS256"
  | .hs384 => "HS384"
  | .hs512 => "HS512"
  | .rs256 => "RS256"
  | .rs384 => "RS384"
  | .rs512 => "RS512"
  | .ps256 => "PS256"
  | .ps384 => "PS384"
  | .ps512 => "PS512"
  | .es256 => "ES256"
  | .es384 => "ES384"

def family : Algorithm → KeyFamily
  | .hs256 | .hs384 | .hs512 => .hmac
  | .rs256 | .rs384 | .rs512 | .ps256 | .ps384 | .ps512 => .rsa
  | .es256 | .es384 => .curve

def hash : Algorithm → Hash
  | .hs256 | .rs256 | .ps256 | .es256 => .sha256
  | .hs384 | .rs384 | .ps384 | .es384 => .sha384
  | .hs512 | .rs512 | .ps512 => .sha512

/-- Whether one secret both signs and verifies. -/
def isSymmetric (algorithm : Algorithm) : Bool := algorithm.family = .hmac

def ofName? (name : String) : Option Algorithm :=
  all.find? fun algorithm => algorithm.name = name

/-- The algorithm of a name with blanks around it and letters in either case. -/
def ofText? (text : String) : Option Algorithm :=
  ofName? (String.ofList ((Text.trim text.toList).map Char.toUpper))

@[simp] theorem ofName?_name (algorithm : Algorithm) :
    ofName? algorithm.name = some algorithm := by
  cases algorithm <;> decide

end Algorithm

end SessionTokens
