import SessionTokens.Algorithm
import SessionTokens.Json.Members

/-!
# Token headers

The header of a token names its algorithm and may name a key.  Reading checks
the kind of every known member and takes only texts under other names; a known
member may not occur twice.
-/

namespace SessionTokens.Token

inductive HeaderAlgorithm where
  | known (algorithm : Algorithm)
  | edwards
  deriving DecidableEq, Repr

def HeaderAlgorithm.name : HeaderAlgorithm → String
  | .known algorithm => algorithm.name
  | .edwards => "EdDSA"

def HeaderAlgorithm.ofName? (name : String) : Option HeaderAlgorithm :=
  if name = "EdDSA" then some .edwards else (Algorithm.ofName? name).map .known

/-- A header: the algorithm, the key's name, and all other members. -/
structure Header where
  algorithm : HeaderAlgorithm
  keyId : Option String
  others : Members
  deriving DecidableEq

namespace Header

def textNames : List String :=
  ["typ", "cty", "jku", "kid", "x5u", "x5t", "x5t#S256", "enc", "zip", "url", "nonce"]

def listNames : List String := ["x5c", "crit"]

def knownNames : List String := "alg" :: "jwk" :: (textNames ++ listNames)

def valuesOf (members : Members) (name : String) : List Json :=
  (members.filter (·.1 = name)).map (·.2)

def singleKnown (known : List String) (members : Members) : Bool :=
  known.all fun name => (valuesOf members name).length ≤ 1

def isText : Json → Bool
  | .string _ => true
  | _ => false

def isTextList : Json → Bool
  | .array items => items.all isText
  | _ => false

/-- The algorithm: its name, or an object whose only member is that name with null. -/
def algorithm? : Json → Option HeaderAlgorithm
  | .string name => HeaderAlgorithm.ofName? name
  | .object [(name, .null)] => HeaderAlgorithm.ofName? name
  | _ => none

def embeddedCommon : List (String × (Json → Bool)) :=
  [("use", isText), ("key_ops", isTextList), ("alg", isText), ("kid", isText), ("x5u", isText),
    ("x5c", isTextList), ("x5t", isText), ("x5t#S256", isText)]

def embeddedCurves : List String := ["P-256", "P-384", "P-521", "Ed25519"]

/-- The algorithms of embedded keys; all others are read as unknown. -/
def embeddedAlgorithms : List String :=
  Algorithm.all.map Algorithm.name ++ ["EdDSA", "RSA1_5", "RSA-OAEP", "RSA-OAEP-256"]

def embeddedShape : String → Option (List String)
  | "EC" => some ["kty", "crv", "x", "y"]
  | "RSA" => some ["kty", "n", "e"]
  | "oct" => some ["kty", "k"]
  | "OKP" => some ["kty", "crv", "x"]
  | _ => none

def embeddedKey? (members : Members) : Option Members := do
  let kind ← (members.get? "kty").bind Json.asString?
  let shape ← embeddedShape kind
  let single := singleKnown (shape ++ embeddedCommon.map (·.1)) members
  let parts ← shape.mapM fun name => do
    let value ← members.get? name
    let text ← value.asString?
    if name ≠ "crv" ∨ text ∈ embeddedCurves then return (name, value) else none
  let common ← embeddedCommon.mapM fun (name, suits) =>
    match members.get? name with
    | none | some .null => some []
    | some value =>
        if ¬ suits value then none
        else if name = "alg" ∧ ¬ (value.asString?.getD "") ∈ embeddedAlgorithms then
          some [(name, Json.string "UNKNOWN_ALGORITHM")]
        else some [(name, value)]
  if single then return common.flatten ++ parts else none

/-- One member as it is kept: nothing for null under a known name; `none` for a wrong kind. -/
def member? (name : String) (value : Json) : Option Members :=
  if name = "alg" ∨ name = "kid" then some []
  else if name = "jwk" then
    match value with
    | .null => some []
    | .object members => (embeddedKey? members).map fun key => [(name, .object key)]
    | _ => none
  else if name ∈ textNames then
    match value with
    | .null => some []
    | .string _ => some [(name, value)]
    | _ => none
  else if name ∈ listNames then
    match value with
    | .null => some []
    | .array _ => if isTextList value then some [(name, value)] else none
    | _ => none
  else if isText value then some [(name, value)]
  else none

/-- The key's name; null stands for none. -/
def keyId? : Option Json → Option (Option String)
  | none | some .null => some none
  | some (.string name) => some (some name)
  | _ => none

/-- Reads a header from an object that keeps repeated members apart. -/
def read? : Json → Option Header
  | .object members => do
      let algorithm ← (Members.get? members "alg").bind algorithm?
      let keyId ← keyId? (Members.get? members "kid")
      let others ← members.mapM fun (name, value) => member? name value
      if singleKnown knownNames members then
        return ⟨algorithm, keyId, Members.ofPairs others.flatten⟩
      else none
  | _ => none

def toJson (header : Header) : Json :=
  .object <|
    ("alg", .string header.algorithm.name)
      :: ((header.keyId.map fun name => ("kid", Json.string name)).toList ++ header.others)

/-- The header of an issued token: its type first, then the algorithm, then the key's name. -/
def issued (algorithm : Algorithm) (keyId : Option String) : Json :=
  .object <|
    ("typ", .string "JWT") :: ("alg", .string algorithm.name)
      :: (keyId.map fun name => ("kid", Json.string name)).toList

end Header

end SessionTokens.Token
