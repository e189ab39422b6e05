import SessionTokens.Token.Codec

/-!
# Authentic tokens

Anybody can read the claims of a token.  That a token was signed for them is told
by its three parts and by the key for its header, and not by the order of any
checks.  Of the claims, a subject is never an array or an object, and the two
registered times are none with something in it; anything may stand under all
other names.
-/

namespace SessionTokens

/-- Whether a signature of a message is right for a key; for a secret it is the keyed hash. -/
def Algorithm.Signed (algorithm : Algorithm) (message signature : Bytes) :
    VerificationMaterial → Prop
  | .secret octets =>
      algorithm.isSymmetric = true ∧ signature = algorithm.hash.hmac octets message
  | key => algorithm.verify key message signature = true

namespace Token

/-- The claims that a token holds, whether or not its signature is right. -/
def heldClaims? (token : String) : Option Claims :=
  (split? token).bind fun parts => parts.readClaims.toOption

/-- The value that a part of a token is the text of, repeated members kept apart. -/
def partValue? (part : List Char) : Option Json := do
  let octets ← Base64.decode? Base64.urlSafe part
  let text ← Utf8.decode? octets
  Json.parseRaw? text

/-- What a signed token is made of: its parts, its header, and the signature with its key. -/
structure Evidence where
  parts : Parts
  header : Header
  key : VerificationMaterial
  signature : Bytes

/-- Whether a token is made of this evidence, for claims and under the keys of a manager. -/
structure Evidence.Supports (evidence : Evidence) (manager : KeyManager) (token : String)
    (claims : Claims) : Prop where
  joined : token.toList =
    evidence.parts.header ++ '.' :: (evidence.parts.claims ++ '.' :: evidence.parts.signature)
  /-- The dots between the parts are all the dots there are. -/
  dotless : '.' ∉ evidence.parts.header ∧ '.' ∉ evidence.parts.claims ∧
    '.' ∉ evidence.parts.signature
  header : (partValue? evidence.parts.header).bind Header.read? = some evidence.header
  algorithm : evidence.header.algorithm = .known manager.algorithm
  /-- The key is the one for this very header. -/
  key : manager.verificationKey evidence.header = .ok evidence.key
  signature : Base64.decode? Base64.urlSafe evidence.parts.signature = some evidence.signature
  signed : manager.algorithm.Signed (Utf8.encode evidence.parts.signed) evidence.signature
    evidence.key
  claims : (partValue? evidence.parts.claims).map Json.merge = some claims.toJson

/-- Whether a token was signed for claims under the keys of a manager. -/
def Authentic (manager : KeyManager) (token : String) (claims : Claims) : Prop :=
  ∃ evidence : Evidence, evidence.Supports manager token claims

/-- Whether the last part of a token is a signature of what is before it. -/
def SignedUnder (algorithm : Algorithm) (key : VerificationMaterial) (token : String) : Prop :=
  ∃ parts signature, split? token = some parts ∧
    Base64.decode? Base64.urlSafe parts.signature = some signature ∧
    algorithm.Signed (Utf8.encode parts.signed) signature key

end Token

/-! ## Registered names -/

/-- Whether a value under a name keeps a token from being accepted. -/
def Token.obstructs (name : String) : Json → Bool
  | .array items => name = "sub" || ((name = "exp" || name = "nbf") && !items.isEmpty)
  | .object members => name = "sub" || ((name = "exp" || name = "nbf") && !members.isEmpty)
  | _ => false

/-- Whether some claim obstructs, the one that the expiry replaces apart. -/
def Claims.obstructed (claims : Claims) (expiryField : String) : Bool :=
  claims.members.any fun member =>
    member.1 ≠ expiryField && Token.obstructs member.1 member.2

end SessionTokens
