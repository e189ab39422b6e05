import SessionTokens.Json.Parser
import SessionTokens.Key.Manager
import SessionTokens.Text.Base64
import SessionTokens.Text.Split
import SessionTokens.Time.Instant
import SessionTokens.Token.Error

/-!
# Access tokens

A token is three parts between dots: header, claims and signature, each in
URL-safe Base64.  Verification looks at the header and its algorithm, the
signature, the form of the claims, and the expiry, in this order.
-/

namespace SessionTokens

namespace Token

/-- A text in URL-safe Base64. -/
def encodePart (text : List Char) : List Char :=
  Base64.encode Base64.urlSafe (Utf8.encode text)

def signedPart (header : Json) (claims : Claims) : List Char :=
  encodePart (Json.write Json.escapePlain header) ++ '.' :: encodePart claims.render

structure Parts where
  header : List Char
  claims : List Char
  signature : List Char

def Parts.signed (parts : Parts) : List Char := parts.header ++ '.' :: parts.claims

/-- Splits a token at its last two dots. -/
def split? (token : String) : Option Parts := do
  let (signed, signature) ← Text.splitLast '.' token.toList
  let (header, claims) ← Text.splitLast '.' signed
  return ⟨header, claims, signature⟩

def decodePart (part : List Char) : Except FormFault Bytes :=
  match Base64.decode? Base64.urlSafe part with
  | some octets => .ok octets
  | none => .error .base64

/-- The value of a part, repeated members kept apart. -/
def readPart (part : List Char) : Except FormFault Json := do
  let octets ← decodePart part
  match (Utf8.decode? octets).bind Json.parseRaw? with
  | some value => .ok value
  | none => .error .json

def Parts.readHeader (parts : Parts) : Except FormFault Header := do
  let value ← readPart parts.header
  match Header.read? value with
  | some header => .ok header
  | none => .error .json

def singleClaims : List String := ["exp", "nbf", "sub", "iss", "aud"]

def suitsTime : Json → Bool
  | .array items => items.isEmpty
  | .object members => members.isEmpty
  | _ => true

def suitsSubject : Json → Bool
  | .array _ | .object _ => false
  | _ => true

/-- Whether the registered claims of an object occur once and have a suitable form. -/
def registeredSuit (members : Members) : Bool :=
  Header.singleKnown singleClaims members
    && members.all fun (name, value) =>
      if name = "exp" ∨ name = "nbf" then suitsTime value
      else if name = "sub" then suitsSubject value
      else true

def Parts.readClaims (parts : Parts) : Except FormFault Claims := do
  match ← readPart parts.claims with
  | .object members =>
      if registeredSuit members then .ok (Claims.ofPairs (Json.mergeMembers members))
      else .error .json
  | _ => .error .json

end Token

structure IssuedToken where
  token : String
  expiresAt : Instant
  issuedAt : Instant
  origin : Int
  claims : Claims
  deriving DecidableEq

structure Codec where
  keys : KeyManager
  expiryField : String := Claims.expiryName

namespace Codec

/-- The claims as they are signed: expiry and first issue time replace given ones. -/
def timed (codec : Codec) (claims : Claims) (expiresAt : Instant) (origin : Int) : Claims :=
  (claims.insert codec.expiryField (.int expiresAt.seconds)).insert Claims.originName (.int origin)

/-- The text of a token over claims, signed with drawn octets. -/
def encode (codec : Codec) (seed : Bytes) (claims : Claims) : Except TokenError String := do
  let key ← (codec.keys.signingKey claims).mapError .key
  let signed := Token.signedPart (Token.Header.issued codec.keys.algorithm key.keyId) claims
  let signature ← (codec.keys.algorithm.sign seed key.material (Utf8.encode signed)).mapError
    fun refusal => .signing (.refused refusal)
  return String.ofList (signed ++ '.' :: Base64.encode Base64.urlSafe signature)

/-- Whether a token is one over claims, whatever octets were drawn for its signature. -/
def Signs (codec : Codec) (claims : Claims) (token : String) : Prop :=
  ∃ seed, codec.encode seed claims = .ok token

/-- Signs claims for a lifetime, in a session that began at a given second. -/
def issueFrom (codec : Codec) (now : Instant) (claims : Claims) (lifetime : Span) (origin : Int)
    (seed : Bytes := []) : Except TokenError IssuedToken :=
  if Span.longestMove.nanos < lifetime.nanos then .error (.signing (.lifetime lifetime))
  else
    match now.floor.later? lifetime with
    | none => .error (.signing .expiry)
    | some expiresAt => do
        let claims := codec.timed claims expiresAt origin
        let token ← codec.encode seed claims
        return ⟨token, expiresAt, now.floor, origin, claims⟩

def issue (codec : Codec) (now : Instant) (claims : Claims) (lifetime : Span)
    (seed : Bytes := []) : Except TokenError IssuedToken :=
  codec.issueFrom now claims lifetime now.seconds seed

def readHeader (token : String) : Except TokenError Token.Header :=
  match Token.split? token with
  | none => .error (.invalid (.header .segments))
  | some parts => parts.readHeader.mapError fun fault => .invalid (.header fault)

/-- The claims of a token whose algorithm and signature are right; the expiry is not looked at. -/
def authenticate (codec : Codec) (token : String) : Except TokenError Claims := do
  let header ← readHeader token
  let algorithm := codec.keys.algorithm
  if header.algorithm ≠ .known algorithm then
    throw (.algorithmMismatch algorithm.name header.algorithm.name)
  let key ← (codec.keys.verificationKey header).mapError .key
  if ¬ algorithm.suits key then throw (.invalid .family)
  match Token.split? token with
  | none => throw (.invalid (.form .segments))
  | some parts =>
      let signature ← (Token.decodePart parts.signature).mapError fun fault =>
        .invalid (.form fault)
      if ¬ algorithm.verify key (Utf8.encode parts.signed) signature then
        throw (.invalid .signature)
      parts.readClaims.mapError fun fault => .invalid (.form fault)

def expiry (codec : Codec) (claims : Claims) : Except TokenError Int :=
  match claims.get? codec.expiryField with
  | none | some .null => .error (.missingExpiry codec.expiryField)
  | some value =>
      match value.wholeSeconds? with
      | some second => .ok second
      | none => .error (.malformedExpiry codec.expiryField)

def verify (codec : Codec) (now : Instant) (token : String) : Except TokenError Claims := do
  let claims ← codec.authenticate token
  let expiry ← codec.expiry claims
  if expiry ≤ now.seconds then throw (.expired claims) else return claims

end Codec

end SessionTokens
