import SessionTokens.Json.Parser
import SessionTokens.Request.Target
import SessionTokens.Text.Percent
import SessionTokens.Text.Split

/-!
# Requests

What token lookup needs of a request: method, target, header fields, path
parameters, and a body that is a form or a JSON value.  Header names compare
without regard to case; only values of visible ASCII, blanks and tabs are text.
-/

namespace SessionTokens

namespace Request

def isTokenChar (char : Char) : Bool :=
  char.isAlphanum || "!#$%&'*+-.^_|~".toList.contains char || char.toNat = 0x60

def isToken (text : String) : Bool := text ≠ "" && text.toList.all isTokenChar

def maxNameSize : Nat := 65535

def inFieldValue (octet : UInt8) : Bool :=
  octet = 9 || (32 ≤ octet.toNat && octet ≠ 127)

def isTextOctet (octet : UInt8) : Bool :=
  octet = 9 || (32 ≤ octet.toNat && octet.toNat < 127)

/-- A text as a header value, when all its octets may stand in one. -/
def fieldValue? (text : String) : Option Bytes :=
  let octets := Utf8.ofString text
  if octets.all inFieldValue then some octets else none

def fieldText? (value : Bytes) : Option String :=
  if value.all isTextOctet then
    some (String.ofList (value.map fun octet => Char.ofNat octet.toNat))
  else none

def lower (text : String) : String := String.ofList (text.toList.map Char.toLower)

inductive Fault where
  | method
  | target
  | fieldName
  | fieldValue
  deriving DecidableEq, Repr

/-- The name of a part that cannot be used, for programs. -/
def Fault.code : Fault → String
  | .method => "InvalidMethod"
  | .target => "InvalidUri"
  | .fieldName => "InvalidHeaderName"
  | .fieldValue => "InvalidHeaderValue"

end Request

/-- A request: header names are in lower case. -/
structure Request where
  method : String
  target : Request.Target
  fields : List (String × Bytes)
  pathParams : List (String × String) := []
  form : List (String × String) := []
  jsonBody : Option Json := none

namespace Request

def field (name : String) (value : Bytes) : Except Fault (String × Bytes) :=
  if ¬ isToken name ∨ maxNameSize < name.length then .error .fieldName
  else if ¬ value.all inFieldValue then .error .fieldValue
  else .ok (lower name, value)

/-- A request without a body, checked: method, target, then header fields in order. -/
def parse (method target : String) (fields : List (String × Bytes)) : Except Fault Request := do
  if ¬ isToken method then throw .method
  match Target.parse? target with
  | none => throw .target
  | some target =>
      let fields ← fields.mapM fun (name, value) => field name value
      return { method, target, fields }

def values (request : Request) (name : String) : List Bytes :=
  (request.fields.filter (·.1 = lower name)).map (·.2)

def header? (request : Request) (name : String) : Option String :=
  (request.values name).head?.bind fieldText?

/-- The media type of the body, without parameters, in lower case. -/
def mediaType (request : Request) : String :=
  match request.header? "content-type" with
  | none => ""
  | some value => lower (Text.trimString (String.ofList (value.toList.takeWhile (· ≠ ';'))))

/-- Attaches a body, read by its media type; any other body is ignored. -/
def withBody (request : Request) (body : Bytes) : Request :=
  if request.mediaType = "application/x-www-form-urlencoded" then
    { request with form := Percent.decodeForm body }
  else if request.mediaType = "application/json" then
    { request with jsonBody := Json.parseBytes? body }
  else request

def withJsonBody (request : Request) (body : Json) : Request :=
  { request with jsonBody := some body }

def withPathParam (request : Request) (name value : String) : Request :=
  { request with pathParams := (name, value) :: request.pathParams }

/-- The request with all that comes with it: a body, a JSON body, and path parameters. -/
def complete (request : Request) (body : Option Bytes) (jsonBody : Option Json)
    (params : List (String × String)) : Request :=
  let request := body.elim request request.withBody
  let request := jsonBody.elim request request.withJsonBody
  params.foldl (fun request (name, value) => request.withPathParam name value) request

def queryParam? (request : Request) (name : String) : Option String :=
  request.target.query.bind fun query =>
    (Percent.decodeForm (Utf8.ofString query)).lookup name

/-- The pairs of one cookie header; blanks around names and values do not count. -/
def cookiePairs (text : String) : List (String × String) :=
  (Text.splitAll ';' text.toList).filterMap fun piece =>
    (Text.splitFirst '=' (Text.trim piece)).map fun (name, value) =>
      (String.ofList (Text.trim name),
        String.ofList (Text.trimBy (· = '"') (Text.trim value)))

/-- The first value of a cookie across all cookie headers that are text. -/
def cookie? (request : Request) (name : String) : Option String :=
  ((request.values "cookie").filterMap fieldText?).flatMap cookiePairs |>.lookup name

def pathParam? (request : Request) (name : String) : Option String :=
  request.pathParams.lookup name

/-- The first value of a form field. -/
def formValue? (request : Request) (name : String) : Option String :=
  request.form.lookup name

def jsonField? (request : Request) (name : String) : Option String := do
  let body ← request.jsonBody
  let members ← body.asObject?
  let value ← Members.get? members name
  value.asString?

end Request

end SessionTokens
