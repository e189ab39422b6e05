import Mathlib.Data.List.Forall2
import SessionTokens.Json.Layout
import SessionTokens.Lookup
import SessionTokens.Session.Rotation

/-!
# Tokens on their way

A client puts a token into a header, a cookie, a query, a form, a JSON body or a
path, as it is and without an escape.  Whatever else it puts there is arbitrary,
except that it does not have the name under which the token is looked for.
-/

namespace SessionTokens

/-- Whether a character may stand in the name of a source: a letter, a digit, `-` or `_`. -/
def Text.isNameChar (char : Char) : Bool := char.isAlphanum || char = '-' || char = '_'

/-- A name of a source that is written alike in headers, cookies, forms and objects. -/
structure IsSourceName (name : String) : Prop where
  filled : name ≠ ""
  plain : ∀ char ∈ name.toList, Text.isNameChar char = true

instance (name : String) : Decidable (IsSourceName name) :=
  decidable_of_iff (name ≠ "" ∧ name.toList.all Text.isNameChar = true)
    ⟨fun ⟨filled, plain⟩ => ⟨filled, List.all_eq_true.mp plain⟩,
      fun named => ⟨named.filled, List.all_eq_true.mpr named.plain⟩⟩

/-- A name that stands before a token in a header; the settings refuse an empty one. -/
structure IsHeadName (headName : String) : Prop where
  filled : headName ≠ ""
  graphic : ∀ char ∈ headName.toList, Text.isGraphic char = true

instance (headName : String) : Decidable (IsHeadName headName) :=
  decidable_of_iff (headName ≠ "" ∧ headName.toList.all Text.isGraphic = true)
    ⟨fun ⟨filled, graphic⟩ => ⟨filled, List.all_eq_true.mp graphic⟩,
      fun head => ⟨head.filled, List.all_eq_true.mpr head.graphic⟩⟩

inductive Minted : String → Prop where
  /-- The refresh token of any octets that may be drawn. -/
  | refresh {draw : Bytes} (size : draw.length = refreshTokenSize) : Minted (refreshTokenOf draw)
  /-- The access token of any claims that can be signed, with any key. -/
  | access {codec : Codec} {claims : Claims} {token : String}
      (encoded : codec.Signs claims token) : Minted token

namespace Request

/-! ## Cookies -/

/-- Whether a piece of a cookie header is a cookie with blanks around its name and its value. -/
def IsCookie (cookie : String × String) (piece : List Char) : Prop :=
  ∃ name value, piece = name ++ '=' :: value ∧
    Text.IsPadded cookie.1.toList name ∧ Text.IsPadded cookie.2.toList value

/-- Whether a name, with blanks around it, is what a piece has before its first `=`. -/
def IsNamed (name : String) (piece : List Char) : Prop :=
  ∃ before after, piece = before ++ '=' :: after ∧ '=' ∉ before ∧
    Text.IsPadded name.toList before

def cookieText (pieces : List (List Char)) : String := String.ofList ([';'].intercalate pieces)

/--
How a request carries cookies: in the pieces of any number of cookie headers, in
any order, among pieces that have none of their names.
-/
structure CarriesCookies (request : Request) (cookies : List (String × String))
    (headers : List (List (List Char))) : Prop where
  written : request.values "cookie" = headers.map fun pieces => Utf8.ofString (cookieText pieces)
  filled : ∀ pieces ∈ headers, pieces ≠ []
  apart : ∀ pieces ∈ headers, ∀ piece ∈ pieces, ';' ∉ piece
  plain : ∀ pieces ∈ headers, ∀ piece ∈ pieces, ∀ char ∈ piece,
    Text.isGraphic char = true ∨ char = ' '
  present : ∀ cookie ∈ cookies, ∃ pieces ∈ headers, ∃ piece ∈ pieces, IsCookie cookie piece
  others : ∀ pieces ∈ headers, ∀ piece ∈ pieces,
    (∃ cookie ∈ cookies, IsCookie cookie piece) ∨ ∀ cookie ∈ cookies, ¬ IsNamed cookie.1 piece

/-! ## Forms and objects -/

/-- Whether octets are a form with a value as it is, among parameters of other decoded names. -/
def InForm (name value : String) (octets : Bytes) : Prop :=
  ∃ front back, octets = [38].intercalate (front ++ Utf8.ofString (name ++ "=" ++ value) :: back) ∧
    ∀ part ∈ front ++ back,
      38 ∉ part ∧ Percent.decodeFormPart (part.takeWhile (· ≠ 61)) ≠ name

/--
Whether octets are an object with a value as it is between quotes, among members
that can be read; no later one has the same name.
-/
def InObject (name value : String) (octets : Bytes) : Prop :=
  ∃ (before after : List Char) (front back : List Json.MemberText) (text : Json.MemberText)
    (frontMembers backMembers : Members),
    octets = Utf8.encode (Json.objectText before (front ++ text :: back) after) ∧
      (∀ char ∈ before, Json.isBlank char = true) ∧ (∀ char ∈ after, Json.isBlank char = true) ∧
      List.Forall₂ Json.MemberText.Reads front frontMembers ∧
      text.Spaced ∧ (∀ rest, Json.readText (text.name ++ '"' :: rest) = some (name, rest)) ∧
      text.value = '"' :: (value.toList ++ ['"']) ∧
      List.Forall₂ Json.MemberText.Reads back backMembers ∧ name ∉ backMembers.names

/-! ## Requests -/

/-- How a request carries a token at the source of a kind and a name. -/
inductive Carries (name token headName : String) : SourceKind → Request → Prop where
  | header {request : Request} (head : IsHeadName headName)
      (alone : request.values name = [Utf8.ofString (headName ++ " " ++ token)]) :
      Carries name token headName .header request
  | cookie {request : Request} {headers : List (List (List Char))}
      (carried : request.CarriesCookies [(name, token)] headers) :
      Carries name token headName .cookie request
  | query {request : Request} {query : String} (target : request.target.query = some query)
      (inside : InForm name token (Utf8.ofString query)) :
      Carries name token headName .query request
  | form {request : Request} {body : Bytes} {jsonBody : Option Json}
      {params : List (String × String)}
      (type : request.mediaType = "application/x-www-form-urlencoded")
      (inside : InForm name token body) :
      Carries name token headName .form (request.complete (some body) jsonBody params)
  | json {request : Request} {body : Bytes} {params : List (String × String)}
      (type : request.mediaType = "application/json") (inside : InObject name token body) :
      Carries name token headName .json (request.complete (some body) none params)
  | jsonValue {request : Request} {body : Option Bytes} {members : Members}
      {params : List (String × String)} (value : members.get? name = some (.string token)) :
      Carries name token headName .json (request.complete body (some (.object members)) params)
  | param {request : Request} {body : Option Bytes} {jsonBody : Option Json}
      {front back : List (String × String)} (others : ∀ pair ∈ back, pair.1 ≠ name) :
      Carries name token headName .param
        (request.complete body jsonBody (front ++ (name, token) :: back))

end Request

/-! ## Delivered cookies -/

/-- What a client keeps of the header that sets a cookie: a name and a value. -/
def SetCookie.kept? (cookie : SetCookie) : Option (String × String) :=
  Text.splitString '=' (String.ofList (cookie.write.toList.takeWhile (· ≠ ';')))

/-- Settings with which pairs are delivered in two cookies of different names. -/
structure CookieConfig.Delivers (config : CookieConfig) : Prop where
  sent : config.sendCookie = true
  access : IsSourceName config.name
  refresh : IsSourceName config.refreshName
  apart : config.name ≠ config.refreshName

/--
Whether the cookies of a grant come back as its pair, in any request that carries
what a client keeps of them.
-/
structure SessionGrant.ComesBack (engine : SessionEngine) (grant : SessionGrant) : Prop where
  kept : grant.cookies.filterMap SetCookie.kept? =
    [(engine.config.cookies.name, grant.pair.accessToken),
      (engine.config.cookies.refreshName, grant.pair.refreshToken)]
  access : ∀ (request : Request) headers,
    request.CarriesCookies (grant.cookies.filterMap SetCookie.kept?) headers →
      TokenSource.extract ⟨.cookie, engine.config.cookies.name⟩ request engine.config.headName =
        .ok grant.pair.accessToken
  refresh : ∀ (request : Request) headers,
    request.CarriesCookies (grant.cookies.filterMap SetCookie.kept?) headers →
      TokenSource.extract ⟨.cookie, engine.config.cookies.refreshName⟩ request
        engine.config.headName = .ok grant.pair.refreshToken
  /-- Without a lookup of its own for refresh tokens, the engine looks at their cookie first. -/
  renews : engine.config.refreshTokenLookup = none → ∀ (request : Request) headers,
    request.CarriesCookies (grant.cookies.filterMap SetCookie.kept?) headers →
      engine.refreshToken request = .ok grant.pair.refreshToken

end SessionTokens
