import SessionTokens.Request.Basic

/-!
# Media types

A media type is two words with a slash between them, and parameters after
semicolons.  A type is JSON when its second word is `json` before the last plus
sign or after it.
-/

namespace SessionTokens

inductive ParameterState where
  /-- Before a name; blanks are skipped. -/
  | start
  | name
  | valueStart
  | value
  /-- After the quote that opens a value; any character is part of the value. -/
  | quotedStart
  | quoted
  | quotedEnd
  deriving DecidableEq, Repr

namespace ParameterState

def isQuotable (char : Char) : Bool := 31 < char.toNat && char.toNat ≠ 127

/-- One more character; `none` when it cannot stand there. -/
def next? (state : ParameterState) (char : Char) : Option ParameterState :=
  match state with
  | .start =>
      if char = ' ' then some .start
      else if Request.isTokenChar char then some .name
      else none
  | .name =>
      if char = '=' then some .valueStart
      else if Request.isTokenChar char then some .name
      else none
  | .valueStart =>
      if char = '"' then some .quotedStart
      else if Request.isTokenChar char then some .value
      else none
  | .value =>
      if char = ';' then some .start
      else if Request.isTokenChar char then some .value
      else none
  | .quotedStart => if isQuotable char then some .quoted else none
  | .quoted =>
      if char = '"' then some .quotedEnd
      else if isQuotable char then some .quoted
      else none
  | .quotedEnd =>
      if char = ' ' then some .quotedEnd
      else if char = ';' then some .start
      else none

def isFinal : ParameterState → Bool
  | .start | .valueStart | .value | .quotedEnd => true
  | .name | .quotedStart | .quoted => false

def accepts (text : List Char) : Bool :=
  match text.foldlM next? start with
  | some state => state.isFinal
  | none => false

end ParameterState

/-- The two words of a media type, in lower case. -/
structure MediaType where
  kind : String
  subtype : String
  deriving DecidableEq, Repr

namespace MediaType

/-- Reads a media type; its parameters are only checked. -/
def parse? (text : String) : Option MediaType := do
  let chars := text.toList
  let kind := chars.takeWhile Request.isTokenChar
  if kind = [] then none
  match chars.drop kind.length with
  | '/' :: rest =>
      let subtype := rest.takeWhile Request.isTokenChar
      let type : MediaType :=
        ⟨Request.lower (String.ofList kind), Request.lower (String.ofList subtype)⟩
      match rest.drop subtype.length with
      | [] => return type
      | ';' :: parameters =>
          if subtype ≠ [] ∧ ParameterState.accepts parameters then return type else none
      | _ => none
  | _ => none

/-- The parts of the second word: before the last plus sign, and after it. -/
def parts (type : MediaType) : List Char × Option (List Char) :=
  match Text.splitLast '+' type.subtype.toList with
  | some (base, suffix) =>
      if base = [] then (type.subtype.toList, none) else (base, some suffix)
  | none => (type.subtype.toList, none)

def isJson (type : MediaType) : Bool :=
  let json := "json".toList
  type.kind = "application" && (type.parts.1 = json || type.parts.2 = some json)

end MediaType

def Request.hasJsonBody (request : Request) : Bool :=
  match (request.header? "content-type").bind MediaType.parse? with
  | some type => type.isJson
  | none => false

end SessionTokens
