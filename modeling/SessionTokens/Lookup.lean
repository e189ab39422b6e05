import SessionTokens.Request.Basic

/-!
# Token lookup

Where to look for a token in a request: an ordered list of sources.  The first
source with a token wins; when none has one, the last source's complaint is
reported.  A lookup is written as rules `kind:name` between commas.

The grammar of the rules is told by the pieces of a text between its commas and
not by how they are read: blank pieces say nothing, and every other piece is a
rule for one source.
-/

namespace SessionTokens

inductive SourceKind where
  | header
  | query
  | cookie
  | param
  | form
  | json
  deriving DecidableEq, Repr

namespace SourceKind

def all : List SourceKind := [.header, .query, .cookie, .param, .form, .json]

def name : SourceKind → String
  | .header => "header"
  | .query => "query"
  | .cookie => "cookie"
  | .param => "param"
  | .form => "form"
  | .json => "json"

def ofName? (name : String) : Option SourceKind := all.find? fun kind => kind.name = name

@[simp] theorem ofName?_name (kind : SourceKind) : ofName? kind.name = some kind := by
  cases kind <;> decide

end SourceKind

structure TokenSource where
  kind : SourceKind
  name : String
  deriving DecidableEq, Repr

/-- Why no token was found, or why a rule is none. -/
inductive ExtractError where
  | emptyHeader
  | invalidHeader
  | emptyQuery
  | emptyCookie
  | emptyParam
  | emptyBody
  | noSources
  | invalidRule (rule : String)
  deriving DecidableEq, Repr

def ExtractError.message : ExtractError → String
  | .emptyHeader => "auth header is empty"
  | .invalidHeader => "auth header is invalid"
  | .emptyQuery => "query token is empty"
  | .emptyCookie => "cookie token is empty"
  | .emptyParam => "parameter token is empty"
  | .emptyBody => "body token is empty"
  | .noSources => "no token sources configured"
  | .invalidRule rule => "invalid token lookup rule '" ++ rule ++ "'"

def ExtractError.code : ExtractError → String
  | .emptyHeader => "EmptyAuthHeader"
  | .invalidHeader => "InvalidAuthHeader"
  | .emptyQuery => "EmptyQueryToken"
  | .emptyCookie => "EmptyCookieToken"
  | .emptyParam => "EmptyParamToken"
  | .emptyBody => "EmptyBodyToken"
  | .noSources => "NoTokenSources"
  | .invalidRule _ => "InvalidLookup"

namespace TokenSource

def nonEmpty (value : Option String) (error : ExtractError) : Except ExtractError String :=
  match value.filter (· ≠ "") with
  | some value => .ok value
  | none => .error error

/-- The token in a header value: the scheme's name, exactly one blank, and the token. -/
def ofHeader (value : Option String) (headName : String) : Except ExtractError String :=
  match (value.map fun value => Text.trim value.toList).filter (· ≠ []) with
  | none => .error .emptyHeader
  | some value =>
      match Text.splitFirst ' ' value with
      | some (scheme, token) =>
          if String.ofList scheme = headName ∧ token ≠ [] ∧ token.head? ≠ some ' ' then
            .ok (String.ofList token)
          else .error .invalidHeader
      | none => .error .invalidHeader

def extract (source : TokenSource) (request : Request) (headName : String) :
    Except ExtractError String :=
  match source.kind with
  | .header => ofHeader (request.header? source.name) headName
  | .query => nonEmpty (request.queryParam? source.name) .emptyQuery
  | .cookie => nonEmpty (request.cookie? source.name) .emptyCookie
  | .param => nonEmpty (request.pathParam? source.name) .emptyParam
  | .form => nonEmpty (request.formValue? source.name) .emptyParam
  | .json => nonEmpty (request.jsonField? source.name) .emptyBody

def write (source : TokenSource) : String := source.kind.name ++ ":" ++ source.name

/-- Reads a rule; blanks around the kind and the name do not count. -/
def read (rule : List Char) : Except ExtractError TokenSource :=
  let invalid := ExtractError.invalidRule (String.ofList (Text.trim rule))
  match Text.splitFirst ':' rule with
  | none => .error invalid
  | some (kind, name) =>
      let name := Text.trim name
      match SourceKind.ofName? (String.ofList (Text.trim kind)) with
      | some kind => if name = [] then .error invalid else .ok ⟨kind, String.ofList name⟩
      | none => .error invalid

end TokenSource

structure TokenLookup where
  sources : List TokenSource
  deriving DecidableEq, Repr

namespace TokenLookup

def standard : TokenLookup := ⟨[⟨.header, "Authorization"⟩]⟩

/-- The first token, or the complaint of the last source. -/
def extractFrom (request : Request) (headName : String) (complaint : ExtractError) :
    List TokenSource → Except ExtractError String
  | [] => .error complaint
  | source :: rest =>
      match source.extract request headName with
      | .ok token => .ok token
      | .error complaint => extractFrom request headName complaint rest

def extract (lookup : TokenLookup) (request : Request) (headName : String) :
    Except ExtractError String :=
  extractFrom request headName .noSources lookup.sources

/-- Reads rules between commas; blank pieces are skipped. -/
def parse (rules : String) : Except ExtractError TokenLookup := do
  let pieces := (Text.splitAll ',' rules.toList).filter fun piece => Text.trim piece ≠ []
  let sources ← pieces.mapM TokenSource.read
  return ⟨sources⟩

def write (lookup : TokenLookup) : String :=
  ", ".intercalate (lookup.sources.map TokenSource.write)

end TokenLookup

/-! ## The grammar of rules -/

/--
Whether a piece is a rule for a source: the name of the kind, the first colon of
the piece, and the name of the source, with blanks around either name.
-/
def TokenSource.HasRule (source : TokenSource) (piece : List Char) : Prop :=
  ∃ kind name, piece = kind ++ ':' :: name ∧ ':' ∉ kind ∧
    Text.IsTrimmed source.kind.name.toList kind ∧
    Text.IsTrimmed source.name.toList name ∧ source.name ≠ ""

/-- The pieces of a text between commas that are not blank. -/
def TokenLookup.pieces (rules : String) : List (List Char) :=
  (rules.toList.splitOn ',').filter fun piece => !piece.all Text.isBlank

end SessionTokens
