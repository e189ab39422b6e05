import SessionTokens.Address.Host
import SessionTokens.Decimal.Shortest
import SessionTokens.Text.Split

/-!
# Addresses of servers

An address is a scheme, and then a server with a path, or a path alone.  Dots
in a path are resolved, and characters that may not stand in a part are
percent-encoded.  Of a web address only the scheme is kept, since no store of
refresh tokens is reached through one.
-/

namespace SessionTokens

namespace Address

/-- A server: all parts in encoded form. -/
structure Server where
  user : List Char := []
  password : List Char := []
  host : List Char
  port : Option Nat := none
  deriving DecidableEq, Repr

/-- What stands between the scheme and the path. -/
inductive Authority where
  | server (server : Server)
  /-- No server, and a path that needs a dot before it. -/
  | dotted
  | absent
  deriving DecidableEq, Repr

end Address

structure Address where
  scheme : String
  authority : Address.Authority
  path : List Char
  query : Option (List Char) := none
  fragment : Option (List Char) := none
  deriving DecidableEq, Repr

namespace Address

/-! ## Encoding -/

def inFragmentSet (char : Char) : Bool :=
  isControl char || [' ', '"', '<', '>'].contains char || char.toNat = 0x60

def inQuerySet (char : Char) : Bool :=
  isControl char || [' ', '"', '#', '<', '>'].contains char

def inPathSet (char : Char) : Bool :=
  inFragmentSet char || ['#', '?', '\x7b', '\x7d'].contains char

def inUserSet (char : Char) : Bool :=
  inPathSet char || ['/', ':', ';', '=', '@', '[', '\\', ']', '^', '|'].contains char

/-! ## Text of an address -/

def Server.writeUser (server : Server) : List Char :=
  if server.user = [] ∧ server.password = [] then []
  else
    server.user ++ (if server.password = [] then [] else ':' :: server.password) ++ ['@']

def Server.write (server : Server) : List Char :=
  server.writeUser ++ server.host ++
    match server.port with
    | some port => ':' :: Decimal.digits port
    | none => []

def write (address : Address) : String :=
  let authority :=
    match address.authority with
    | .server server => '/' :: '/' :: server.write
    | .dotted => ['/', '.']
    | .absent => []
  let query :=
    match address.query with
    | some query => '?' :: query
    | none => []
  let fragment :=
    match address.fragment with
    | some fragment => '#' :: fragment
    | none => []
  String.ofList
    (address.scheme.toList ++ ':' :: (authority ++ address.path ++ query ++ fragment))

/-! ## Reading -/

def endsServer (char : Char) : Bool := char = '/' || char = '?' || char = '#'

/-- A text without controls and blanks at its ends, and without tabs and line ends. -/
def clean (text : List Char) : List Char :=
  (Text.trimBy (fun char => char.toNat ≤ 0x20) text).filter fun char =>
    char ≠ '\t' && char ≠ '\n' && char ≠ '\r'

/-- The scheme in lower case and the text after its colon. -/
def splitScheme? (text : List Char) : Option (List Char × List Char) := do
  let (scheme, rest) ← Text.splitFirst ':' text
  let first ← scheme.head?
  if first.isAlpha ∧ scheme.all fun char => char.isAlphanum || ['+', '-', '.'].contains char then
    return (scheme.map Char.toLower, rest)
  else none

def readUser (text : List Char) : List Char × List Char :=
  match Text.splitFirst ':' text with
  | some (user, password) => (Percent.encode inUserSet user, Percent.encode inUserSet password)
  | none => (Percent.encode inUserSet text, [])

def splitHost : (inBrackets : Bool) → List Char → List Char × List Char
  | _, [] => ([], [])
  | inBrackets, char :: rest =>
      if (char = ':' ∧ ¬ inBrackets) ∨ endsServer char then ([], char :: rest)
      else
        let inBrackets := char = '[' || (inBrackets && char ≠ ']')
        let (host, after) := splitHost inBrackets rest
        (char :: host, after)

/-- The port after a colon, and the text after it; there may be no digits. -/
def readPort (text : List Char) : Except Fault (Option Nat × List Char) :=
  let run := text.takeWhile Decimal.isDigit
  let rest := text.drop run.length
  let port := Decimal.ofDigits 0 run
  let ends := (rest.head?.map fun char => endsServer char || char = '\\').getD true
  if 65535 < port ∨ ¬ ends then .error .port
  else .ok (if run.isEmpty then none else some port, rest)

def splitUser (text : List Char) : Except Fault ((List Char × List Char) × List Char) :=
  let authority := text.takeWhile fun char => !endsServer char
  match Text.splitLast '@' authority with
  | none => .ok (([], []), text)
  | some (user, _) =>
      let rest := text.drop (user.length + 1)
      if user = [] ∧ (rest.head?.map endsServer).getD false then .error .emptyHost
      else .ok (readUser user, rest)

def readServer (text : List Char) : Except Fault (Server × List Char) := do
  let ((user, password), rest) ← splitUser text
  let (hostText, rest) := splitHost false rest
  let host ← plainHost hostText
  if host = [] ∧ rest.head? = some ':' then throw .emptyHost
  let (port, rest) ←
    match rest with
    | ':' :: rest => readPort rest
    | _ => pure (none, rest)
  if host = [] ∧ ¬ (user = [] ∧ password = []) then throw .emptyHost
  return (⟨user, password, host, port⟩, rest)

def singleDots : List String := [".", "%2e", "%2E"]

def doubleDots : List String :=
  ["..", "%2e%2e", "%2e%2E", "%2E%2e", "%2E%2E", "%2e.", "%2E.", ".%2e", ".%2E"]

def startsWithDrive : List Char → Bool
  | '/' :: letter :: colon :: rest =>
      letter.isAlpha && (colon = ':' || colon = '|')
        && ((rest.head?.map fun char => endsServer char || char = '\\').getD true)
  | _ => false

/-- A path up to and with its last slash. -/
def upToSlash (path : List Char) : List Char :=
  (path.reverse.dropWhile (· ≠ '/')).reverse

/-- A path without its last segment; the root and a drive stay. -/
def shorten (path : List Char) : List Char :=
  let before := path.dropLast
  let parent := upToSlash before
  let removable :=
    path.getLast? = some '/' && parent ≠ []
      && !startsWithDrive (path.drop (parent.length - 1))
  upToSlash (if removable then before else path)

/-- Adds segments to a path, the dots among them resolved. -/
def addSegments : (path : List Char) → List (List Char) → List Char
  | path, [] => path
  | path, segment :: rest =>
      let encoded := Percent.encode inPathSet segment
      let slash := if rest = [] then [] else ['/']
      let next :=
        if doubleDots.contains (String.ofList encoded) then
          let short := shorten path
          if rest ≠ [] ∧ short.getLast? ≠ some '/' then short ++ ['/'] else short
        else if singleDots.contains (String.ofList encoded) then
          if path.getLast? = some '/' then path else path ++ ['/']
        else path ++ encoded ++ slash
      addSegments next rest

/-- Reads a path from a text that starts with a slash, if it has one. -/
def readPath (start text : List Char) : List Char := addSegments start (Text.splitAll '/' text)

def splitTail (text : List Char) : List Char × Option (List Char) × Option (List Char) :=
  let path := text.takeWhile fun char => char ≠ '?' && char ≠ '#'
  let (query, rest) : Option (List Char) × List Char :=
    match text.drop path.length with
    | '?' :: rest =>
        let query := rest.takeWhile (· ≠ '#')
        (some query, rest.drop query.length)
    | rest => (none, rest)
  let fragment :=
    match rest with
    | '#' :: rest => some rest
    | _ => none
  (path, query.map (Percent.encode inQuerySet), fragment.map (Percent.encode inFragmentSet))

def webSchemes : List String := ["http", "https", "ws", "wss", "ftp"]

def checkWeb (text : List Char) : Except Fault Unit := do
  let unified := text.map fun char => if char = '\\' then '/' else char
  let ((user, password), rest) ← splitUser (unified.dropWhile (· = '/'))
  let (host, rest) := splitHost false rest
  if host = [] then throw .emptyHost
  checkWebHost host
  match rest with
  | ':' :: rest => (readPort rest).map fun _ => ()
  | _ => pure ()
  if host = [] ∧ ¬ (user = [] ∧ password = []) then throw .emptyHost

def checkFile (text : List Char) : Except Fault Unit :=
  match text.map fun char => if char = '\\' then '/' else char with
  | '/' :: '/' :: rest =>
      let host := rest.takeWhile fun char => !endsServer char
      if host = [] ∨ (host.length = 2 ∧ startsWithDrive ('/' :: host)) then .ok ()
      else checkWebHost host
  | _ => .ok ()

def parse (text : String) : Except Fault Address := do
  match splitScheme? (clean text.toList) with
  | none => throw .noScheme
  | some (schemeChars, rest) =>
      let scheme := String.ofList schemeChars
      if webSchemes.contains scheme then
        checkWeb rest
        return { scheme, authority := .absent, path := [] }
      else if scheme = "file" then
        checkFile rest
        return { scheme, authority := .absent, path := [] }
      else
        match rest with
        | '/' :: '/' :: rest =>
            let (server, rest) ← readServer rest
            let (path, query, fragment) := splitTail rest
            let start := if path = [] ∨ path.head? = some '/' then [] else ['/']
            return {
              scheme, authority := .server server, path := readPath start path, query, fragment }
        | '/' :: rest =>
            let (tail, query, fragment) := splitTail rest
            let path := readPath ['/'] tail
            let authority := if ['/', '/'].isPrefixOf path then .dotted else .absent
            return { scheme, authority, path, query, fragment }
        | _ =>
            let (path, query, fragment) := splitTail rest
            return {
              scheme, authority := .absent, path := Percent.encode isControl path, query,
              fragment }

/-! ## Changes -/

def withPassword? (address : Address) (password : String) : Option Address :=
  match address.authority with
  | .server server =>
      if server.host = [] then none
      else
        let password := Percent.encode inUserSet password.toList
        some { address with authority := .server { server with password } }
  | _ => none

/-- Whether the path hangs on no root, so that it cannot be replaced by a rooted one. -/
def isRootless (address : Address) : Bool :=
  address.authority = .absent && address.path.head? ≠ some '/'

def withSegment (address : Address) (segment : List Char) : Address :=
  if address.isRootless then { address with path := '%' :: '2' :: 'F' :: segment }
  else { address with path := '/' :: segment }

end Address

end SessionTokens
