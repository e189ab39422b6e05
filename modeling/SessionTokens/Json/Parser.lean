import SessionTokens.Json.Members
import SessionTokens.Json.Number
import SessionTokens.Text.Utf8

/-!
# Reading JSON

A text is first read as a tree whose objects keep every member as written, then
members of one name are merged: the last value counts, in the first place.  At
most 127 arrays and objects may be nested.
-/

namespace SessionTokens.Json

def isBlank (char : Char) : Bool :=
  char = ' ' || char = '\n' || char = '\t' || char = '\r'

def skipBlank (text : List Char) : List Char := text.dropWhile isBlank

/-- One element of a text: a character, or a 16-bit unit given by an escape. -/
inductive Piece where
  | char (value : Char)
  | unit (value : Nat)

def unescape? : Char → Option Char
  | '"' => some '"'
  | '\\' => some '\\'
  | '/' => some '/'
  | 'b' => some '\x08'
  | 'f' => some '\x0c'
  | 'n' => some '\n'
  | 'r' => some '\r'
  | 't' => some '\t'
  | _ => none

def unit? (a b c d : Char) : Option Nat := do
  let a ← Bytes.hexValue? a
  let b ← Bytes.hexValue? b
  let c ← Bytes.hexValue? c
  let d ← Bytes.hexValue? d
  return ((a * 16 + b) * 16 + c) * 16 + d

/-- The pieces of a text up to its closing quote, and what follows it. -/
def readPieces : List Char → Option (List Piece × List Char)
  | [] => none
  | '"' :: rest => some ([], rest)
  | '\\' :: 'u' :: a :: b :: c :: d :: rest => do
      let value ← unit? a b c d
      let (pieces, rest) ← readPieces rest
      return (.unit value :: pieces, rest)
  | '\\' :: escape :: rest => do
      let char ← unescape? escape
      let (pieces, rest) ← readPieces rest
      return (.char char :: pieces, rest)
  | char :: rest =>
      if char.toNat < 0x20 then none
      else do
        let (pieces, rest) ← readPieces rest
        return (.char char :: pieces, rest)

def isLeading (unit : Nat) : Bool := 0xD800 ≤ unit && unit < 0xDC00

def isTrailing (unit : Nat) : Bool := 0xDC00 ≤ unit && unit < 0xE000

/-- Joins pairs of units; a unit of a pair that stands alone is refused. -/
def joinPieces : List Piece → Option (List Char)
  | [] => some []
  | .char char :: rest => (joinPieces rest).map (char :: ·)
  | .unit high :: rest =>
      if isLeading high then
        match rest with
        | .unit low :: rest =>
            if isTrailing low then
              let code := 0x10000 + (high - 0xD800) * 1024 + (low - 0xDC00)
              (joinPieces rest).map (Char.ofNat code :: ·)
            else none
        | _ => none
      else if isTrailing high then none
      else (joinPieces rest).map (Char.ofNat high :: ·)

def readText (text : List Char) : Option (String × List Char) := do
  let (pieces, rest) ← readPieces text
  let chars ← joinPieces pieces
  return (String.ofList chars, rest)

abbrev Reader := List Char → Option (Json × List Char)

/-- Reads items up to the closing bracket; there is at least one. -/
def readItems (item : Reader) : (fuel : Nat) → List Char → Option (List Json × List Char)
  | 0, _ => none
  | fuel + 1, text => do
      let (first, rest) ← item (skipBlank text)
      match skipBlank rest with
      | ']' :: rest => some ([first], rest)
      | ',' :: rest => do
          let (others, rest) ← readItems item fuel rest
          return (first :: others, rest)
      | _ => none

def readMembers (item : Reader) : (fuel : Nat) → List Char → Option (Members × List Char)
  | 0, _ => none
  | fuel + 1, text =>
      match skipBlank text with
      | '"' :: rest => do
          let (name, rest) ← readText rest
          match skipBlank rest with
          | ':' :: rest => do
              let (value, rest) ← item (skipBlank rest)
              match skipBlank rest with
              | '}' :: rest => some ([(name, value)], rest)
              | ',' :: rest => do
                  let (others, rest) ← readMembers item fuel rest
                  return ((name, value) :: others, rest)
              | _ => none
          | _ => none
      | _ => none

def readScalar : Reader
  | 'n' :: 'u' :: 'l' :: 'l' :: rest => some (.null, rest)
  | 't' :: 'r' :: 'u' :: 'e' :: rest => some (.bool true, rest)
  | 'f' :: 'a' :: 'l' :: 's' :: 'e' :: rest => some (.bool false, rest)
  | '"' :: rest => (readText rest).map fun (value, rest) => (.string value, rest)
  | text => readNumber text

/-- Reads a value with at most `depth` nested arrays and objects. -/
def readValue : (depth : Nat) → Reader
  | 0, '[' :: _ => none
  | 0, '{' :: _ => none
  | 0, text => readScalar text
  | depth + 1, text =>
      match text with
      | '[' :: rest =>
          match skipBlank rest with
          | ']' :: rest => some (.array [], rest)
          | rest => (readItems (readValue depth) rest.length rest).map
              fun (items, rest) => (.array items, rest)
      | '{' :: rest =>
          match skipBlank rest with
          | '}' :: rest => some (.object [], rest)
          | rest => (readMembers (readValue depth) rest.length rest).map
              fun (members, rest) => (.object members, rest)
      | _ => readScalar text

def maxDepth : Nat := 127

/-- Reads a whole text, keeping members of one name apart. -/
def parseRaw? (text : List Char) : Option Json :=
  match readValue maxDepth (skipBlank text) with
  | some (value, rest) => if (skipBlank rest).isEmpty then some value else none
  | none => none

mutual

/-- Merges members of one name, at every depth. -/
def merge : Json → Json
  | .array items => .array (mergeItems items)
  | .object members => .object (Members.ofPairs (mergeMembers members))
  | value => value

def mergeItems : List Json → List Json
  | [] => []
  | item :: rest => merge item :: mergeItems rest

def mergeMembers : List (String × Json) → List (String × Json)
  | [] => []
  | (name, value) :: rest => (name, merge value) :: mergeMembers rest

end

/--
Reads a whole text.  Left out is the private name with which a reader may mark a
text that it keeps raw: an object whose first member has that name is read like
any other.
-/
def parse? (text : List Char) : Option Json := (parseRaw? text).map merge

/-- Reads a whole text given as octets, which must be well-formed UTF-8. -/
def parseBytes? (bytes : Bytes) : Option Json := (Utf8.decode? bytes).bind parse?

end SessionTokens.Json
