import SessionTokens.Settings.Toml.Scalar
import SessionTokens.Settings.Toml.Tree

/-!
# TOML documents

A document is a sequence of lines: values under dotted names, and headers that
say to which table the values after them belong.
-/

namespace SessionTokens.Toml

def inName (char : Char) : Bool := char.isAlphanum || char = '_' || char = '-'

def name? (text : List Char) : Option (String × List Char) :=
  match text with
  | '"' :: rest =>
      (basicText (rest.length + 1) rest).map fun (chars, rest) => (String.ofList chars, rest)
  | '\'' :: rest => (literalText rest).map fun (chars, rest) => (String.ofList chars, rest)
  | _ =>
      let chars := text.takeWhile inName
      if chars.isEmpty then none else some (String.ofList chars, text.drop chars.length)

def dottedName : (fuel : Nat) → List Char → Option (List String × List Char)
  | 0, _ => none
  | fuel + 1, text => do
      let (name, rest) ← name? (skipBlank text)
      match skipBlank rest with
      | '.' :: rest => do
          let (names, rest) ← dottedName fuel rest
          return (name :: names, rest)
      | rest => return ([name], rest)

def dottedName? (text : List Char) : Option (List String × List Char) :=
  dottedName (text.length + 1) text

abbrev ValueReader := List Char → Option (Setting × List Char)

def pair? (value : ValueReader) (text : List Char) :
    Option ((List String × Setting) × List Char) := do
  let (names, rest) ← dottedName? text
  match rest with
  | '=' :: rest => do
      let (value, rest) ← value (skipBlank rest)
      return ((names, value), rest)
  | _ => none

/-- The items of a list up to its closing bracket; a comma may stand after the last one. -/
def listItems (value : ValueReader) : (fuel : Nat) → List Char → Option (List Setting × List Char)
  | 0, _ => none
  | fuel + 1, text =>
      match skipGap text.length text with
      | ']' :: rest => some ([], rest)
      | text => do
          let (first, rest) ← value text
          match skipGap rest.length rest with
          | ']' :: rest => some ([first], rest)
          | ',' :: rest => do
              let (others, rest) ← listItems value fuel rest
              return (first :: others, rest)
          | _ => none

/-- The pairs of a table up to its closing brace; a comma may stand after the last one. -/
def bracedPairs (value : ValueReader) : (fuel : Nat) → List Char →
    Option (List (List String × Setting) × List Char)
  | 0, _ => none
  | fuel + 1, text =>
      match skipGap text.length text with
      | '\x7d' :: rest => some ([], rest)
      | text => do
          let (first, rest) ← pair? value text
          match skipGap rest.length rest with
          | '\x7d' :: rest => some ([first], rest)
          | ',' :: rest => do
              let (others, rest) ← bracedPairs value fuel rest
              return (first :: others, rest)
          | _ => none

def bracedTable? (pairs : List (List String × Setting)) : Option Setting := do
  let (_, entries) ← pairs.foldlM
    (fun (table : TableOrigin × Nodes) pair => addValue pair.1 pair.2 table.1 table.2)
    (TableOrigin.headed, [])
  return .table (settingsOf entries)

/-- A value with at most so many nested lists and tables. -/
def value? : (depth : Nat) → ValueReader
  | 0, _ => none
  | depth + 1, text =>
      match text with
      | '[' :: rest =>
          (listItems (value? depth) (rest.length + 1) rest).map fun (items, rest) =>
            (.list items, rest)
      | '\x7b' :: rest => do
          let (pairs, rest) ← bracedPairs (value? depth) (rest.length + 1) rest
          return (← bracedTable? pairs, rest)
      | _ =>
          match anyText? text with
          | some (chars, rest) => some (.text (String.ofList chars), rest)
          | none =>
              let (word, rest) := splitWord text
              (word? word).map fun value => (value, rest)

def maxDepth : Nat := 80

/-- What has been read of a document: its tables, and the table of the last header. -/
structure State where
  entries : Nodes := []
  header : List String := []

def State.change? (state : State) (path : List String) (change : Change) : Option State := do
  let (_, entries) ← changeAt false change path .headed state.entries
  return { state with entries }

def readLine (state : State) (text : List Char) : Option (State × List Char) :=
  match text with
  | '[' :: '[' :: rest => do
      let (names, rest) ← dottedName? rest
      match rest with
      | ']' :: ']' :: rest => do
          let name ← names.getLast?
          let state ← state.change? names.dropLast (openItem name)
          return ({ state with header := names }, ← finishLine? rest)
      | _ => none
  | '[' :: rest => do
      let (names, rest) ← dottedName? rest
      match rest with
      | ']' :: rest => do
          let name ← names.getLast?
          let state ← state.change? names.dropLast (openTable name)
          return ({ state with header := names }, ← finishLine? rest)
      | _ => none
  | _ => do
      let ((names, value), rest) ← pair? (value? maxDepth) text
      let state ← state.change? state.header (addValue names value)
      return (state, ← finishLine? rest)

def readLines : (fuel : Nat) → State → List Char → Option State
  | 0, _, _ => none
  | fuel + 1, state, text =>
      match skipGap (text.length + 1) text with
      | [] => some state
      | text => do
          let (state, rest) ← readLine state text
          readLines fuel state rest

def parse? (text : List Char) : Option Entries :=
  (readLines (text.length + 1) {} text).map fun state => settingsOf state.entries

end SessionTokens.Toml
