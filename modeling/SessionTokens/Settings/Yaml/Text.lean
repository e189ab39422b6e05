import SessionTokens.Bytes
import SessionTokens.Text.Split

/-!
# Texts in YAML

Texts in quotes, which may run over several lines, and block texts, whose lines
are told by their indentation.  Line ends have been made single line feeds
before.
-/

namespace SessionTokens.Yaml

def isBlank (char : Char) : Bool := char = ' ' || char = '\t'

/-- A text with all line ends made single line feeds. -/
def unifyLines : List Char → List Char
  | '\r' :: '\n' :: rest => '\n' :: unifyLines rest
  | '\r' :: rest => '\n' :: unifyLines rest
  | char :: rest => char :: unifyLines rest
  | [] => []

def startsBlank : List Char → Bool
  | [] => true
  | char :: _ => isBlank char || char = '\n'

/-! ## Lines in quotes -/

/-- What joins lines: a blank for one line end, one less line feed for more. -/
def joint (ends : Nat) : List Char := if ends ≤ 1 then [' '] else List.replicate (ends - 1) '\n'

/-- The number of line ends at the front, with blanks between them, and the text after them. -/
def skipLines (text : List Char) : Nat × List Char :=
  let gap := text.takeWhile fun char => isBlank char || char = '\n'
  (gap.count '\n', text.drop gap.length)

/-- Blanks that may stand at the end of a line, and whether they do. -/
def atLineEnd (text : List Char) : Bool := (text.dropWhile isBlank).head? = some '\n'

/-- A text in single quotes after the opening one; a doubled quote stands for a quote. -/
def singleQuoted : (fuel : Nat) → List Char → Option (List Char × List Char)
  | 0, _ => none
  | _, [] => none
  | fuel + 1, '\'' :: '\'' :: rest =>
      (singleQuoted fuel rest).map fun (chars, rest) => ('\'' :: chars, rest)
  | _, '\'' :: rest => some ([], rest)
  | fuel + 1, text@(char :: rest) =>
      if atLineEnd text then
        let (ends, rest) := skipLines text
        (singleQuoted fuel rest).map fun (chars, rest) => (joint ends ++ chars, rest)
      else (singleQuoted fuel rest).map fun (chars, rest) => (char :: chars, rest)

/-- The number of exactly so many hexadecimal digits as a character, and the rest. -/
def hexChar? (count : Nat) (text : List Char) : Option (Char × List Char) := do
  let digits := text.take count
  if digits.length < count then none
  else
    let values ← digits.mapM Bytes.hexValue?
    let code := values.foldl (fun number value => number * 16 + value) 0
    if h : code.isValidChar then return (Char.ofNatAux code h, text.drop count) else none

def escape? : List Char → Option (Char × List Char)
  | '0' :: rest => some ('\x00', rest)
  | 'a' :: rest => some ('\x07', rest)
  | 'b' :: rest => some ('\x08', rest)
  | 't' :: rest => some ('\t', rest)
  | '\t' :: rest => some ('\t', rest)
  | 'n' :: rest => some ('\n', rest)
  | 'v' :: rest => some ('\x0b', rest)
  | 'f' :: rest => some ('\x0c', rest)
  | 'r' :: rest => some ('\r', rest)
  | 'e' :: rest => some ('\x1b', rest)
  | ' ' :: rest => some (' ', rest)
  | '"' :: rest => some ('"', rest)
  | '/' :: rest => some ('/', rest)
  | '\\' :: rest => some ('\\', rest)
  | 'N' :: rest => some ('\u0085', rest)
  | '_' :: rest => some ('\u00a0', rest)
  | 'L' :: rest => some ('\u2028', rest)
  | 'P' :: rest => some ('\u2029', rest)
  | 'x' :: rest => hexChar? 2 rest
  | 'u' :: rest => hexChar? 4 rest
  | 'U' :: rest => hexChar? 8 rest
  | _ => none

def doubleQuoted : (fuel : Nat) → List Char → Option (List Char × List Char)
  | 0, _ => none
  | _, [] => none
  | _, '"' :: rest => some ([], rest)
  | fuel + 1, '\\' :: '\n' :: rest =>
      let (ends, rest) := skipLines rest
      (doubleQuoted fuel rest).map fun (chars, rest) => (List.replicate ends '\n' ++ chars, rest)
  | fuel + 1, '\\' :: rest => do
      let (char, rest) ← escape? rest
      let (chars, rest) ← doubleQuoted fuel rest
      return (char :: chars, rest)
  | fuel + 1, text@(char :: rest) =>
      if atLineEnd text then
        let (ends, rest) := skipLines text
        (doubleQuoted fuel rest).map fun (chars, rest) => (joint ends ++ chars, rest)
      else (doubleQuoted fuel rest).map fun (chars, rest) => (char :: chars, rest)

def quoted? : List Char → Option (List Char × List Char)
  | '\'' :: rest => singleQuoted (rest.length + 1) rest
  | '"' :: rest => doubleQuoted (rest.length + 1) rest
  | _ => none

/-! ## Block texts -/

/-- What becomes of line ends at the end of a block text. -/
inductive Chomping where
  | clip
  | strip
  | keep
  deriving DecidableEq, Repr

structure BlockHead where
  folded : Bool
  chomping : Chomping := .clip
  indentation : Option Nat := none

def readMarks : BlockHead → List Char → Option (BlockHead × List Char)
  | head, [] => some (head, [])
  | head, '+' :: rest => readMarks { head with chomping := .keep } rest
  | head, '-' :: rest => readMarks { head with chomping := .strip } rest
  | head, '\n' :: rest => some (head, rest)
  | head, char :: rest =>
      if '1' ≤ char ∧ char ≤ '9' then
        readMarks { head with indentation := some (char.toNat - 48) } rest
      else if isBlank char then
        let after := rest.dropWhile isBlank
        match after with
        | [] => some (head, [])
        | '\n' :: rest => some (head, rest)
        | '#' :: _ => some (head, (after.dropWhile (· ≠ '\n')).drop 1)
        | _ => none
      else none

/-- A line without its line end, whether it had one, and the text after it. -/
def splitLine (text : List Char) : List Char × Bool × List Char :=
  let line := text.takeWhile (· ≠ '\n')
  match text.drop line.length with
  | [] => (line, false, [])
  | _ :: rest => (line, true, rest)

def indentOf (line : List Char) : Nat := (line.takeWhile (· = ' ')).length

/-- The indentation of a block text: that of its first line with anything on it. -/
def detectIndent (least : Nat) : (fuel : Nat) → List Char → Nat
  | 0, _ => least
  | fuel + 1, text =>
      let (line, ended, rest) := splitLine text
      if line.all (· = ' ') then
        if ended then detectIndent (max least line.length) fuel rest else max least line.length
      else max least (indentOf line)

/-- The lines of a block text with the number of empty lines before each, the rest of the empty
lines, whether the last line has an end, and the text after it. -/
def blockLines (indent : Nat) : (fuel : Nat) → (empty : Nat) → List Char →
    List (Nat × List Char) × Nat × Bool × List Char
  | 0, empty, text => ([], empty, true, text)
  | _, empty, [] => ([], empty, true, [])
  | fuel + 1, empty, text =>
      let (line, ended, rest) := splitLine text
      if line.all (· = ' ') ∧ line.length ≤ indent then
        blockLines indent fuel (if ended then empty + 1 else empty) rest
      else if indentOf line < indent then ([], empty, true, text)
      else
        let (lines, left, lastEnded, after) := blockLines indent fuel 0 rest
        let lastEnded := if lines.isEmpty then ended else lastEnded
        ((empty, line.drop indent) :: lines, left, lastEnded, after)

/-- Joins the lines after the first of a block text; `loose` says that the line before starts with a blank. -/
def joinLines (folded : Bool) : (loose : Bool) → List (Nat × List Char) → List Char
  | _, [] => []
  | loose, (empty, line) :: rest =>
      let blank := (line.head?.map isBlank).getD false
      let between :=
        if folded && !loose && !blank then
          if empty = 0 then [' '] else List.replicate empty '\n'
        else List.replicate (empty + 1) '\n'
      between ++ line ++ joinLines folded blank rest

def blockText (folded : Bool) (outer : Option Nat) (text : List Char) :
    Option (List Char × List Char) := do
  let (head, rest) ← readMarks { folded } text
  let least := (outer.map (· + 1)).getD 1
  let indent :=
    match head.indentation with
    | some more => outer.getD 0 + more
    | none => detectIndent least rest.length rest
  let (lines, left, ended, after) := blockLines indent (rest.length + 1) 0 rest
  match lines with
  | [] => return (if head.chomping = .keep then List.replicate left '\n' else [], after)
  | (empty, line) :: others =>
      let blank := (line.head?.map isBlank).getD false
      let whole := List.replicate empty '\n' ++ line ++ joinLines folded blank others
      let last := if ended then ['\n'] else []
      return (
        match head.chomping with
        | .strip => whole
        | .clip => whole ++ last
        | .keep => whole ++ last ++ List.replicate left '\n', after)

end SessionTokens.Yaml
