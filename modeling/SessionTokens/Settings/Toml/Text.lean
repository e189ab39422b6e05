import SessionTokens.Bytes

/-!
# Texts in TOML

Basic texts have escapes, literal texts have none; both come on one line or,
between three quotes, on several.  Line ends inside a text are single line
feeds.
-/

namespace SessionTokens.Toml

def isBlank (char : Char) : Bool := char = ' ' || char = '\t'

def skipBlank (text : List Char) : List Char := text.dropWhile isBlank

def isPlain (char : Char) : Bool :=
  char = '\t' || (0x20 ≤ char.toNat && char.toNat ≠ 0x7F)

def afterLineEnd? : List Char → Option (List Char)
  | '\n' :: rest => some rest
  | '\r' :: '\n' :: rest => some rest
  | _ => none

def skipComment (text : List Char) : List Char :=
  match text with
  | '#' :: rest => rest.dropWhile isPlain
  | _ => text

/-- The rest of a statement's line: blanks and a comment, then a line end or nothing. -/
def finishLine? (text : List Char) : Option (List Char) :=
  let rest := skipComment (skipBlank text)
  if rest.isEmpty then some [] else afterLineEnd? rest

/-- A text without blanks, comments and line ends at its front. -/
def skipGap : (fuel : Nat) → List Char → List Char
  | 0, text => text
  | fuel + 1, text =>
      let rest := skipComment (skipBlank text)
      match afterLineEnd? rest with
      | some rest => skipGap fuel rest
      | none => rest

/-- The character of a number that must not be half of a pair. -/
def scalar? (code : Nat) : Option Char :=
  if h : code.isValidChar then some (Char.ofNatAux code h) else none

/-- The number of exactly so many hexadecimal digits at the front, and the rest. -/
def hexDigits? (count : Nat) (text : List Char) : Option (Nat × List Char) := do
  let digits := text.take count
  if digits.length < count then none
  else
    let values ← digits.mapM Bytes.hexValue?
    return (values.foldl (fun number value => number * 16 + value) 0, text.drop count)

def escape? : List Char → Option (Char × List Char)
  | 'b' :: rest => some ('\x08', rest)
  | 't' :: rest => some ('\t', rest)
  | 'n' :: rest => some ('\n', rest)
  | 'f' :: rest => some ('\x0c', rest)
  | 'r' :: rest => some ('\r', rest)
  | 'e' :: rest => some ('\x1b', rest)
  | '"' :: rest => some ('"', rest)
  | '\\' :: rest => some ('\\', rest)
  | 'x' :: rest => do
      let (code, rest) ← hexDigits? 2 rest
      return (← scalar? code, rest)
  | 'u' :: rest => do
      let (code, rest) ← hexDigits? 4 rest
      return (← scalar? code, rest)
  | 'U' :: rest => do
      let (code, rest) ← hexDigits? 8 rest
      return (← scalar? code, rest)
  | _ => none

def basicText : (fuel : Nat) → List Char → Option (List Char × List Char)
  | 0, _ => none
  | _, [] => none
  | _, '"' :: rest => some ([], rest)
  | fuel + 1, '\\' :: rest => do
      let (char, rest) ← escape? rest
      let (chars, rest) ← basicText fuel rest
      return (char :: chars, rest)
  | fuel + 1, char :: rest =>
      if isPlain char then (basicText fuel rest).map fun (chars, rest) => (char :: chars, rest)
      else none

def literalText (text : List Char) : Option (List Char × List Char) :=
  let chars := text.takeWhile fun char => isPlain char && char ≠ '\''
  match text.drop chars.length with
  | '\'' :: rest => some (chars, rest)
  | _ => none

/-- A text without line ends and blanks at its front, when a line ends right after blanks. -/
def foldLine? (text : List Char) : Option (List Char) :=
  (afterLineEnd? (skipBlank text)).map fun rest =>
    rest.dropWhile fun char => isBlank char || char = '\n' || char = '\r'

/--
A text on several lines: three quotes end it, and up to two more quotes before
them belong to it.  Only a basic text has escapes.
-/
def longText (quote : Char) (escapes : Bool) : (fuel : Nat) → List Char →
    Option (List Char × List Char)
  | 0, _ => none
  | _, [] => none
  | fuel + 1, text@(char :: rest) =>
      if char = quote then
        let run := (text.takeWhile (· = quote)).take 5
        if run.length < 3 then
          (longText quote escapes fuel rest).map fun (chars, rest) => (char :: chars, rest)
        else some (run.drop 3, text.drop run.length)
      else if char = '\\' ∧ escapes then
        match foldLine? rest with
        | some rest => longText quote escapes fuel rest
        | none => do
            let (char, rest) ← escape? rest
            let (chars, rest) ← longText quote escapes fuel rest
            return (char :: chars, rest)
      else
        match afterLineEnd? text with
        | some rest =>
            (longText quote escapes fuel rest).map fun (chars, rest) => ('\n' :: chars, rest)
        | none =>
            if isPlain char then
              (longText quote escapes fuel rest).map fun (chars, rest) => (char :: chars, rest)
            else none

/-- A text on several lines after its opening quotes; a line end right there does not count. -/
def longTextFrom (quote : Char) (escapes : Bool) (text : List Char) :
    Option (List Char × List Char) :=
  let start := (afterLineEnd? text).getD text
  longText quote escapes (start.length + 1) start

def anyText? : List Char → Option (List Char × List Char)
  | '"' :: '"' :: '"' :: rest => longTextFrom '"' true rest
  | '"' :: rest => basicText (rest.length + 1) rest
  | '\'' :: '\'' :: '\'' :: rest => longTextFrom '\'' false rest
  | '\'' :: rest => literalText rest
  | _ => none

end SessionTokens.Toml
