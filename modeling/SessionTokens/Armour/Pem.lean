import SessionTokens.Text.Base64
import SessionTokens.Text.Split
import SessionTokens.Text.Utf8

/-!
# Text armour of keys

Binary keys travel as Base64 text between a line that begins and a line that
ends a block.  The lenient reading takes the first block of any text; the
strict reading fixes the line width and the place of every boundary.
-/

namespace SessionTokens.Pem

/-- The label of a block and its octets. -/
structure Block where
  label : String
  contents : Bytes

def cutAt (mark : List Char) : List Char → Option (List Char × List Char)
  | [] => if mark.isEmpty then some ([], []) else none
  | char :: rest =>
      if mark.isPrefixOf (char :: rest) then some ([], (char :: rest).drop mark.length)
      else (cutAt mark rest).map fun (before, after) => (char :: before, after)

def isGap (char : Char) : Bool := char = ' ' || char = '\t' || char = '\n' || char = '\r'

def headersSuit (headers : List Char) : Bool :=
  (String.ofList headers).splitOn "\n" |>.all fun line => line.isEmpty || line.contains ':'

/-- The data of a block, without the header lines that an empty line ends. -/
def dataOf? (body : List Char) : Option (List Char) :=
  match cutAt ['\n', '\n'] body with
  | some (headers, data) => if headersSuit headers then some data else none
  | none =>
      match cutAt ['\r', '\n', '\r', '\n'] body with
      | some (headers, data) => if headersSuit headers then some data else none
      | none => some body

def parse? (octets : Bytes) : Option Block := do
  let text := Utf8.decodeLossy octets
  let (_, rest) ← cutAt "-----BEGIN ".toList text
  let (label, rest) ← cutAt "-----".toList rest
  let (body, rest) ← cutAt "-----END ".toList (rest.dropWhile isGap)
  let (closing, _) ← cutAt "-----".toList rest
  let data ← dataOf? body
  if label.isEmpty ∨ label ≠ closing then none
  else
    let contents ← Base64.decodePadded? Base64.standard (data.filter (!Text.isBlank ·))
    return ⟨String.ofList label, contents⟩

/-- The lines of a text; a line ends with a line feed, a carriage return, or both. -/
def lines : List Char → List (List Char)
  | [] => [[]]
  | '\r' :: '\n' :: rest => [] :: lines rest
  | char :: rest =>
      if char = '\n' ∨ char = '\r' then [] :: lines rest
      else
        match lines rest with
        | [] => [[char]]
        | line :: others => (char :: line) :: others

def lineWidth : Nat := 64

/-- Whether every line but the last has the full width, and no line is empty. -/
def wrapped : List (List Char) → Bool
  | [] => false
  | [line] => 0 < line.length && line.length ≤ lineWidth
  | line :: rest => line.length = lineWidth && wrapped rest

/--
Reads a block with a given label strictly: the boundaries have lines of their
own, the data lines are full, and only line ends follow.
-/
def parseStrict? (label : String) (text : List Char) : Option Bytes := do
  let opening := "-----BEGIN ".toList ++ label.toList ++ "-----".toList
  let closing := "-----END ".toList ++ label.toList ++ "-----".toList
  let all := (lines text).dropWhile (· ≠ opening)
  let inside := (all.drop 1).takeWhile (· ≠ closing)
  let after := (all.drop 1).dropWhile (· ≠ closing)
  if all.isEmpty ∨ after.isEmpty ∨ ¬ (after.drop 1).all (·.isEmpty) ∨ ¬ wrapped inside then none
  else Base64.decodePadded? Base64.standard inside.flatten

end SessionTokens.Pem
