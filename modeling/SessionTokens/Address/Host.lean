import SessionTokens.Decimal.Reading
import SessionTokens.Text.Percent

/-!
# Hosts

The host of an address: a name, or a numeric address of the newer kind between
brackets, written with its longest run of zeros left out.  Hosts of web
addresses follow stricter rules, and may be numeric addresses of the older
kind.
-/

namespace SessionTokens.Address

inductive Fault where
  | noScheme
  | emptyHost
  | nameCharacter
  | foreignName
  | port
  | fourParts
  | eightParts
  deriving DecidableEq, Repr

def Fault.message : Fault → String
  | .noScheme => "relative URL without a base"
  | .emptyHost => "empty host"
  | .nameCharacter => "invalid domain character"
  | .foreignName => "invalid international domain name"
  | .port => "invalid port number"
  | .fourParts => "invalid IPv4 address"
  | .eightParts => "invalid IPv6 address"

/-! ## Numeric addresses of eight parts -/

structure Parts where
  numbers : List Nat := []
  gap : Option Nat := none

def Parts.push (parts : Parts) (number : Nat) : Parts :=
  { parts with numbers := parts.numbers ++ [number] }

/-- The parts with a gap, which stands for at least one zero. -/
def Parts.pushGap (parts : Parts) : Parts :=
  ⟨parts.numbers ++ [0], some (parts.numbers.length + 1)⟩

def octet? (text : List Char) : Option Nat := do
  let value ← Decimal.natural? text
  if (text.head? = some '0' ∧ text.length ≠ 1) ∨ 255 < value then none else return value

/-- The last two parts, given as four decimal numbers between points. -/
def decimalTail? (text : List Char) : Option (Nat × Nat) := do
  match ← (Text.splitAll '.' text).mapM octet? with
  | [first, second, third, fourth] => return (first * 256 + second, third * 256 + fourth)
  | _ => none

def hexNumber (digits : List Char) : Nat :=
  digits.foldl (fun number digit => number * 16 + (Bytes.hexValue? digit).getD 0) 0

def isHexDigit (char : Char) : Bool := (Bytes.hexValue? char).isSome

/-- Reads parts between colons; two colons in a row are the gap, of which there is one. -/
def readParts : (fuel : Nat) → Parts → List Char → Option Parts
  | _, parts, [] => some parts
  | 0, _, _ => none
  | fuel + 1, parts, ':' :: rest =>
      if parts.numbers.length = 8 ∨ parts.gap.isSome then none
      else readParts fuel parts.pushGap rest
  | fuel + 1, parts, text =>
      if parts.numbers.length = 8 then none
      else
        let digits := (text.takeWhile isHexDigit).take 4
        match text.drop digits.length with
        | [] => some (parts.push (hexNumber digits))
        | '.' :: _ =>
            if digits.isEmpty ∨ 6 < parts.numbers.length then none
            else (decimalTail? text).map fun (high, low) => (parts.push high).push low
        | ':' :: rest =>
            if rest.isEmpty then none else readParts fuel (parts.push (hexNumber digits)) rest
        | _ => none

/-- All eight parts: the gap is filled with zeros. -/
def Parts.fill? (parts : Parts) : Option (List Nat) :=
  match parts.gap with
  | some gap =>
      some (parts.numbers.take gap ++ List.replicate (8 - parts.numbers.length) 0
        ++ parts.numbers.drop gap)
  | none => if parts.numbers.length = 8 then some parts.numbers else none

def eightParts? (text : List Char) : Option (List Nat) :=
  match text with
  | [] | [_] => none
  | ':' :: ':' :: rest =>
      (readParts text.length (Parts.pushGap {}) rest).bind Parts.fill?
  | ':' :: _ => none
  | _ => (readParts text.length {} text).bind Parts.fill?

def zeroRun (numbers : List Nat) : Nat := (numbers.takeWhile (· = 0)).length

/-- The start and the length of the first longest run of zeros. -/
def longestRun : (index : Nat) → List Nat → Nat × Nat
  | _, [] => (0, 0)
  | index, numbers@(_ :: rest) =>
      let later := longestRun (index + 1) rest
      if later.2 ≤ zeroRun numbers then (index, zeroRun numbers) else later

def writeParts (numbers : List Nat) : List Char :=
  [':'].intercalate (numbers.map (Nat.toDigits 16))

/-- The text of a numeric address of eight parts; a run of two zeros or more is left out. -/
def writeEight (numbers : List Nat) : List Char :=
  let (start, length) := longestRun 0 numbers
  if length < 2 then writeParts numbers
  else writeParts (numbers.take start) ++ ':' :: ':' :: writeParts (numbers.drop (start + length))

def bracketed? (text : List Char) : Option (Except Fault (List Char)) :=
  match text with
  | '[' :: rest =>
      some <|
        if rest.getLast? = some ']' then
          match eightParts? rest.dropLast with
          | some numbers => .ok ('[' :: writeEight numbers ++ [']'])
          | none => .error .eightParts
        else .error .eightParts
  | _ => none

/-! ## Hosts by scheme -/

def isControl (char : Char) : Bool := char.toNat < 0x20 || 0x7E < char.toNat

def forbidden : List Char :=
  ['\x00', '\t', '\n', '\r', ' ', '#', '/', ':', '<', '>', '?', '@', '[', '\\', ']', '^', '|']

/-- The host of an address that is no web address. -/
def plainHost (text : List Char) : Except Fault (List Char) :=
  match bracketed? text with
  | some outcome => outcome
  | none =>
      if text.any forbidden.contains then .error .nameCharacter
      else .ok (Percent.encode isControl text)

/-- The value of a number in one of three notations; `some none` when it is too large. -/
def looseNumber? (text : List Char) : Option (Option Nat) :=
  let limited := fun (value : Nat) => if value < 4294967296 then some value else none
  match text with
  | [] => none
  | '0' :: mark :: digits =>
      if mark = 'x' ∨ mark = 'X' then
        if digits.all isHexDigit then some (limited (hexNumber digits)) else none
      else if (mark :: digits).all fun digit => '0' ≤ digit && digit ≤ '7' then
        some (limited ((mark :: digits).foldl (fun number digit => number * 8 + (digit.toNat - 48)) 0))
      else none
  | _ => (Decimal.natural? text).map limited

/-- The pieces of a name between points; a last empty piece does not count. -/
def namePieces (name : List Char) : List (List Char) :=
  let pieces := Text.splitAll '.' name
  if 1 < pieces.length ∧ pieces.getLast? = some [] then pieces.dropLast else pieces

def endsInNumber (name : List Char) : Bool :=
  match (namePieces name).getLast? with
  | none => false
  | some last => (last ≠ [] && last.all Decimal.isDigit) || (looseNumber? last).isSome

def isFourParts (name : List Char) : Bool :=
  match (namePieces name).mapM fun piece => (looseNumber? piece).join with
  | none => false
  | some numbers =>
      numbers.length ≤ 4
        && numbers.dropLast.all (· ≤ 255)
        && numbers.getLast?.getD 0 < Nat.pow 256 (5 - numbers.length)

def checkWebHost (text : List Char) : Except Fault Unit :=
  match bracketed? text with
  | some outcome => outcome.map fun _ => ()
  | none =>
      match Utf8.decode? (Percent.decode (Utf8.encode text)) with
      | none => .error .foreignName
      | some name =>
          let banned := fun (char : Char) =>
            char.toNat < 0x20 || char.toNat = 0x7F || char = '%' || forbidden.contains char
          if name.any banned then .error .foreignName
          else if name = [] then .error .emptyHost
          else if endsInNumber name ∧ ¬ isFourParts name then .error .fourParts
          else .ok ()

end SessionTokens.Address
