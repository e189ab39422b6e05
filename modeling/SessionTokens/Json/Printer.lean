import SessionTokens.Bytes
import SessionTokens.Json.Number

/-!
# JSON text

Writes a value without blanks.  `Escape` says which characters of a text are
written as escapes.
-/

namespace SessionTokens.Json

/-- Four hexadecimal digits of a 16-bit unit, after the escape mark. -/
def writeUnit (unit : Nat) : List Char :=
  ['\\', 'u', Bytes.hexDigit (unit / 4096), Bytes.hexDigit (unit / 256 % 16),
    Bytes.hexDigit (unit / 16 % 16), Bytes.hexDigit (unit % 16)]

abbrev Escape := Char → List Char

/-- Only quotes, backslashes and control characters are escaped. -/
def escapePlain : Escape
  | '"' => ['\\', '"']
  | '\\' => ['\\', '\\']
  | '\x08' => ['\\', 'b']
  | '\x0c' => ['\\', 'f']
  | '\n' => ['\\', 'n']
  | '\r' => ['\\', 'r']
  | '\t' => ['\\', 't']
  | char => if char.toNat < 0x20 then writeUnit char.toNat else [char]

/-- Every character outside ASCII is escaped too, as one or two 16-bit units. -/
def escapeAscii : Escape := fun char =>
  if char.toNat < 0x80 then escapePlain char
  else if char.toNat < 0x10000 then writeUnit char.toNat
  else
    let offset := char.toNat - 0x10000
    writeUnit (0xD800 + offset / 1024) ++ writeUnit (0xDC00 + offset % 1024)

def writeText (escape : Escape) (text : String) : List Char :=
  '"' :: text.toList.flatMap escape ++ ['"']

mutual

def write (escape : Escape) : Json → List Char
  | .null => "null".toList
  | .bool true => "true".toList
  | .bool false => "false".toList
  | .int value => writeInt value
  | .float value => floatLayout.write value
  | .string value => writeText escape value
  | .array items => '[' :: writeItems escape items
  | .object members => '{' :: writeMembers escape members

def writeItems (escape : Escape) : List Json → List Char
  | [] => [']']
  | [item] => write escape item ++ [']']
  | item :: rest => write escape item ++ ',' :: writeItems escape rest

def writeMembers (escape : Escape) : List (String × Json) → List Char
  | [] => ['}']
  | [(name, value)] => writeText escape name ++ ':' :: (write escape value ++ ['}'])
  | (name, value) :: rest =>
      writeText escape name ++ ':' :: (write escape value ++ ',' :: writeMembers escape rest)

end

def render (value : Json) : String := String.ofList (write escapePlain value)

def renderAscii (value : Json) : String := String.ofList (write escapeAscii value)

end SessionTokens.Json
