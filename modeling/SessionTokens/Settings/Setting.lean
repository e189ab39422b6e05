import SessionTokens.Decimal.Reading
import SessionTokens.Decimal.Shortest
import SessionTokens.Json.Members

/-!
# Settings

A setting is a tree of values as configuration texts hold them.  Unlike JSON it
has infinite numbers and the value that is no number.  A setting is read
exactly, or leniently: a lenient reading converts between kinds of scalars.
-/

namespace SessionTokens

inductive Setting where
  | absent
  | flag (value : Bool)
  | whole (value : Int)
  | decimal (value : Extended64)
  | text (value : String)
  | list (items : List Setting)
  | table (entries : List (String × Setting))

instance : Inhabited Setting := ⟨.absent⟩

abbrev Entries := List (String × Setting)

inductive Strictness where
  | exact
  | lenient
  deriving DecidableEq, Repr

namespace Setting

mutual

def ofJson : Json → Setting
  | .null => .absent
  | .bool value => .flag value
  | .int value => .whole value
  | .float value => .decimal (.finite value)
  | .string value => .text value
  | .array items => .list (ofItems items)
  | .object members => .table (ofMembers members)

def ofItems : List Json → List Setting
  | [] => []
  | item :: rest => ofJson item :: ofItems rest

def ofMembers : Members → Entries
  | [] => []
  | (name, value) :: rest => (name, ofJson value) :: ofMembers rest

end

/-- A text with its ASCII letters in lower case; it is compared with words in ASCII alone. -/
def lower (text : String) : String := String.ofList (text.toList.map Char.toLower)

def onWords : List String := ["true", "on", "yes"]

def offWords : List String := ["false", "off", "no"]

/-- A number without exponent and without a needless point. -/
def plainLayout : Decimal.Layout := ⟨-400, 400, false⟩

def writeDecimal : Extended64 → String
  | .finite number => String.ofList (plainLayout.write number)
  | .infinite false => "inf"
  | .infinite true => "-inf"
  | .notANumber => "NaN"

def isNonZero : Extended64 → Bool
  | .finite number => !number.isZero
  | _ => true

def nearestWord : Extended64 → Nat
  | .finite number => min number.round.toNat Decimal.maxWord64
  | .infinite false => Decimal.maxWord64
  | .infinite true => 0
  | .notANumber => 0

/-- Digits after an optional plus sign, within the range of an unsigned word. -/
def readWord? (text : List Char) : Option Nat :=
  let run :=
    match text with
    | '+' :: rest => rest
    | _ => text
  match Decimal.natural? run with
  | some value => if value ≤ Decimal.maxWord64 then some value else none
  | none => none

def flag? : Strictness → Setting → Option Bool
  | _, .flag value => some value
  | .lenient, .whole value => some (value ≠ 0)
  | .lenient, .decimal value => some (isNonZero value)
  | .lenient, .text value =>
      let word := lower value
      if word = "1" ∨ word ∈ onWords then some true
      else if word = "0" ∨ word ∈ offWords then some false
      else none
  | _, _ => none

def natural? : Strictness → Setting → Option Nat
  | _, .whole value => if 0 ≤ value ∧ value ≤ Decimal.maxWord64 then some value.toNat else none
  | .lenient, .flag value => some value.toNat
  | .lenient, .decimal value => some (nearestWord value)
  | .lenient, .text value =>
      let word := lower value
      if word ∈ onWords then some 1
      else if word ∈ offWords then some 0
      else readWord? value.toList
  | _, _ => none

/-- A number in the range of a signed word; never converted. -/
def integer? : Setting → Option Int
  | .whole value =>
      if Decimal.minInt64 ≤ value ∧ value ≤ Decimal.maxInt64 then some value else none
  | _ => none

def text? : Strictness → Setting → Option String
  | _, .text value => some value
  | .lenient, .flag value => some (if value then "true" else "false")
  | .lenient, .whole value =>
      some (String.ofList
        ((if value < 0 then ['-'] else []) ++ Decimal.digits value.natAbs))
  | .lenient, .decimal value => some (writeDecimal value)
  | _, _ => none

def optional? {α : Type} (read : Setting → Option α) : Setting → Option (Option α)
  | .absent => some none
  | value => (read value).map some

/--
One of several names: the name itself, or a table with that name alone; an
exact reading wants nothing under it.
-/
def choice? {α : Type} (named : String → Option α) (strictness : Strictness) : Setting → Option α
  | .text name => named name
  | .table [(name, .absent)] => named name
  | .table [(name, _)] => if strictness = .lenient then named name else none
  | _ => none

/--
The entries of a section.  A list stands for the values of the section's fields
in their order; an exact reading wants no further values.
-/
def section? (fields : List String) (strictness : Strictness) : Setting → Option Entries
  | .table entries => some entries
  | .list items =>
      if strictness = .exact ∧ fields.length < items.length then none
      else some (fields.zip items)
  | _ => none

/-- The field of a section; a missing one has its default. -/
def field? {α : Type} (entries : Entries) (name : String) (read : Setting → Option α)
    (default : α) : Option α :=
  match entries.lookup name with
  | none => some default
  | some value => read value

end Setting

end SessionTokens
