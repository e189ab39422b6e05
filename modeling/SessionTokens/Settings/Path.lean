import SessionTokens.Settings.Setting
import SessionTokens.Text.Split

/-!
# Paths into settings

A path names a setting inside others: names between points, and numbers of list
items between brackets.  Setting a value makes missing tables and items on the
way; a table is merged into the table that is already there.
-/

namespace SessionTokens

inductive PathStep where
  | entry (name : String)
  /-- An item by its number; a negative number counts from the end. -/
  | item (index : Int)
  deriving DecidableEq, Repr

namespace Setting

def inPathName (char : Char) : Bool :=
  ('a' ≤ char && char ≤ 'z') || ('A' ≤ char && char ≤ 'Z') || Decimal.isDigit char
    || char = '_' || char = '-'

def readPathName? (text : List Char) : Option (String × List Char) :=
  let name := text.takeWhile inPathName
  if name.isEmpty then none else some (String.ofList name, text.drop name.length)

/-- The number of an item between brackets, blanks around it. -/
def readIndex? (text : List Char) : Option Int :=
  match Text.trimBy (fun char => char = ' ' || char = '\t') text with
  | '-' :: digits => (Decimal.natural? digits).map fun number => -(number : Int)
  | digits => (Decimal.natural? digits).map fun number => (number : Int)

def readSteps : (fuel : Nat) → List Char → Option (List PathStep)
  | _, [] => some []
  | 0, _ => none
  | fuel + 1, '.' :: rest => do
      let (name, rest) ← readPathName? rest
      let steps ← readSteps fuel rest
      return .entry name :: steps
  | fuel + 1, '[' :: rest => do
      let (inside, rest) ← Text.splitFirst ']' rest
      let index ← readIndex? inside
      let steps ← readSteps fuel rest
      return .item index :: steps
  | _, _ => none

/-- The path of a name; a name that is no path stands for itself. -/
def readPath (name : String) : List PathStep :=
  let path := do
    let (first, rest) ← readPathName? name.toList
    let steps ← readSteps rest.length rest
    return PathStep.entry first :: steps
  path.getD [.entry name]

/-- Entries with a changed value under a name; a missing value starts out absent. -/
def changeEntry (change : Setting → Setting) (name : String) : Entries → Entries
  | [] => [(name, change .absent)]
  | (other, value) :: rest =>
      if other = name then (other, change value) :: rest
      else (other, value) :: changeEntry change name rest

/-- Items with a changed item; missing items are absent. -/
def changeItem (change : Setting → Setting) (index : Int) (items : List Setting) : List Setting :=
  let place := if 0 ≤ index then index else items.length + index
  if place < 0 then
    change .absent :: (List.replicate (place.natAbs - 1) .absent ++ items)
  else
    let filled := items ++ List.replicate (place.toNat + 1 - items.length) .absent
    filled.modify place.toNat change

/-- The entries of a table; nothing else has any. -/
def entries : Setting → Entries
  | .table entries => entries
  | _ => []

def items : Setting → List Setting
  | .list items => items
  | _ => []

def changeAt (change : Setting → Setting) : List PathStep → Setting → Setting
  | [], setting => change setting
  | .entry name :: rest, setting =>
      .table (changeEntry (changeAt change rest) name setting.entries)
  | .item index :: rest, setting =>
      .list (changeItem (changeAt change rest) index setting.items)

mutual

/-- A value put over another: tables are merged, everything else replaces. -/
def merge (setting : Setting) : Setting → Setting
  | .table entries => .table (mergeEntries setting.entries entries)
  | value => value

def mergeEntries (entries : Entries) : Entries → Entries
  | [] => entries
  | (name, value) :: rest =>
      mergeEntries (changeEntry (fun setting => merge setting value) name entries) rest

end

def put (setting : Setting) (name : String) (value : Setting) : Setting :=
  changeAt (fun setting => merge setting value) (readPath name) setting

def putAll (setting : Setting) (entries : Entries) : Setting :=
  entries.foldl (fun setting entry => setting.put entry.1 entry.2) setting

end Setting

end SessionTokens
