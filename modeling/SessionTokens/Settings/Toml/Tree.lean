import SessionTokens.Settings.Setting

/-!
# Trees of tables in TOML

A table may be written in several places, but in one way only: under one
header of its own, or through dotted names.  A tree keeps for each table how it
came to be, so that a second definition is noticed.
-/

namespace SessionTokens.Toml

inductive TableOrigin where
  /-- It has a header of its own. -/
  | headed
  /-- It lies on the way to a table with a header. -/
  | implied
  /-- It lies on the way to a value with a dotted name. -/
  | dotted
  deriving DecidableEq, Repr

/-- A value, a table, or a list of tables with headers. -/
inductive Node where
  | value (value : Setting)
  | table (origin : TableOrigin) (entries : List (String × Node))
  | tables (items : List (List (String × Node)))

abbrev Nodes := List (String × Node)

abbrev Change := TableOrigin → Nodes → Option (TableOrigin × Nodes)

def replaceNode (entries : Nodes) (name : String) (node : Node) : Nodes :=
  entries.map fun entry => if entry.1 = name then (name, node) else entry

/--
Makes a change at the end of a path.  Missing tables are made on the way; of a
list of tables the last one is meant.  A path of dotted names does not enter a
table with a header.
-/
def changeAt (dotted : Bool) (change : Change) : (path : List String) → Change
  | [], origin, entries => change origin entries
  | name :: rest, origin, entries =>
      match entries.lookup name with
      | none => do
          let start := if dotted then TableOrigin.dotted else .implied
          let (made, inner) ← changeAt dotted change rest start []
          return (origin, entries ++ [(name, .table made inner)])
      | some (.table inside inner) => do
          if dotted ∧ inside = .headed then none
          else
            let (inside, inner) ← changeAt dotted change rest inside inner
            return (origin, replaceNode entries name (.table inside inner))
      | some (.tables items) => do
          let last ← items.getLast?
          let (_, inner) ← changeAt dotted change rest .headed last
          return (origin, replaceNode entries name (.tables (items.dropLast ++ [inner])))
      | some (.value _) => none

/-- Adds an entry; `direct` says that no dotted name leads to the table. -/
def addEntry (direct : Bool) (name : String) (node : Node) : Change := fun origin entries =>
  if decide (origin = .dotted) = direct ∨ (entries.lookup name).isSome then none
  else some (origin, entries ++ [(name, node)])

def addValue (path : List String) (value : Setting) : Change := fun origin entries => do
  let name ← path.getLast?
  let tables := path.dropLast
  changeAt true (addEntry tables.isEmpty name (.value value)) tables origin entries

def openTable (name : String) : Change := fun origin entries =>
  match entries.lookup name with
  | none => some (origin, entries ++ [(name, .table .headed [])])
  | some (.table .implied inner) => some (origin, replaceNode entries name (.table .headed inner))
  | some _ => none

def openItem (name : String) : Change := fun origin entries =>
  match entries.lookup name with
  | none => some (origin, entries ++ [(name, .tables [[]])])
  | some (.tables items) => some (origin, replaceNode entries name (.tables (items ++ [[]])))
  | some _ => none

mutual

def Node.toSetting : Node → Setting
  | .value value => value
  | .table _ entries => .table (settingsOf entries)
  | .tables items => .list (settingsOfItems items)

def settingsOf : Nodes → Entries
  | [] => []
  | (name, node) :: rest => (name, node.toSetting) :: settingsOf rest

def settingsOfItems : List Nodes → List Setting
  | [] => []
  | entries :: rest => .table (settingsOf entries) :: settingsOfItems rest

end

end SessionTokens.Toml
