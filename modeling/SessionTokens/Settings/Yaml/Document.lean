import SessionTokens.Settings.Yaml.Scalar
import SessionTokens.Settings.Yaml.Text
import SessionTokens.Text.Split

/-!
# YAML documents

Indentation shows which lines belong together: a node inside another starts in
a column to the right of it.  Inside brackets and braces indentation does not
count.
-/

namespace SessionTokens.Yaml

/-- A place in a text, and the nodes that have been given a name so far. -/
structure Place where
  rest : List Char
  column : Nat
  anchors : Entries := []

def Place.after (place : Place) (count : Nat) : Place :=
  { place with rest := place.rest.drop count, column := place.column + count }

/-- The place at a later rest of the text; `text` is what was read. -/
def Place.moved (place : Place) (rest : List Char) : Place :=
  let text := place.rest.take (place.rest.length - rest.length)
  let last := text.reverse.takeWhile (· ≠ '\n')
  let column := if text.contains '\n' then last.length else place.column + text.length
  { place with rest, column }

def Place.skipBlank (place : Place) : Place :=
  place.after (place.rest.takeWhile isBlank).length

/-- What was seen on the way to the next token. -/
structure Gap where
  /-- Whether a line has ended, or the place was at the start of one. -/
  crossed : Bool := false
  /-- Whether a blank or a line end is just before. -/
  spaced : Bool := false
  /-- Whether a tab stands in the indentation. -/
  tabbed : Bool := false

def skipGap (gap : Gap) (column : Nat) : (fuel : Nat) → List Char → Gap × Nat × List Char
  | 0, text => (gap, column, text)
  | _, [] => (gap, column, [])
  | fuel + 1, char :: rest =>
      if char = '\n' then skipGap ⟨true, true, false⟩ 0 fuel rest
      else if char = ' ' then skipGap { gap with spaced := true } (column + 1) fuel rest
      else if char = '\t' then
        skipGap { gap with spaced := true, tabbed := gap.crossed } (column + 1) fuel rest
      else if char = '#' ∧ (gap.spaced ∨ column = 0) then
        skipGap { gap with spaced := false } column fuel (rest.dropWhile (· ≠ '\n'))
      else (gap, column, char :: rest)

def Place.next (place : Place) : Gap × Place :=
  let start : Gap := { crossed := place.column = 0 }
  let (gap, column, rest) := skipGap start place.column (place.rest.length + 1) place.rest
  (gap, { place with rest, column })

def Place.isMarker (place : Place) (mark : Char) : Bool :=
  place.column = 0 && [mark, mark, mark].isPrefixOf place.rest && startsBlank (place.rest.drop 3)

def Place.isEnd (place : Place) : Bool :=
  place.rest.isEmpty || place.isMarker '-' || place.isMarker '.'

def flowMarks : List Char := [',', '[', ']', '\x7b', '\x7d']

def indicators : List Char :=
  flowMarks ++ ['#', '&', '*', '!', '|', '>', '\'', '"', '%', '@', Char.ofNat 0x60]

/-- Whether a colon before this text ends a key. -/
def endsKey (flow : Bool) (text : List Char) : Bool :=
  startsBlank text || (flow && (text.head?.map flowMarks.contains).getD false)

def startsPlain (flow : Bool) : List Char → Bool
  | [] => false
  | char :: rest =>
      if char = '-' ∨ char = '?' ∨ char = ':' then !endsKey flow rest
      else !startsBlank [char] && !indicators.contains char

def plainRun (flow : Bool) : (spaced : Bool) → List Char → List Char
  | _, [] => []
  | spaced, char :: rest =>
      if char = '\n' ∨ (char = '#' ∧ spaced) ∨ (char = ':' ∧ endsKey flow rest)
        ∨ (flow ∧ flowMarks.contains char) then []
      else char :: plainRun flow (isBlank char) rest

def plainLine (flow : Bool) (text : List Char) : List Char :=
  Text.trimEndBy isBlank (plainRun flow false text)

/-- The lines that continue a plain text, inside an indentation. -/
def plainMore (flow : Bool) (outer : Option Nat) : (fuel : Nat) → Place → List Char × Place
  | 0, place => ([], place)
  | fuel + 1, place =>
      if ¬ atLineEnd place.rest then ([], place)
      else
        let (ends, rest) := skipLines place.rest
        let next := place.moved rest
        let inside := flow || (outer.map fun outer => decide (outer < next.column)).getD true
        let line := plainLine flow rest
        if next.isEnd ∨ ¬ inside ∨ rest.head? = some '#' ∨ line = [] then ([], place)
        else
          let (chars, place) := plainMore flow outer fuel (next.after line.length)
          (joint ends ++ line ++ chars, place)

def plain (flow : Bool) (outer : Option Nat) (place : Place) : List Char × Place :=
  let line := plainLine flow place.rest
  let (chars, place) := plainMore flow outer place.rest.length (place.after line.length)
  (line ++ chars, place)

def markName (place : Place) : List Char :=
  place.rest.takeWhile fun char => !isBlank char && char ≠ '\n' && !flowMarks.contains char

/-- An anchor and a tag before a node, and the place after them. -/
def properties : (fuel : Nat) → Place → Option String × Option String × Place
  | 0, place => (none, none, place)
  | fuel + 1, place =>
      match place.rest with
      | '&' :: _ =>
          let name := markName place
          let (_, tag, place) := properties fuel (place.after name.length).skipBlank
          (some (String.ofList (name.drop 1)), tag, place)
      | '!' :: _ =>
          let name := markName place
          let (anchor, _, place) := properties fuel (place.after name.length).skipBlank
          (anchor, some (String.ofList name), place)
      | _ => (none, none, place)

abbrev Reader := Place → Option (Setting × Place)

def keep (anchor : Option String) (node : Setting) (place : Place) : Place :=
  match anchor with
  | some name => { place with anchors := (name, node) :: place.anchors }
  | none => place

def alias? (place : Place) : Option (Setting × Place) := do
  let name := markName place
  let node ← place.anchors.lookup (String.ofList (name.drop 1))
  return (node, place.after name.length)

def quotedNode? (place : Place) : Option (Setting × Place) :=
  (quoted? place.rest).map fun (chars, rest) => (.text (String.ofList chars), place.moved rest)

def plainValue? (tag : Option String) (text : List Char) : Option Setting :=
  match tag with
  | some tag => resolveTagged? tag text
  | none => resolve? text

/-! ## Nodes between brackets -/

def nameOf? : Setting → Option String
  | .text name => some name
  | .flag value => some (if value then "true" else "false")
  | .whole value =>
      some (String.ofList ((if value < 0 then ['-'] else []) ++ Decimal.digits value.natAbs))
  | .decimal value => some (Setting.writeDecimal value)
  | _ => none

/-- The value after a colon, when there is a colon. -/
def flowValue? (node : Reader) (afterQuote : Bool) (place : Place) :
    Option (Option Setting × Place) :=
  match place.rest with
  | ':' :: rest =>
      if afterQuote ∨ endsKey true rest then
        let (_, next) := (place.after 1).next
        match next.rest with
        | ',' :: _ | ']' :: _ | '\x7d' :: _ => some (some .absent, next)
        | _ => (node next).map fun (value, place) => (some value, place)
      else none
  | _ => some (none, place)

def startsQuote (place : Place) : Bool :=
  place.rest.head? = some '"' || place.rest.head? = some '\''

def flowItems (node : Reader) : (fuel : Nat) → Place → Option (List Setting × Place)
  | 0, _ => none
  | fuel + 1, place => do
      let (_, place) := place.next
      match place.rest with
      | ']' :: _ => return ([], place.after 1)
      | _ =>
          let (first, after) ← node place
          let (value, after) ← flowValue? node (startsQuote place) after.next.2
          let item ←
            match value with
            | some value => (nameOf? first).map fun name => Setting.table [(name, value)]
            | none => some first
          let (_, after) := after.next
          match after.rest with
          | ']' :: _ => return ([item], after.after 1)
          | ',' :: _ => do
              let (items, place) ← flowItems node fuel (after.after 1)
              return (item :: items, place)
          | _ => none

/-- Entries up to a closing brace; no name may occur twice. -/
def flowEntries (node : Reader) : (fuel : Nat) → Place → Option (Entries × Place)
  | 0, _ => none
  | fuel + 1, place => do
      let (_, place) := place.next
      match place.rest with
      | '\x7d' :: _ => return ([], place.after 1)
      | _ =>
          let (key, after) ← node place
          let name ← nameOf? key
          let (value, after) ← flowValue? node (startsQuote place) after.next.2
          let entry := (name, value.getD .absent)
          let (_, after) := after.next
          match after.rest with
          | '\x7d' :: _ => return ([entry], after.after 1)
          | ',' :: _ => do
              let (entries, place) ← flowEntries node fuel (after.after 1)
              if (entries.lookup name).isSome then none
              else return (entry :: entries, place)
          | _ => none

def flowNode : (depth : Nat) → Reader
  | 0, _ => none
  | depth + 1, place => do
      let (anchor, tag, start) := properties 3 place
      let (_, start) := start.next
      let (node, after) ←
        match start.rest with
        | '[' :: _ =>
            (flowItems (flowNode depth) start.rest.length (start.after 1)).map
              fun (items, place) => (Setting.list items, place)
        | '\x7b' :: _ =>
            (flowEntries (flowNode depth) start.rest.length (start.after 1)).map
              fun (entries, place) => (Setting.table entries, place)
        | '"' :: _ | '\'' :: _ => quotedNode? start
        | '*' :: _ => alias? start
        | _ =>
            if startsPlain true start.rest then
              let (text, after) := plain true none start
              (plainValue? tag text).map fun value => (value, after)
            else none
      return (node, keep anchor node after)

/-! ## Nodes by indentation -/

/-- A key on this line, and the place after its colon. -/
def key? (place : Place) : Option (String × Place) := do
  let (name, place) ←
    if startsQuote place then do
      let (chars, rest) ← quoted? place.rest
      let after := place.moved rest
      if (place.rest.take (place.rest.length - rest.length)).contains '\n' then none
      else some (String.ofList chars, after.skipBlank)
    else if startsPlain false place.rest then do
      let line := plainLine false place.rest
      let name ← keyName? line
      some (name, (place.after line.length).skipBlank)
    else none
  match place.rest with
  | ':' :: rest => if startsBlank rest then return (name, place.after 1) else none
  | _ => none

def startsItem (place : Place) : Bool :=
  match place.rest with
  | '-' :: rest => startsBlank rest
  | _ => false

/-- A reader of nodes inside an indentation; the flag says whether a block may start here. -/
abbrev BlockReader := (outer : Option Nat) → (block : Bool) → Reader

def blockItems (node : BlockReader) (column : Nat) : (fuel : Nat) → Place →
    Option (List Setting × Place)
  | 0, _ => none
  | fuel + 1, place => do
      let (gap, next) := (place.after 1).next
      let (item, after) ←
        if next.isEnd ∨ (gap.crossed ∧ next.column ≤ column) then some (.absent, place.after 1)
        else if gap.tabbed then none
        else node (some column) true next
      let (gap, next) := after.next
      if next.isEnd ∨ next.column < column ∨ (next.column = column ∧ ¬ startsItem next) then
        return ([item], after)
      else if next.column = column ∧ gap.crossed ∧ ¬ gap.tabbed then do
        let (items, place) ← blockItems node column fuel next
        return (item :: items, place)
      else none

/-- The value of a key in a column, from the place after its colon. -/
def blockValue (node : BlockReader) (column : Nat) (place : Place) : Option (Setting × Place) :=
  let (gap, next) := place.next
  if next.isEnd then some (.absent, place)
  else if ¬ gap.crossed then node (some column) false next
  else if gap.tabbed then none
  else if column < next.column then node (some column) true next
  else if next.column = column ∧ startsItem next then
    (blockItems node column next.rest.length next).map fun (items, place) => (.list items, place)
  else some (.absent, place)

/-- The entries of a table in a column; no name may occur twice. -/
def blockEntries (node : BlockReader) (column : Nat) : (fuel : Nat) → Place →
    Option (Entries × Place)
  | 0, _ => none
  | fuel + 1, place => do
      let (name, place) ← key? place
      let (value, after) ← blockValue node column place
      let (gap, next) := after.next
      if next.isEnd ∨ next.column < column then return ([(name, value)], after)
      else if next.column = column ∧ gap.crossed ∧ ¬ gap.tabbed then do
        let (entries, place) ← blockEntries node column fuel next
        if (entries.lookup name).isSome then none else return ((name, value) :: entries, place)
      else none

def blockNode : (depth : Nat) → BlockReader
  | 0, _, _, _ => none
  | depth + 1, outer, block, place => do
      let (anchor, tag, start) := properties 3 place
      let (gap, next) := start.next
      let inside := (outer.map fun outer => decide (outer < next.column)).getD true
      if gap.crossed ∧ (next.isEnd ∨ ¬ inside) then
        return (.absent, keep anchor .absent start)
      let bare := start.column = place.column
      let mayBlock := (block && bare) || gap.crossed
      let start := next
      let (node, after) ←
        match start.rest with
        | '|' :: rest =>
            (blockText false outer rest).map fun (chars, rest) =>
              (Setting.text (String.ofList chars), start.moved rest)
        | '>' :: rest =>
            (blockText true outer rest).map fun (chars, rest) =>
              (Setting.text (String.ofList chars), start.moved rest)
        | _ =>
            if startsItem start then
              if mayBlock then
                (blockItems (blockNode depth) start.column start.rest.length start).map
                  fun (items, place) => (Setting.list items, place)
              else none
            else if mayBlock ∧ (key? start).isSome then
              (blockEntries (blockNode depth) start.column start.rest.length start).map
                fun (entries, place) => (Setting.table entries, place)
            else
              match start.rest with
              | '[' :: _ | '\x7b' :: _ => flowNode start.rest.length start
              | '"' :: _ | '\'' :: _ => quotedNode? start
              | '*' :: _ => alias? start
              | _ =>
                  if startsPlain false start.rest then
                    let (text, after) := plain false outer start
                    (plainValue? tag text).map fun value => (value, after)
                  else none
      return (node, keep anchor node after)

/-! ## Documents -/

/-- Skips the lines of directives, which start with a percent sign. -/
def skipDirectives : (fuel : Nat) → Place → Place
  | 0, place => place
  | fuel + 1, place =>
      let (_, next) := place.next
      if next.column = 0 ∧ next.rest.head? = some '%' then
        skipDirectives fuel (next.moved (next.rest.dropWhile (· ≠ '\n')))
      else next

def isFinished (place : Place) : Bool :=
  let (_, next) := place.next
  if next.isMarker '.' then (next.after 3).next.2.rest.isEmpty else next.rest.isEmpty

/--
The only document of a text; an empty text is an empty table.  Keys are bare or
quoted texts.  An explicit key, with a question mark before it, and an anchor or a
tag on a key are refused, though a reader of the whole language takes them.
-/
def parse? (text : List Char) : Option Entries := do
  let text := unifyLines text
  let start := skipDirectives (text.length + 1) ⟨text, 0, []⟩
  if start.rest.isEmpty then return []
  let marked := start.isMarker '-'
  let (gap, first) := (if marked then start.after 3 else start).next
  if first.isEnd then none
  else
    let (node, after) ← blockNode (text.length + 1) none (!marked || gap.crossed) first
    match node with
    | .table entries => if isFinished after then return entries else none
    | _ => none

end SessionTokens.Yaml
