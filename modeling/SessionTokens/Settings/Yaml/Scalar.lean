import SessionTokens.Bytes
import SessionTokens.Settings.Setting

/-!
# Scalars in YAML

A plain text stands for nothing, a truth value or a number when it looks like
one.  A tag can ask for a kind; a text that does not suit the tag is nothing.
-/

namespace SessionTokens.Yaml

/-- Digits of a base after an optional sign, in the range of a signed word. -/
def based? (base : Nat) (text : List Char) : Option Int := do
  let (negative, digits) := Decimal.splitSign text
  let values ← digits.mapM Bytes.hexValue?
  if digits = [] ∨ values.any fun value => base ≤ value then none
  else
    let value := Binary64.signed negative
      (values.foldl (fun number value => number * base + value) 0)
    if Decimal.minInt64 ≤ value ∧ value ≤ Decimal.maxInt64 then return value else none

/-- A whole number in a base given by a mark, after a plus sign, or in decimal. -/
def whole? (text : List Char) : Option Int :=
  let marked :=
    match text with
    | '0' :: 'x' :: digits => based? 16 digits
    | '0' :: 'o' :: digits => based? 8 digits
    | '+' :: signed => Decimal.integer? Decimal.minInt64 Decimal.maxInt64 signed
    | _ => none
  match marked with
  | some value => some value
  | none => Decimal.integer? Decimal.minInt64 Decimal.maxInt64 text

/-- The words for infinite numbers and for no number; they cannot be converted. -/
def specialWords : List String :=
  [".inf", ".Inf", ".INF", "+.inf", "+.Inf", "+.INF", "-.inf", "-.Inf", "-.INF", ".nan", ".NaN",
    ".NAN"]

def decimal? (text : List Char) : Option Extended64 :=
  if text.any Decimal.isDigit then Decimal.number? text else none

/-- The value of a plain text; `none` when it is a special number. -/
def resolve? (text : List Char) : Option Setting :=
  let word := String.ofList text
  if word = "~" ∨ word = "null" ∨ word = "" then some .absent
  else if word = "true" then some (.flag true)
  else if word = "false" then some (.flag false)
  else if specialWords.contains word then none
  else
    match whole? text with
    | some value => some (.whole value)
    | none =>
        match decimal? text with
        | some value => some (.decimal value)
        | none => some (.text word)

def resolveTagged? (tag : String) (text : List Char) : Option Setting :=
  let word := String.ofList text
  match tag with
  | "!!bool" =>
      some (if word = "true" then .flag true else if word = "false" then .flag false else .absent)
  | "!!int" =>
      some (((Decimal.integer? Decimal.minInt64 Decimal.maxInt64 text).map .whole).getD .absent)
  | "!!float" =>
      if specialWords.contains word then none else some (((decimal? text).map .decimal).getD .absent)
  | "!!null" => some .absent
  | _ => some (.text word)

def keyName? (text : List Char) : Option String :=
  match resolve? text with
  | some (.flag value) => some (if value then "true" else "false")
  | some (.whole value) =>
      some (String.ofList ((if value < 0 then ['-'] else []) ++ Decimal.digits value.natAbs))
  | some .absent => none
  | _ => some (String.ofList text)

end SessionTokens.Yaml
