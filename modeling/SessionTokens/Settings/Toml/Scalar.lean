import SessionTokens.Settings.Setting
import SessionTokens.Settings.Toml.Text
import SessionTokens.Text.Split
import SessionTokens.Time.Calendar

/-!
# Scalars in TOML

Numbers, truth values, dates and times.  A date or a time is kept as text in
its shortest form.
-/

namespace SessionTokens.Toml

/-- Digits with single underscores between them, the underscores dropped. -/
def grouped? (isDigit : Char → Bool) (text : List Char) : Option (List Char) :=
  if (Text.splitAll '_' text).all fun group => group ≠ [] && group.all isDigit then
    some (text.filter (· ≠ '_'))
  else none

def wholeDigits? (text : List Char) : Option (List Char) := do
  let digits ← grouped? Decimal.isDigit text
  if digits.head? = some '0' ∧ digits.length ≠ 1 then none else return digits

def based? (text : List Char) : Option Nat :=
  let number := fun (base : Nat) (digits : List Char) =>
    digits.foldl (fun number digit => number * base + (Bytes.hexValue? digit).getD 0) 0
  match text with
  | '0' :: 'x' :: digits =>
      (grouped? (fun digit => (Bytes.hexValue? digit).isSome) digits).map (number 16)
  | '0' :: 'o' :: digits => (grouped? (fun digit => '0' ≤ digit ∧ digit ≤ '7') digits).map (number 8)
  | '0' :: 'b' :: digits => (grouped? (fun digit => digit = '0' || digit = '1') digits).map (number 2)
  | _ => none

def whole? (text : List Char) : Option Int := do
  let value ←
    match based? text with
    | some number => some (number : Int)
    | none =>
        let (negative, rest) := Decimal.splitSign text
        (wholeDigits? rest).map fun digits => Binary64.signed negative (Decimal.ofDigits 0 digits)
  if Decimal.minInt64 ≤ value ∧ value ≤ Decimal.maxInt64 then return value else none

def power? (text : List Char) : Option (List Char) :=
  let (negative, rest) := Decimal.splitSign text
  (grouped? Decimal.isDigit rest).map fun digits => if negative then '-' :: digits else digits

/-- The text of a number with a fraction or an exponent, underscores dropped. -/
def fractional? (text : List Char) : Option (List Char) := do
  let whole := text.takeWhile fun char => char ≠ '.' && char ≠ 'e' && char ≠ 'E'
  let digits ← wholeDigits? whole
  match text.drop whole.length with
  | '.' :: rest =>
      let fraction := rest.takeWhile fun char => char ≠ 'e' && char ≠ 'E'
      let decimals ← grouped? Decimal.isDigit fraction
      match rest.drop fraction.length with
      | [] => return digits ++ '.' :: decimals
      | _ :: exponent => return digits ++ '.' :: decimals ++ 'e' :: (← power? exponent)
  | _ :: exponent => return digits ++ 'e' :: (← power? exponent)
  | [] => none

/-- A number with a fraction, an infinity, or the value that is no number. -/
def decimal? (text : List Char) : Option Extended64 :=
  let (negative, rest) := Decimal.splitSign text
  if rest = "inf".toList then some (.infinite negative)
  else if rest = "nan".toList then some .notANumber
  else
    match (fractional? rest).bind fun digits =>
        Decimal.number? (if negative then '-' :: digits else digits) with
    | some (.infinite false) => none
    | value => value

/-! ## Dates and times -/

def fixed? (count : Nat) (text : List Char) : Option Nat :=
  if text.length = count then Decimal.natural? text else none

def date? (text : List Char) : Option (List Char) := do
  match Text.splitAll '-' text with
  | [yearText, monthText, dayText] =>
      let year ← fixed? 4 yearText
      let month ← fixed? 2 monthText
      let day ← fixed? 2 dayText
      if 1 ≤ month ∧ month ≤ 12 ∧ 1 ≤ day ∧ day ≤ Calendar.daysInMonth year month then
        return text
      else none
  | _ => none

def second? (text : List Char) : Option (List Char) := do
  let whole := text.take 2
  let second ← fixed? 2 whole
  if 60 < second then none
  else
    match text.drop 2 with
    | [] => return whole
    | '.' :: decimals =>
        if decimals ≠ [] ∧ decimals.all Decimal.isDigit then
          let kept := Text.trimEndBy (· = '0') (decimals.take 9)
          return if kept = [] then whole else whole ++ '.' :: kept
        else none
    | _ => none

def time? (text : List Char) : Option (List Char) := do
  let (hourText, minuteText, second) ←
    match Text.splitAll ':' text with
    | [hourText, minuteText, secondText] => some (hourText, minuteText, ← second? secondText)
    | [hourText, minuteText] => some (hourText, minuteText, ['0', '0'])
    | _ => none
  let hour ← fixed? 2 hourText
  let minute ← fixed? 2 minuteText
  if hour ≤ 23 ∧ minute ≤ 59 then return hourText ++ ':' :: minuteText ++ ':' :: second
  else none

def offset? (text : List Char) : Option (List Char) := do
  match text with
  | ['Z'] | ['z'] => return ['Z']
  | sign :: rest =>
      match Text.splitAll ':' rest with
      | [hourText, minuteText] =>
          let hour ← fixed? 2 hourText
          let minute ← fixed? 2 minuteText
          if hour ≤ 23 ∧ minute ≤ 59 then
            let sign := if hour = 0 ∧ minute = 0 then '+' else sign
            return sign :: hourText ++ ':' :: minuteText
          else none
      | _ => none
  | [] => none

def timeWithOffset? (text : List Char) : Option (List Char) :=
  let isMark := fun (char : Char) => char = 'Z' || char = 'z' || char = '+' || char = '-'
  let clock := text.takeWhile fun char => !isMark char
  match text.drop clock.length with
  | [] => time? clock
  | offset => do return (← time? clock) ++ (← offset? offset)

def moment? (text : List Char) : Option (List Char) := do
  match date? (text.take 10) with
  | none => time? text
  | some date =>
      match text.drop 10 with
      | [] => return date
      | mark :: rest =>
          if mark = 'T' ∨ mark = 't' ∨ mark = ' ' then
            return date ++ 'T' :: (← timeWithOffset? rest)
          else none

/-! ## Bare words -/

def inWord (char : Char) : Bool := char.isAlphanum || ['+', '-', '_', '.', ':'].contains char

/-- A bare word at the front, a blank inside it when a time follows a date, and the rest. -/
def splitWord (text : List Char) : List Char × List Char :=
  let word := text.takeWhile inWord
  let rest := text.drop word.length
  match rest with
  | ' ' :: first :: after =>
      if (date? word).isSome ∧ Decimal.isDigit first then
        let time := (first :: after).takeWhile inWord
        (word ++ ' ' :: time, (first :: after).drop time.length)
      else (word, rest)
  | _ => (word, rest)

def word? (word : List Char) : Option Setting :=
  if word = "true".toList then some (.flag true)
  else if word = "false".toList then some (.flag false)
  else
    match whole? word with
    | some value => some (.whole value)
    | none =>
        match decimal? word with
        | some value => some (.decimal value)
        | none => (moment? word).map fun text => .text (String.ofList text)

end SessionTokens.Toml
