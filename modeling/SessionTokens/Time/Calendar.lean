import SessionTokens.Decimal.Reading
import SessionTokens.Json.Members
import SessionTokens.Text.Split
import SessionTokens.Time.Instant

/-!
# Calendar text of instants

Instants are written as date and time in UTC, with no fraction or three, six or
nine decimals.  Reading is more lenient: numbers may have one digit, blanks may
surround them, and the time may be given at an offset from UTC.

As values, spans and instants are whole seconds alone, or seconds and nanoseconds;
the ends of the calendar have names.
-/

namespace SessionTokens

namespace Calendar

/-- A day of the proleptic Gregorian calendar. -/
structure Date where
  year : Int
  month : Nat
  day : Nat
  deriving DecidableEq, Repr

def isLeapYear (year : Int) : Bool :=
  year % 4 = 0 && (year % 100 ≠ 0 || year % 400 = 0)

def daysInMonth (year : Int) (month : Nat) : Nat :=
  match month with
  | 2 => if isLeapYear year then 29 else 28
  | 4 | 6 | 9 | 11 => 30
  | _ => 31

/--
Days from 1970-01-01 to a date.  Years are counted from March, so that the
extra day of a leap year comes last.
-/
def Date.toDays (date : Date) : Int :=
  let year := if date.month ≤ 2 then date.year - 1 else date.year
  let era := year / 400
  let yearOfEra := year % 400
  let monthFromMarch : Int := (date.month + 9) % 12
  let dayOfYear := (153 * monthFromMarch + 2) / 5 + date.day - 1
  let dayOfEra := yearOfEra * 365 + yearOfEra / 4 - yearOfEra / 100 + dayOfYear
  era * 146097 + dayOfEra - 719468

def Date.ofDays (days : Int) : Date :=
  let shifted := days + 719468
  let era := shifted / 146097
  let dayOfEra := shifted % 146097
  let yearOfEra := (dayOfEra - dayOfEra / 1460 + dayOfEra / 36524 - dayOfEra / 146096) / 365
  let dayOfYear := dayOfEra - (365 * yearOfEra + yearOfEra / 4 - yearOfEra / 100)
  let monthFromMarch := (5 * dayOfYear + 2) / 153
  let day := dayOfYear - (153 * monthFromMarch + 2) / 5 + 1
  let month := if monthFromMarch < 10 then monthFromMarch + 3 else monthFromMarch - 9
  let year := yearOfEra + era * 400
  ⟨if month ≤ 2 then year + 1 else year, month.toNat, day.toNat⟩

/-- A number with leading zeros up to a width. -/
def padded (width number : Nat) : List Char :=
  let text := Decimal.digits number
  List.replicate (width - text.length) '0' ++ text

/-- A year: four digits from 0 to 9999, a sign before all others. -/
def writeYear (year : Int) : List Char :=
  if 0 ≤ year ∧ year ≤ 9999 then padded 4 year.toNat
  else (if year < 0 then '-' else '+') :: padded 4 year.natAbs

/-- The decimals of a second: none, three, six or nine. -/
def writeFraction (nanos : Nat) : List Char :=
  if nanos = 0 then []
  else if nanos % 1000000 = 0 then '.' :: padded 3 (nanos / 1000000)
  else if nanos % 1000 = 0 then '.' :: padded 6 (nanos / 1000)
  else '.' :: padded 9 nanos

/-- Date and time of an instant in UTC; an added second has the number 60. -/
def write (instant : Instant) : String :=
  let date := Date.ofDays (instant.seconds / 86400)
  let time := instant.secondOfDay.toNat
  let (second, nanos) :=
    if Span.nanosPerSecond ≤ instant.nanos then
      (time % 60 + 1, instant.nanos - Span.nanosPerSecond)
    else (time % 60, instant.nanos)
  String.ofList <|
    writeYear date.year ++ '-' :: padded 2 date.month ++ '-' :: padded 2 date.day
      ++ 'T' :: padded 2 (time / 3600) ++ ':' :: padded 2 (time / 60 % 60)
      ++ ':' :: padded 2 second ++ writeFraction nanos ++ ['Z']

/-- A number of one digit up to a most number of digits, blanks before it skipped. -/
def readNumber (most : Nat) (text : List Char) : Option (Nat × List Char) :=
  let text := Text.trimStartBy Text.isBlank text
  let run := (text.takeWhile Decimal.isDigit).take most
  if run.isEmpty then none else some (Decimal.ofDigits 0 run, text.drop run.length)

/-- A year: up to four digits, or any number of digits after a sign. -/
def readYear (text : List Char) : Option (Int × List Char) :=
  let text := Text.trimStartBy Text.isBlank text
  match text with
  | '-' :: rest =>
      if (rest.head?.map Decimal.isDigit).getD false then
        (readNumber rest.length rest).map fun (year, rest) => (-(year : Int), rest)
      else none
  | '+' :: rest =>
      if (rest.head?.map Decimal.isDigit).getD false then
        (readNumber rest.length rest).map fun (year, rest) => ((year : Int), rest)
      else none
  | _ => (readNumber 4 text).map fun (year, rest) => ((year : Int), rest)

/-- A mark, blanks before it skipped. -/
def readMark (mark : Char) (text : List Char) : Option (List Char) :=
  match Text.trimStartBy Text.isBlank text with
  | char :: rest => if char = mark then some rest else none
  | [] => none

/-- The decimals of a second as nanoseconds; digits beyond the ninth are dropped. -/
def readFraction (text : List Char) : Option (Nat × List Char) :=
  match text with
  | '.' :: rest =>
      let run := rest.takeWhile Decimal.isDigit
      if run.isEmpty then none
      else
        let kept := run.take 9
        some (Decimal.ofDigits 0 kept * Nat.pow 10 (9 - kept.length), rest.drop run.length)
  | _ => some (0, text)

/-- Two digits, the first of them at most a bound. -/
def readPair (bound : Char) : List Char → Option (Nat × List Char)
  | high :: low :: rest =>
      if '0' ≤ high ∧ high ≤ bound ∧ Decimal.isDigit low then
        some ((high.toNat - 48) * 10 + (low.toNat - 48), rest)
      else none
  | _ => none

/-- An offset from UTC in seconds: `Z`, `UTC`, or signed hours and minutes. -/
def readOffset (text : List Char) : Option (Int × List Char) :=
  if Decimal.sameLetters (text.take 3) ['U', 'T', 'C'] then some (0, text.drop 3)
  else
    match text with
    | [] => none
    | sign :: rest =>
        if sign = 'Z' ∨ sign = 'z' then some (0, rest)
        else if sign = '+' ∨ sign = '-' ∨ sign = '\u2212' then do
          let (hours, rest) ← readPair '9' rest
          let rest := rest.dropWhile fun char => char = ':' || Text.isBlank char
          let (minutes, rest) ← readPair '5' rest
          let seconds := hours * 3600 + minutes * 60
          if seconds < 86400 then
            return (if sign = '+' then (seconds : Int) else -seconds, rest)
          else none
        else none

def read? (text : String) : Option Instant := do
  let (year, rest) ← readYear text.toList
  let rest ← readMark '-' rest
  let (month, rest) ← readNumber 2 rest
  let rest ← readMark '-' rest
  let (day, rest) ← readNumber 2 rest
  let rest ←
    match rest with
    | mark :: rest => if mark = 'T' ∨ mark = 't' ∨ mark = ' ' then some rest else none
    | [] => none
  let (hour, rest) ← readNumber 2 rest
  let rest ← readMark ':' rest
  let (minute, rest) ← readNumber 2 rest
  let rest ← readMark ':' rest
  let (second, rest) ← readNumber 2 rest
  let (nanos, rest) ← readFraction rest
  let (offset, rest) ← readOffset (Text.trimStartBy Text.isBlank rest)
  let date : Date := ⟨year, month, day⟩
  let inRange := 1 ≤ month ∧ month ≤ 12 ∧ 1 ≤ day ∧ day ≤ daysInMonth year month
    ∧ hour ≤ 23 ∧ minute ≤ 59 ∧ second ≤ 60 ∧ -262143 ≤ year ∧ year ≤ 262142
  if inRange ∧ (Text.trimStartBy Text.isBlank rest).isEmpty then
    let (second, nanos) := if second = 60 then (59, nanos + Span.nanosPerSecond) else (second, nanos)
    let seconds := date.toDays * 86400 + hour * 3600 + minute * 60 + second - offset
    let instant : Instant := ⟨seconds, nanos⟩
    if Instant.first.seconds ≤ seconds ∧ seconds ≤ Instant.last.seconds then some instant else none
  else none

end Calendar

/-! ## Times as values -/

/-- Seconds and nanoseconds in the members of an object; no nanoseconds count as zero. -/
def Json.timeParts? (value : Json) : Option (Int × Nat) := do
  let members ← value.asObject?
  match Members.get? members "secs", (Members.get? members "nanos").getD (.int 0) with
  | some (.int seconds), .int nanos =>
      if 0 ≤ nanos then some (seconds, nanos.toNat) else none
  | _, _ => none

def Span.toParts (span : Span) : Json :=
  .object [("secs", .int span.seconds), ("nanos", .int span.subsecond)]

def Span.ofJson? (value : Json) : Option Span := do
  let (seconds, nanos) ←
    match value with
    | .int seconds => some (seconds, 0)
    | value => value.timeParts?
  if 0 ≤ seconds then some (.ofParts seconds.toNat nanos) else none

def Instant.toJson (instant : Instant) : Json :=
  .object [("secs", .int instant.seconds), ("nanos", .int instant.nanos)]

def Instant.ofJson? (value : Json) : Option Instant :=
  match value with
  | .int seconds => some (.ofSeconds seconds)
  | .string "max" => some .last
  | .string "min" => some .first
  | value => value.timeParts?.map fun (seconds, nanos) => ⟨seconds, nanos⟩

end SessionTokens
