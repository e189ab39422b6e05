import SessionTokens.Decimal.Reading
import SessionTokens.Decimal.Shortest
import SessionTokens.Json.Basic

/-!
# JSON numbers

Whole numbers within the range of a signed or unsigned 64-bit word stay exact.
Any other number is read in two roundings: the leading digits that fit a word
are rounded first, then multiplied or divided by a rounded power of ten.
-/

namespace SessionTokens.Json

structure Numeral where
  negative : Bool
  whole : List Char
  fraction : Option (List Char)
  exponent : Option Int

/--
Digits taken into a word as long as it does not overflow, with their number and
the digits left over.
-/
def takeWord : Nat → List Char → Nat × Nat × List Char
  | word, [] => (word, 0, [])
  | word, digit :: rest =>
      let next := word * 10 + (digit.toNat - 48)
      if next ≤ Decimal.maxWord64 then
        let (word, count, left) := takeWord next rest
        (word, count + 1, left)
      else (word, 0, digit :: rest)

/-- A power of ten up to `10 ^ 308`, rounded. -/
def powerOfTen (power : Nat) : Binary64 :=
  (Binary64.ofInt (Nat.pow 10 power)).getD (Binary64.zero false)

/--
A number times a power of ten, in steps of at most `10 ^ 308`; `none` when the
result is too large.  A word becomes zero within three downward steps.
-/
def scaleTen : (steps : Nat) → Binary64 → Int → Option Binary64
  | 0, number, _ => some number
  | steps + 1, number, power =>
      if power.natAbs ≤ 308 then
        if 0 ≤ power then number.mul (powerOfTen power.natAbs)
        else number.div (powerOfTen power.natAbs)
      else if number.isZero then some number
      else if 0 ≤ power then none
      else (number.div (powerOfTen 308)).bind fun next => scaleTen steps next (power + 308)

/-- The floating-point value of a numeral; `none` when it is out of range. -/
def Numeral.float? (numeral : Numeral) : Option Binary64 := do
  let (word, _, dropped) := takeWord 0 numeral.whole
  let (word, places, _) := takeWord word (numeral.fraction.getD [])
  let power := numeral.exponent.getD 0 + dropped.length - places
  let magnitude ← Binary64.ofInt word
  let scaled ← scaleTen 4 magnitude power
  return { scaled with negative := numeral.negative }

def Numeral.value? (numeral : Numeral) : Option Json :=
  let magnitude := Decimal.ofDigits 0 numeral.whole
  let exact :=
    if numeral.negative then 1 ≤ magnitude ∧ -(magnitude : Int) ≥ Decimal.minInt64
    else magnitude ≤ Decimal.maxWord64
  if numeral.fraction.isNone ∧ numeral.exponent.isNone ∧ exact then
    some (.int (Binary64.signed numeral.negative magnitude))
  else numeral.float?.map .float

/-- The power of ten after an exponent mark: an optional sign and digits. -/
def readPower (text : List Char) : Option (Int × List Char) :=
  let (negative, rest) := Decimal.splitSign text
  let run := rest.takeWhile Decimal.isDigit
  if run.isEmpty then none
  else some (Binary64.signed negative (Decimal.ofDigits 0 run), rest.dropWhile Decimal.isDigit)

def readFraction (text : List Char) : Option (Option (List Char) × List Char) :=
  match text with
  | '.' :: rest =>
      let run := rest.takeWhile Decimal.isDigit
      if run.isEmpty then none else some (some run, rest.dropWhile Decimal.isDigit)
  | _ => some (none, text)

def readExponent (text : List Char) : Option (Option Int × List Char) :=
  match text with
  | mark :: rest =>
      if mark = 'e' ∨ mark = 'E' then
        (readPower rest).map fun (power, rest) => (some power, rest)
      else some (none, text)
  | [] => some (none, text)

/-- Reads a number: no leading zeros, digits on both sides of a point. -/
def readNumber (text : List Char) : Option (Json × List Char) := do
  let (negative, rest) :=
    match text with
    | '-' :: rest => (true, rest)
    | _ => (false, text)
  let whole := rest.takeWhile Decimal.isDigit
  let after := rest.dropWhile Decimal.isDigit
  if whole.isEmpty || (whole.head? = some '0' && whole.length > 1) then none
  else
    let (fraction, after) ← readFraction after
    let (exponent, after) ← readExponent after
    let value ← Numeral.value? ⟨negative, whole, fraction, exponent⟩
    return (value, after)

/-- Positional from `0.00001` up to sixteen whole digits, a point always present. -/
def floatLayout : Decimal.Layout := ⟨-5, 15, true⟩

def writeInt (value : Int) : List Char :=
  if value < 0 then '-' :: Decimal.digits value.natAbs else Decimal.digits value.natAbs

end SessionTokens.Json
