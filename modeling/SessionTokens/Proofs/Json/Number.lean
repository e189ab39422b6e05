import SessionTokens.Json.Parser
import SessionTokens.Json.Printer

/-!
# Numbers in JSON text read back

A number is spelled as digits, perhaps a point and digits, and perhaps a power
of ten.  Reading takes exactly the spelling off a text that goes on with a
delimiter.  A whole number of a 64-bit word reads back as itself.
-/

namespace SessionTokens

/-! ## Runs of one class of characters -/

def Stops (inClass : Char → Bool) (text : List Char) : Prop :=
  ∀ char, text.head? = some char → inClass char = false

theorem Stops.cons {inClass : Char → Bool} {char : Char} (outside : inClass char = false)
    (text : List Char) : Stops inClass (char :: text) := by
  intro other found
  cases found
  exact outside

theorem takeWhile_append_of_stops {inClass : Char → Bool} {run rest : List Char}
    (inside : ∀ char ∈ run, inClass char = true) (stops : Stops inClass rest) :
    (run ++ rest).takeWhile inClass = run := by
  rw [List.takeWhile_append_of_pos inside]
  cases rest with
  | nil => simp
  | cons char rest => simp [stops char rfl]

theorem dropWhile_append_of_stops {inClass : Char → Bool} {run rest : List Char}
    (inside : ∀ char ∈ run, inClass char = true) (stops : Stops inClass rest) :
    (run ++ rest).dropWhile inClass = rest := by
  rw [List.dropWhile_append_of_pos inside]
  cases rest with
  | nil => rfl
  | cons char rest => simp [stops char rfl]

namespace Decimal

/-! ## Decimal digits -/

theorem isDigit_of_mem_digits {number : Nat} {char : Char} (inside : char ∈ digits number) :
    isDigit char = true := by
  have digit := Nat.isDigit_of_mem_toDigits (by decide) (by decide) inside
  simpa [isDigit, Char.isDigit, Char.le_def, and_comm] using digit

theorem digits_ne_nil (number : Nat) : digits number ≠ [] := Nat.toDigits_ne_nil

/-- Digits read back as the number. -/
theorem ofDigits_digits (number : Nat) : ofDigits 0 (digits number) = number := by
  have whole := Nat.ofDigitChars_ten_toDigits (n := number)
  rw [Nat.ofDigitChars] at whole
  simpa [ofDigits, digits, Nat.mul_comm] using whole

/-- Only zero is written with a leading zero. -/
theorem eq_zero_of_head_digits {number : Nat} (head : (digits number).head? = some '0') :
    number = 0 := by
  induction number using Nat.strongRecOn with
  | ind number ih =>
      rw [digits, Nat.toDigits_eq_if (by decide)] at head
      by_cases small : number < 10
      · have all : ∀ number < 10, number.digitChar = '0' → number = 0 := by decide
        exact all number small (by simpa [small] using head)
      · have zero := ih (number / 10) (by omega) (by
          rw [if_neg small, List.head?_append] at head
          cases digits : (Nat.toDigits 10 (number / 10)).head? with
          | none => exact absurd (List.head?_eq_none_iff.mp digits) Nat.toDigits_ne_nil
          | some char => simpa [Decimal.digits, digits] using head)
        omega

end Decimal

namespace Json

/-! ## Spelled numbers -/

/-- Whether a text ends, or goes on with what may follow a value inside an array or object. -/
def Delimited (text : List Char) : Prop :=
  ∀ char, text.head? = some char → char = ',' ∨ char = ']' ∨ char = '}'

theorem Delimited.nil : Delimited [] := by
  intro char found
  cases found

/-- How a number is spelled: sign, digits, digits after a point, sign and digits of a power. -/
structure Spelling where
  negative : Bool
  whole : List Char
  fraction : Option (List Char) := none
  power : Option (Bool × List Char) := none

def IsRun (run : List Char) : Prop := run ≠ [] ∧ ∀ char ∈ run, Decimal.isDigit char = true

namespace Spelling

def fractionText : Option (List Char) → List Char
  | none => []
  | some run => '.' :: run

def powerText : Option (Bool × List Char) → List Char
  | none => []
  | some (negative, run) => 'e' :: (if negative then '-' else '+') :: run

def unsignedText (spelling : Spelling) : List Char :=
  spelling.whole ++ (fractionText spelling.fraction ++ powerText spelling.power)

def text (spelling : Spelling) : List Char :=
  if spelling.negative then '-' :: spelling.unsignedText else spelling.unsignedText

/-- Every part has a digit. -/
structure Sound (spelling : Spelling) : Prop where
  whole : IsRun spelling.whole
  fraction : ∀ run, spelling.fraction = some run → IsRun run
  power : ∀ negative run, spelling.power = some (negative, run) → IsRun run

def numeral (spelling : Spelling) : Numeral where
  negative := spelling.negative
  whole := spelling.whole
  fraction := spelling.fraction
  exponent := spelling.power.map fun (negative, run) =>
    Binary64.signed negative (Decimal.ofDigits 0 run)

/-- The value that a spelled number reads as: leading zeros are refused. -/
def value? (spelling : Spelling) : Option Json :=
  if spelling.whole.head? = some '0' ∧ 1 < spelling.whole.length then none
  else spelling.numeral.value?

end Spelling

theorem Delimited.stops {inClass : Char → Bool} {text : List Char} (delimited : Delimited text)
    (comma : inClass ',' = false) (bracket : inClass ']' = false) (brace : inClass '}' = false) :
    Stops inClass text := by
  intro char found
  rcases delimited char found with rfl | rfl | rfl
  · exact comma
  · exact bracket
  · exact brace

theorem stops_powerText {power : Option (Bool × List Char)} {rest : List Char}
    (delimited : Delimited rest) : Stops Decimal.isDigit (Spelling.powerText power ++ rest) := by
  cases power with
  | none => exact delimited.stops (by decide) (by decide) (by decide)
  | some part => exact Stops.cons (by decide) _

theorem readExponent_powerText {power : Option (Bool × List Char)} {rest : List Char}
    (sound : ∀ negative run, power = some (negative, run) → IsRun run)
    (delimited : Delimited rest) :
    readExponent (Spelling.powerText power ++ rest) =
      some (power.map fun (negative, run) =>
        Binary64.signed negative (Decimal.ofDigits 0 run), rest) := by
  cases power with
  | none =>
      cases rest with
      | nil => rfl
      | cons char rest => rcases delimited char rfl with rfl | rfl | rfl <;> rfl
  | some part =>
      obtain ⟨negative, run⟩ := part
      have digits := sound negative run rfl
      have stops : Stops Decimal.isDigit rest :=
        delimited.stops (by decide) (by decide) (by decide)
      have split : Decimal.splitSign ((if negative then '-' else '+') :: (run ++ rest)) =
          (negative, run ++ rest) := by
        cases negative <;> rfl
      simp [Spelling.powerText, readExponent, readPower, split,
        takeWhile_append_of_stops digits.2 stops, dropWhile_append_of_stops digits.2 stops,
        digits.1]

theorem readFraction_fractionText {fraction : Option (List Char)} {rest : List Char}
    (sound : ∀ run, fraction = some run → IsRun run) (stops : Stops Decimal.isDigit rest)
    (noPoint : rest.head? ≠ some '.') :
    readFraction (Spelling.fractionText fraction ++ rest) = some (fraction, rest) := by
  cases fraction with
  | none =>
      cases rest with
      | nil => rfl
      | cons char rest =>
          rw [Spelling.fractionText, List.nil_append, readFraction]
          rintro tail same
          cases same
          exact noPoint rfl
  | some run =>
      have digits := sound run rfl
      simp [Spelling.fractionText, readFraction, takeWhile_append_of_stops digits.2 stops,
        dropWhile_append_of_stops digits.2 stops, digits.1]

def readUnsigned (negative : Bool) (text : List Char) : Option (Json × List Char) := do
  let whole := text.takeWhile Decimal.isDigit
  let after := text.dropWhile Decimal.isDigit
  if whole.isEmpty || (whole.head? = some '0' && whole.length > 1) then none
  else
    let (fraction, after) ← readFraction after
    let (exponent, after) ← readExponent after
    let value ← Numeral.value? ⟨negative, whole, fraction, exponent⟩
    return (value, after)

theorem readNumber_eq_readUnsigned {text : List Char} (unsigned : text.head? ≠ some '-')
    (negative : Bool) :
    readNumber (if negative then '-' :: text else text) = readUnsigned negative text := by
  cases negative with
  | true => rfl
  | false =>
      rw [if_neg Bool.false_ne_true, readNumber]
      · rfl
      · rintro rest rfl
        exact unsigned rfl

/-- Reading a number takes exactly its spelling. -/
theorem readNumber_text {spelling : Spelling} (sound : spelling.Sound) {rest : List Char}
    (delimited : Delimited rest) :
    readNumber (spelling.text ++ rest) = spelling.value?.map (·, rest) := by
  obtain ⟨negative, whole, fraction, power⟩ := spelling
  have digits : IsRun whole := sound.whole
  have stopsPower : Stops Decimal.isDigit (Spelling.powerText power ++ rest) :=
    stops_powerText delimited
  have noPoint : (Spelling.powerText power ++ rest).head? ≠ some '.' := by
    cases power with
    | none =>
        intro found
        rcases delimited '.' found with equal | equal | equal <;> cases equal
    | some part => simp [Spelling.powerText]
  have stopsFraction :
      Stops Decimal.isDigit
        (Spelling.fractionText fraction ++ (Spelling.powerText power ++ rest)) := by
    cases fraction with
    | none => exact stopsPower
    | some run => exact Stops.cons (by decide) _
  have unsigned (tail : List Char) : (whole ++ tail).head? ≠ some '-' := by
    intro found
    cases whole with
    | nil => exact digits.1 rfl
    | cons char whole =>
        have isDigit := digits.2 char (by simp)
        rw [show char = '-' by simpa using found] at isDigit
        cases isDigit
  have spelled :
      Spelling.text ⟨negative, whole, fraction, power⟩ ++ rest =
        if negative then
          '-' :: (whole ++ (Spelling.fractionText fraction ++ (Spelling.powerText power ++ rest)))
        else whole ++ (Spelling.fractionText fraction ++ (Spelling.powerText power ++ rest)) := by
    cases negative <;> simp [Spelling.text, Spelling.unsignedText]
  rw [spelled, readNumber_eq_readUnsigned (unsigned _)]
  simp only [readUnsigned, takeWhile_append_of_stops digits.2 stopsFraction,
    dropWhile_append_of_stops digits.2 stopsFraction,
    readFraction_fractionText sound.fraction stopsPower noPoint]
  by_cases zeros : whole.head? = some '0' ∧ 1 < whole.length
  · simp [Spelling.value?, zeros]
  · have kept : (whole.isEmpty || (decide (whole.head? = some '0') && decide (whole.length > 1)))
        = false := by
      simpa [digits.1] using zeros
    rw [kept, Spelling.value?, if_neg zeros]
    simp only [Bool.false_eq_true, ↓reduceIte, Option.bind_eq_bind, Option.bind_some,
      readExponent_powerText sound.power delimited, Spelling.numeral]
    cases Numeral.value? ⟨negative, whole, fraction, _⟩ <;> rfl

/-! ## Whole numbers -/

/-- Whether a whole number fits a signed or an unsigned 64-bit word. -/
def IsWord (value : Int) : Prop := Decimal.minInt64 ≤ value ∧ value ≤ Decimal.maxWord64

theorem IsWord.of_signed {value : Int} (low : Decimal.minInt64 ≤ value)
    (high : value ≤ Decimal.maxInt64) : IsWord value := by
  refine ⟨low, Int.le_trans high ?_⟩
  decide

theorem isRun_digits (number : Nat) : IsRun (Decimal.digits number) :=
  ⟨Decimal.digits_ne_nil number, fun _ => Decimal.isDigit_of_mem_digits⟩

def Spelling.ofInt (value : Int) : Spelling where
  negative := value < 0
  whole := Decimal.digits value.natAbs

theorem Spelling.text_ofInt (value : Int) : (Spelling.ofInt value).text = writeInt value := by
  simp [text, unsignedText, ofInt, fractionText, powerText, writeInt]

theorem Spelling.sound_ofInt (value : Int) : (Spelling.ofInt value).Sound where
  whole := isRun_digits _
  fraction _ found := by cases found
  power _ _ found := by cases found

/-- A whole number of a word reads back as itself. -/
theorem Spelling.value?_ofInt {value : Int} (word : IsWord value) :
    (Spelling.ofInt value).value? = some (.int value) := by
  have noZeros : ¬ ((Decimal.digits value.natAbs).head? = some '0' ∧
      1 < (Decimal.digits value.natAbs).length) := by
    rintro ⟨head, long⟩
    rw [Decimal.eq_zero_of_head_digits head] at long
    exact absurd long (by decide)
  obtain ⟨above, below⟩ := word
  rw [Spelling.value?, ofInt, if_neg noZeros, Spelling.numeral, Numeral.value?]
  by_cases negative : value < 0
  · have same : Binary64.signed true value.natAbs = value := by
      rw [Binary64.signed, if_pos rfl]
      omega
    have inside : 1 ≤ value.natAbs ∧ -(value.natAbs : Int) ≥ Decimal.minInt64 := by omega
    simp only [negative, decide_true, Option.map_none, Decimal.ofDigits_digits, same,
      Option.isNone_none, true_and, if_true, if_pos inside]
  · have same : Binary64.signed false value.natAbs = value := by
      rw [Binary64.signed, if_neg Bool.false_ne_true]
      omega
    have inside : value.natAbs ≤ Decimal.maxWord64 := by omega
    simp only [negative, decide_false, Option.map_none, Decimal.ofDigits_digits, same,
      Option.isNone_none, true_and, Bool.false_eq_true, if_false, if_pos inside]

/-! ## Numbers with a fraction or a power of ten -/

theorem isDigit_of_mem_padded {count : Nat} {text : List Char}
    (inside : ∀ char ∈ text, Decimal.isDigit char = true) :
    ∀ char ∈ List.replicate count '0' ++ text, Decimal.isDigit char = true := by
  intro char found
  rcases List.mem_append.mp found with found | found
  · rw [(List.mem_replicate.mp found).2]
    rfl
  · exact inside char found

namespace Spelling

def positional (layout : Decimal.Layout) (number : Decimal.Scientific) : Spelling :=
  let text := Decimal.digits number.coefficient
  if 0 ≤ number.exponent then
    { negative := false
      whole := text ++ List.replicate number.exponent.toNat '0'
      fraction := if layout.pointZero then some ['0'] else none }
  else
    let places := (-number.exponent).toNat
    let padded := List.replicate (places + 1 - text.length) '0' ++ text
    { negative := false
      whole := padded.take (padded.length - places)
      fraction := some (padded.drop (padded.length - places)) }

def exponential (number : Decimal.Scientific) : Spelling :=
  let text := Decimal.digits number.coefficient
  let power := number.exponent + text.length - 1
  { negative := false
    whole := text.take 1
    fraction := if (text.drop 1).isEmpty then none else some (text.drop 1)
    power := some (power < 0, Decimal.digits power.natAbs) }

def zero (layout : Decimal.Layout) : Spelling where
  negative := false
  whole := ['0']
  fraction := if layout.pointZero then some ['0'] else none

def unsignedFloat (layout : Decimal.Layout) (number : Binary64) : Spelling :=
  if number.isZero then zero layout
  else
    let decimal := Decimal.shortest number
    let power := decimal.exponent + (Decimal.digits decimal.coefficient).length - 1
    if layout.leastPositional ≤ power ∧ power ≤ layout.greatestPositional then
      positional layout decimal
    else exponential decimal

def ofFloat (layout : Decimal.Layout) (number : Binary64) : Spelling :=
  { unsignedFloat layout number with negative := number.negative }

theorem isRun_zero : IsRun ['0'] := isRun_digits 0

theorem unsignedText_positional (layout : Decimal.Layout) (number : Decimal.Scientific) :
    (positional layout number).unsignedText = Decimal.positional layout number := by
  rw [positional, Decimal.positional]
  by_cases large : 0 ≤ number.exponent
  · cases flag : layout.pointZero <;>
      simp [large, unsignedText, fractionText, powerText]
  · simp [large, unsignedText, fractionText, powerText]

theorem sound_positional (layout : Decimal.Layout) (number : Decimal.Scientific) :
    (positional layout number).Sound := by
  have digits := isRun_digits number.coefficient
  rw [positional]
  by_cases large : 0 ≤ number.exponent
  · rw [if_pos large]
    refine ⟨⟨by simp [digits.1], fun char inside => ?_⟩, fun run found => ?_, nofun⟩
    · rcases List.mem_append.mp inside with inside | inside
      · exact digits.2 char inside
      · rw [(List.mem_replicate.mp inside).2]
        rfl
    · dsimp only at found
      split at found
      · cases found
        exact isRun_zero
      · cases found
  · rw [if_neg large]
    extract_lets places padded
    have inside : ∀ char ∈ padded, Decimal.isDigit char = true := isDigit_of_mem_padded digits.2
    have long : places < padded.length := by
      simp only [padded, List.length_append, List.length_replicate]
      omega
    have positive : 0 < places := by omega
    refine ⟨⟨fun empty => ?_, fun char found => inside char (List.mem_of_mem_take found)⟩, ?_, nofun⟩
    · have none : padded.length - places = 0 ∨ padded = [] := List.take_eq_nil_iff.mp empty
      rcases none with none | none
      · omega
      · simp [none] at long
    · rintro run found
      cases found
      refine ⟨fun empty => ?_, fun char found => inside char (List.mem_of_mem_drop found)⟩
      have short := List.drop_eq_nil_iff.mp empty
      omega

theorem unsignedText_exponential (number : Decimal.Scientific) :
    (exponential number).unsignedText = Decimal.exponential number := by
  rw [exponential, Decimal.exponential]
  cases rest : (Decimal.digits number.coefficient).drop 1 <;>
    simp [unsignedText, fractionText, powerText]

theorem sound_exponential (number : Decimal.Scientific) : (exponential number).Sound := by
  have digits := isRun_digits number.coefficient
  refine ⟨⟨fun empty => ?_, fun char found => digits.2 char (List.mem_of_mem_take found)⟩, ?_, ?_⟩
  · rcases List.take_eq_nil_iff.mp empty with impossible | impossible
    · cases impossible
    · exact digits.1 impossible
  · intro run found
    simp only [exponential, List.isEmpty_iff] at found
    split at found
    · cases found
    · next filled =>
        cases found
        exact ⟨filled, fun char found => digits.2 char (List.mem_of_mem_drop found)⟩
  · rintro negative run found
    cases found
    exact isRun_digits _

theorem sound_zero (layout : Decimal.Layout) : (zero layout).Sound := by
  refine ⟨isRun_zero, fun run found => ?_, nofun⟩
  simp only [zero] at found
  split at found
  · cases found
    exact isRun_zero
  · cases found

theorem unsignedText_zero (layout : Decimal.Layout) :
    (zero layout).unsignedText = '0' :: (if layout.pointZero then ['.', '0'] else []) := by
  rw [zero]
  cases layout.pointZero <;> rfl

theorem sound_unsignedFloat (layout : Decimal.Layout) (number : Binary64) :
    (unsignedFloat layout number).Sound := by
  rw [unsignedFloat]
  split
  · exact sound_zero layout
  · dsimp only
    split
    · exact sound_positional layout _
    · exact sound_exponential _

theorem sound_ofFloat (layout : Decimal.Layout) (number : Binary64) :
    (ofFloat layout number).Sound := by
  have sound := sound_unsignedFloat layout number
  exact ⟨sound.whole, sound.fraction, sound.power⟩

/-- A floating-point number is written as it is spelled. -/
theorem text_ofFloat (layout : Decimal.Layout) (number : Binary64) :
    (ofFloat layout number).text = layout.write number := by
  have signed : (ofFloat layout number).text =
      (if number.negative then ['-'] else []) ++ (unsignedFloat layout number).unsignedText := by
    rw [text, ofFloat]
    cases number.negative <;> rfl
  rw [signed, Decimal.Layout.write, unsignedFloat]
  generalize (if number.negative then ['-'] else []) = sign
  split
  · rw [unsignedText_zero]
  · dsimp only
    split
    · rw [unsignedText_positional]
    · rw [unsignedText_exponential]

end Spelling

end Json

end SessionTokens
