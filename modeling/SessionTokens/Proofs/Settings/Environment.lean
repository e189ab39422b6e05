import SessionTokens.Proofs.Json.Number
import SessionTokens.Settings.Texts

/-!
# Variables of the environment

What the text of a variable is read as: a truth value, a whole number, another
number, or the text itself.  Only some texts are a value's own spelling, and
these are kept when the value is read as a text again.  The name of a variable
says whether it sets anything, and where.
-/

namespace SessionTokens.Environment

open Decimal (isDigit splitSign natural? integer? number? ofDigits)

/-! ## Letters -/

/-- A digit is the same in lower case. -/
theorem toLower_of_isDigit {char : Char} (digit : isDigit char = true) : char.toLower = char := by
  simp only [isDigit, decide_eq_true_eq, Char.le_def, UInt32.le_iff_toNat_le] at digit
  have greatest : char.val.toNat ≤ 57 := digit.2
  refine dif_neg fun upper => ?_
  have least : 65 ≤ char.val.toNat := UInt32.le_iff_toNat_le.mp upper.1
  omega

theorem isLetter_iff {char : Char} :
    isLetter char = true ↔ isDigit char = false ∧ char ∉ ['+', '-', '.'] := by
  simp [isLetter]

/-- A character is a letter if it is one in lower case. -/
theorem isLetter_of_toLower {char : Char} (letter : isLetter char.toLower = true) :
    isLetter char = true := by
  rw [isLetter_iff] at letter ⊢
  constructor
  · cases digit : isDigit char with
    | false => rfl
    | true => exact digit ▸ (toLower_of_isDigit digit ▸ letter.1)
  · intro mark
    simp only [List.mem_cons, List.not_mem_nil, or_false] at mark
    rcases mark with rfl | rfl | rfl <;> exact letter.2 (by decide)

theorem splitSign_of_head? {text : List Char}
    (unsigned : text.head? ≠ some '-' ∧ text.head? ≠ some '+') : splitSign text = (false, text) := by
  unfold splitSign
  split <;> simp_all

/-- Letters are no number unless they are a word for one. -/
theorem number?_of_letters {text : List Char} (letters : text.all isLetter = true)
    (plain : text.map Char.toLower ∉ ["inf".toList, "infinity".toList, "nan".toList]) :
    number? text = none := by
  have head (char : Char) (first : text.head? = some char) :
      isDigit char = false ∧ char ∉ ['+', '-', '.'] :=
    isLetter_iff.mp (List.all_eq_true.mp letters char (List.mem_of_head? first))
  have unsigned : splitSign text = (false, text) :=
    splitSign_of_head? ⟨fun first => (head _ first).2 (by decide),
      fun first => (head _ first).2 (by decide)⟩
  have stops : Stops isDigit text := fun char first => (head char first).1
  have none : ∀ char ∈ ([] : List Char), isDigit char = true := nofun
  have whole : text.takeWhile isDigit = [] := takeWhile_append_of_stops none stops
  have after : text.dropWhile isDigit = text := dropWhile_append_of_stops none stops
  have words : Decimal.sameLetters text "inf".toList = false ∧
      Decimal.sameLetters text "infinity".toList = false ∧
      Decimal.sameLetters text "nan".toList = false := by
    simpa [Decimal.sameLetters] using plain
  simp only [number?, unsigned, words.1, words.2.1, words.2.2, whole, after, Bool.or_self,
    Bool.false_eq_true, if_false]
  cases text with
  | nil => rfl
  | cons first rest =>
    have point : first ≠ '.' := fun same => (head first rfl).2 (by simp [same])
    split
    · next same => exact absurd (List.cons.inj same).1 point
    · rfl

theorem lower_eq_iff {text word : String} :
    Setting.lower text = word ↔ text.toList.map Char.toLower = word.toList := by
  rw [← String.toList_inj, Setting.lower, String.toList_ofList]

/-- No spelling of a word for a truth value is a number. -/
theorem number?_of_switch {text : String} (word : Setting.lower text ∈ ["true", "false"]) :
    number? text.toList = none := by
  simp only [List.mem_cons, List.not_mem_nil, or_false, lower_eq_iff] at word
  have letters : (text.toList.map Char.toLower).all isLetter = true := by
    rcases word with word | word <;> rw [word] <;> decide
  refine number?_of_letters (List.all_eq_true.mpr fun char inside => ?_) ?_
  · exact isLetter_of_toLower
      (List.all_eq_true.mp letters _ (List.mem_map_of_mem inside))
  · rcases word with word | word <;> rw [word] <;> decide

/-! ## Numbers -/

variable {run : List Char} (digits : Json.IsRun run)

include digits

theorem splitSign_of_isRun : splitSign run = (false, run) := by
  refine splitSign_of_head? ⟨?_, ?_⟩ <;>
    exact fun first => absurd (digits.2 _ (List.mem_of_head? first)) (by decide)

theorem natural?_of_isRun : natural? run = some (ofDigits 0 run) := by
  rw [natural?, if_pos ⟨digits.1, List.all_eq_true.mpr digits.2⟩]

/-- A run of digits is no word for a number. -/
theorem sameLetters_of_isRun {word : List Char}
    (letter : (word.head?.map fun first => isDigit first.toLower) = some false) :
    Decimal.sameLetters run word = false := by
  obtain ⟨digit, rest, rfl⟩ := List.exists_cons_of_ne_nil digits.1
  obtain ⟨first, head, apart⟩ := Option.map_eq_some_iff.mp letter
  obtain ⟨after, rfl⟩ := List.head?_eq_some_iff.mp head
  have isDigit := digits.2 digit (by simp)
  simp only [Decimal.sameLetters, List.map_cons, decide_eq_false_iff_not, List.cons.injEq, not_and]
  intro same
  rw [toLower_of_isDigit isDigit] at same
  rw [← same, isDigit] at apart
  cases apart

/-- A run of digits after a sign as a number. -/
theorem number?_of_isRun {text : List Char} {negative : Bool}
    (sign : splitSign text = (negative, run)) :
    number? text = some (Decimal.nearest negative (ofDigits 0 run) 0) := by
  have stops : Stops isDigit [] := nofun
  have whole : run.takeWhile isDigit = run := by
    simpa using takeWhile_append_of_stops digits.2 stops
  have after : run.dropWhile isDigit = [] := by
    simpa using dropWhile_append_of_stops digits.2 stops
  have filled : run.isEmpty = false := List.isEmpty_eq_false_iff.mpr digits.1
  have words : Decimal.sameLetters run "inf".toList = false ∧
      Decimal.sameLetters run "infinity".toList = false ∧
      Decimal.sameLetters run "nan".toList = false :=
    ⟨sameLetters_of_isRun digits (by decide), sameLetters_of_isRun digits (by decide),
      sameLetters_of_isRun digits (by decide)⟩
  simp only [number?, sign, words.1, words.2.1, words.2.2, whole, after, filled, Bool.or_self,
    Bool.false_and, Bool.false_eq_true, if_false]
  rfl

omit digits

/-- A text that is read as a whole number is a run of digits after a sign. -/
theorem integer?_eq_some_iff {least greatest value : Int} {text : List Char} :
    integer? least greatest text = some value ↔
      ∃ negative run, splitSign text = (negative, run) ∧ Json.IsRun run ∧
        Binary64.signed negative (ofDigits 0 run) = value ∧ least ≤ value ∧ value ≤ greatest := by
  simp only [integer?, natural?, Option.bind_eq_bind]
  constructor
  · intro found
    by_cases run : (splitSign text).2 ≠ [] ∧ (splitSign text).2.all isDigit
    · rw [if_pos run, Option.bind_some] at found
      obtain ⟨range, same⟩ := Option.ite_none_right_eq_some.mp found
      cases same
      exact ⟨_, _, rfl, ⟨run.1, List.all_eq_true.mp run.2⟩, rfl, range⟩
    · rw [if_neg run] at found
      cases found
  · rintro ⟨negative, run, sign, digits, rfl, range⟩
    rw [sign, if_pos ⟨digits.1, List.all_eq_true.mpr digits.2⟩]
    simp [range]

/-- A whole number is a number. -/
theorem number?_of_integer? {least greatest value : Int} {text : List Char}
    (whole : integer? least greatest text = some value) : number? text ≠ none := by
  obtain ⟨_, _, sign, digits, -⟩ := integer?_eq_some_iff.mp whole
  rw [number?_of_isRun digits sign]
  exact Option.some_ne_none _

/-! ## Values -/

/-- The value of a variable is a scalar, and no text but its own. -/
theorem valueOf_cases (text : String) :
    (∃ value, valueOf text = .flag value) ∨ (∃ value, valueOf text = .whole value) ∨
      (∃ value, valueOf text = .decimal value) ∨ valueOf text = .text text := by
  unfold valueOf
  dsimp only
  split
  · exact .inl ⟨_, rfl⟩
  split
  · exact .inl ⟨_, rfl⟩
  split
  · exact .inr (.inl ⟨_, rfl⟩)
  split
  · exact .inr (.inr (.inl ⟨_, rfl⟩))
  · exact .inr (.inr (.inr rfl))

/-- The value of a variable replaces any value that it is put over. -/
@[simp]
theorem merge_valueOf (setting : Setting) (text : String) :
    setting.merge (valueOf text) = valueOf text := by
  rcases valueOf_cases text with ⟨value, read⟩ | ⟨value, read⟩ | ⟨value, read⟩ | read <;>
    simp [read, Setting.merge]

/-- The value of a text that is no word for a truth value. -/
theorem valueOf_of_not_switch {text : String} (other : Setting.lower text ∉ ["true", "false"]) :
    valueOf text =
      match integer? Decimal.minInt64 Decimal.maxInt64 text.toList with
      | some value => .whole value
      | none =>
        match number? text.toList with
        | some value => .decimal value
        | none => .text text := by
  simp only [List.mem_cons, List.not_mem_nil, or_false, not_or] at other
  exact (if_neg other.1).trans (if_neg other.2)

/-- The value of a text that is no number either. -/
theorem valueOf_of_not_number {text : String} (other : Setting.lower text ∉ ["true", "false"])
    (number : number? text.toList = none) : valueOf text = .text text := by
  have whole : integer? Decimal.minInt64 Decimal.maxInt64 text.toList = none :=
    Option.eq_none_iff_forall_not_mem.mpr fun value found => number?_of_integer? found number
  rw [valueOf_of_not_switch other, whole, number]

/-- A word is a text. -/
theorem IsWord.valueOf_eq {text : String} (word : IsWord text) : valueOf text = .text text := by
  have plain := word.plain
  simp only [List.mem_cons, List.not_mem_nil, or_false, not_or, lower_eq_iff] at plain
  refine valueOf_of_not_number ?_ (number?_of_letters word.letters ?_)
  · simp only [List.mem_cons, List.not_mem_nil, or_false, not_or, lower_eq_iff]
    exact ⟨plain.1, plain.2.1⟩
  · simp only [List.mem_cons, List.not_mem_nil, or_false, not_or]
    exact plain.2.2

/-- A whole number, in any spelling of digits, is the value of its text. -/
theorem valueOf_of_integer? {text : String} {value : Int}
    (whole : integer? Decimal.minInt64 Decimal.maxInt64 text.toList = some value) :
    valueOf text = .whole value := by
  have other : Setting.lower text ∉ ["true", "false"] := fun switch =>
    number?_of_integer? whole (number?_of_switch switch)
  rw [valueOf_of_not_switch other, whole]

/-- Another number is the value of its text. -/
theorem valueOf_of_number? {text : String} {value : Extended64}
    (fraction : integer? Decimal.minInt64 Decimal.maxInt64 text.toList = none)
    (number : number? text.toList = some value) : valueOf text = .decimal value := by
  have other : Setting.lower text ∉ ["true", "false"] := fun switch => by
    rw [number?_of_switch switch] at number
    cases number
  rw [valueOf_of_not_switch other, fraction, number]

/-- The value of a run of digits depends on its number alone. -/
theorem valueOf_of_isRun {left right : String} (leftRun : Json.IsRun left.toList)
    (rightRun : Json.IsRun right.toList)
    (same : ofDigits 0 left.toList = ofDigits 0 right.toList) : valueOf left = valueOf right := by
  have other {text : String} (run : Json.IsRun text.toList) :
      Setting.lower text ∉ ["true", "false"] := fun switch => by
    have number := number?_of_isRun run (splitSign_of_isRun run)
    rw [number?_of_switch switch] at number
    cases number
  rw [valueOf_of_not_switch (other leftRun), valueOf_of_not_switch (other rightRun),
    number?_of_isRun leftRun (splitSign_of_isRun leftRun),
    number?_of_isRun rightRun (splitSign_of_isRun rightRun)]
  simp only [integer?, splitSign_of_isRun leftRun, splitSign_of_isRun rightRun,
    natural?_of_isRun leftRun, natural?_of_isRun rightRun, same]

/-- A leading zero does not count. -/
theorem valueOf_zero_append {digits : String} (run : Json.IsRun digits.toList) :
    valueOf ("0" ++ digits) = valueOf digits := by
  have zero : ("0" ++ digits).toList = '0' :: digits.toList := by simp
  refine valueOf_of_isRun ?_ run (by rw [zero]; rfl)
  rw [zero]
  refine ⟨List.cons_ne_nil _ _, fun char inside => ?_⟩
  rcases List.mem_cons.mp inside with rfl | inside
  · rfl
  · exact run.2 char inside

/-- Only the value of a text that stands for itself is read exactly as a text. -/
theorem valueOf_of_text?_exact {text read : String}
    (exactly : Setting.text? .exact (valueOf text) = some read) : valueOf text = .text text := by
  rcases valueOf_cases text with ⟨value, same⟩ | ⟨value, same⟩ | ⟨value, same⟩ | same
  · rw [same] at exactly; cases exactly
  · rw [same] at exactly; cases exactly
  · rw [same] at exactly; cases exactly
  · exact same

theorem valueOf_ne_absent (text : String) : valueOf text ≠ .absent := by
  rcases valueOf_cases text with ⟨value, same⟩ | ⟨value, same⟩ | ⟨value, same⟩ | same <;>
    simp [same]

/-! ## Spellings -/

/-- The value of a variable can be read as a text. -/
theorem text?_valueOf (text : String) :
    Setting.text? .lenient (valueOf text) = some (spelling text) := by
  rcases valueOf_cases text with ⟨value, read⟩ | ⟨value, read⟩ | ⟨value, read⟩ | read <;>
    rw [spelling, read] <;> rfl

/-- However freely the value of a variable is read as a text, it is its spelling. -/
theorem eq_spelling_of_text? {strictness : Strictness} {text read : String}
    (found : Setting.text? strictness (valueOf text) = some read) : read = spelling text := by
  cases strictness with
  | lenient => exact Option.some.inj (found.symm.trans (text?_valueOf text))
  | exact =>
    have same := valueOf_of_text?_exact found
    rw [same] at found
    rw [spelling, same]
    exact (Option.some.inj found).symm

/-- The spelling of a whole number. -/
theorem spelling_of_integer? {text : String} {value : Int}
    (whole : integer? Decimal.minInt64 Decimal.maxInt64 text.toList = some value) :
    spelling text = String.ofList (Json.writeInt value) := by
  rw [spelling, valueOf_of_integer? whole]
  simp only [Setting.text?, Option.getD_some, Json.writeInt]
  split <;> rfl

/-- A whole number of a signed word is read from its own spelling. -/
theorem integer?_writeInt {value : Int} (least : Decimal.minInt64 ≤ value)
    (greatest : value ≤ Decimal.maxInt64) :
    integer? Decimal.minInt64 Decimal.maxInt64 (Json.writeInt value) = some value := by
  have digits := Json.isRun_digits value.natAbs
  rw [integer?_eq_some_iff]
  by_cases negative : value < 0
  · refine ⟨true, _, by rw [Json.writeInt, if_pos negative]; rfl, digits, ?_, least, greatest⟩
    rw [Decimal.ofDigits_digits, Binary64.signed, if_pos rfl]
    omega
  · refine ⟨false, _, by rw [Json.writeInt, if_neg negative]; exact splitSign_of_isRun digits,
      digits, ?_, least, greatest⟩
    rw [Decimal.ofDigits_digits, Binary64.signed, if_neg Bool.false_ne_true]
    omega

/-- The spelling of a truth value. -/
theorem spelling_of_switch {text : String} (word : Setting.lower text ∈ ["true", "false"]) :
    spelling text = Setting.lower text := by
  simp only [List.mem_cons, List.not_mem_nil, or_false] at word
  rcases word with word | word <;> simp [spelling, valueOf, word, Setting.text?]

/-- The spelling of another number. -/
theorem spelling_of_number? {text : String} {value : Extended64}
    (fraction : integer? Decimal.minInt64 Decimal.maxInt64 text.toList = none)
    (number : number? text.toList = some value) : spelling text = Setting.writeDecimal value := by
  rw [spelling, valueOf_of_number? fraction number]
  rfl

/-- A value is spelled as its text exactly when the text is a kept one. -/
theorem spelling_eq_self_iff (text : String) : spelling text = text ↔ IsKept text := by
  constructor
  · intro same
    by_cases switch : Setting.lower text ∈ ["true", "false"]
    · exact .switch (same ▸ spelling_of_switch switch ▸ switch)
    cases whole : integer? Decimal.minInt64 Decimal.maxInt64 text.toList with
    | some value =>
      obtain ⟨_, _, _, _, _, least, greatest⟩ := integer?_eq_some_iff.mp whole
      exact .whole value least greatest (same.symm.trans (spelling_of_integer? whole))
    | none =>
      cases number : number? text.toList with
      | some value =>
        exact .decimal value whole number (same.symm.trans (spelling_of_number? whole number))
      | none => exact .plain switch number
  · intro kept
    cases kept with
    | plain switch number => rw [spelling, valueOf_of_not_number switch number]; rfl
    | switch word =>
      simp only [List.mem_cons, List.not_mem_nil, or_false] at word
      rcases word with rfl | rfl <;> decide
    | whole value least greatest written =>
      have read := integer?_writeInt least greatest
      rw [← String.toList_ofList (l := Json.writeInt value), ← written] at read
      exact (spelling_of_integer? read).trans written.symm
    | decimal value fraction number written =>
      exact (spelling_of_number? fraction number).trans written.symm

/-! ## Names -/

/-- A variable with two underscores after the scope sets the path that its name spells. -/
theorem pathOf?_two_underscores (scope rest : String) :
    pathOf? scope (scope ++ "__" ++ rest) =
      some (String.ofList (separate (Text.lower rest.toList))) := by
  have lower : Text.lower (scope ++ "__" ++ rest).toList =
      Text.lower (scope.toList ++ ['_', '_']) ++ Text.lower rest.toList := by
    simp
  simp only [pathOf?, lower]
  rw [if_pos (List.isPrefixOf_iff_prefix.mpr (List.prefix_append _ _)), List.drop_left]

/-- A variable with one underscore after the scope sets nothing. -/
theorem pathOf?_one_underscore (scope rest : String)
    (other : (Text.lower rest.toList).head? ≠ some '_') :
    pathOf? scope (scope ++ "_" ++ rest) = none := by
  have lower : Text.lower (scope ++ "_" ++ rest).toList =
      Text.lower scope.toList ++ '_' :: Text.lower rest.toList := by
    simp
  have mark : Text.lower (scope.toList ++ ['_', '_']) = Text.lower scope.toList ++ ['_', '_'] := by
    simp
  simp only [pathOf?, lower, mark]
  rw [if_neg]
  intro front
  have front := List.isPrefixOf_iff_prefix.mp front
  rw [List.prefix_append_right_inj, List.cons_prefix_cons] at front
  obtain ⟨after, same⟩ := front.2
  exact other (by rw [← same]; rfl)

/-! ## Settings -/

/-- A variable that sets no path might as well be missing. -/
theorem settings_of_ignored {scope name : String} (ignored : pathOf? scope name = none)
    (before after : List (String × String)) (text : String) :
    settings scope (before ++ (name, text) :: after) = settings scope (before ++ after) := by
  simp [settings, ignored]

/-- A word in a variable puts that word into the settings. -/
theorem putAll_settings_word {scope name path word : String} (setting : Setting)
    (set : pathOf? scope name = some path) (letters : IsWord word) :
    setting.putAll (settings scope [(name, word)]) = setting.put path (.text word) := by
  simp [settings, set, letters.valueOf_eq, Setting.putAll]

/-- Texts of one value set the same. -/
theorem settings_of_same_value {scope name left right : String}
    {before after : List (String × String)} (same : valueOf left = valueOf right) :
    settings scope (before ++ (name, left) :: after) =
      settings scope (before ++ (name, right) :: after) := by
  simp only [settings, List.filterMap_append, List.filterMap_cons, same]

end SessionTokens.Environment
