import SessionTokens.Proofs.Json.Number

/-!
# JSON text reads back

What the text of a value reads back as is told part by part: texts, names, and
whole numbers of a word come back as they were, a floating-point number comes
back as its decimal text says, and an array or object comes back with its parts
if it is not nested too deeply.
-/

namespace SessionTokens.Json

/-! ## Texts -/

def pieceOf (char : Char) : Piece :=
  if char.toNat < 0x20 ∧ char ∉ ['\x08', '\x0c', '\n', '\r', '\t'] then .unit char.toNat
  else .char char

theorem readPieces_escapePlain (char : Char) (rest : List Char) :
    readPieces (escapePlain char ++ rest) =
      (readPieces rest).map fun (pieces, rest) => (pieceOf char :: pieces, rest) := by
  by_cases letter : char ∈ ['"', '\\', '\x08', '\x0c', '\n', '\r', '\t']
  · simp only [List.mem_cons, List.not_mem_nil, or_false] at letter
    rcases letter with rfl | rfl | rfl | rfl | rfl | rfl | rfl <;>
      · simp only [escapePlain, List.cons_append, List.nil_append]
        rw [readPieces]
        · simp only [unescape?, Option.bind_eq_bind, Option.bind_some, pieceOf]
          cases readPieces rest <;> rfl
        · rintro a b c d tail same
          cases same
  · simp only [List.mem_cons, List.not_mem_nil, or_false, not_or] at letter
    obtain ⟨quote, backslash, back, form, newline, carriage, tab⟩ := letter
    have plain : escapePlain char =
        if char.toNat < 0x20 then writeUnit char.toNat else [char] := by
      rw [escapePlain] <;> assumption
    rw [plain]
    by_cases control : char.toNat < 0x20
    · have units : ∀ unit < 0x20,
          unit? (Bytes.hexDigit (unit / 4096)) (Bytes.hexDigit (unit / 256 % 16))
            (Bytes.hexDigit (unit / 16 % 16)) (Bytes.hexDigit (unit % 16)) = some unit := by
        decide
      rw [if_pos control, writeUnit]
      simp only [List.cons_append, List.nil_append]
      rw [readPieces, units _ control]
      simp only [Option.bind_eq_bind, Option.bind_some, pieceOf, control, List.mem_cons, back,
        form, newline, carriage, tab, List.not_mem_nil, or_self, not_false_eq_true, and_self,
        ↓reduceIte]
      cases readPieces rest <;> rfl
    · rw [if_neg control, List.singleton_append, readPieces, if_neg control]
      · simp only [Option.bind_eq_bind, pieceOf, control, false_and, ↓reduceIte]
        cases readPieces rest <;> rfl
      · exact quote
      · rintro a b c d tail same
        exact absurd same backslash
      · rintro escape tail same
        exact absurd same backslash

theorem joinPieces_pieceOf (char : Char) (pieces : List Piece) :
    joinPieces (pieceOf char :: pieces) = (joinPieces pieces).map (char :: ·) := by
  by_cases control : char.toNat < 0x20 ∧ char ∉ ['\x08', '\x0c', '\n', '\r', '\t']
  · have single : isLeading char.toNat = false ∧ isTrailing char.toNat = false := by
      simp only [isLeading, isTrailing, Bool.and_eq_false_iff, decide_eq_false_iff_not]
      omega
    rw [pieceOf, if_pos control]
    conv => lhs; unfold joinPieces
    simp [single.1, single.2]
  · rw [pieceOf, if_neg control, joinPieces]

/-- A written text reads back as itself. -/
theorem readText_write (text : String) (rest : List Char) :
    readText (text.toList.flatMap escapePlain ++ '"' :: rest) = some (text, rest) := by
  have pieces (chars : List Char) :
      readPieces (chars.flatMap escapePlain ++ '"' :: rest) = some (chars.map pieceOf, rest) := by
    induction chars with
    | nil => rfl
    | cons char chars ih =>
        rw [List.flatMap_cons, List.append_assoc, readPieces_escapePlain, ih]
        rfl
  have joined (chars : List Char) : joinPieces (chars.map pieceOf) = some chars := by
    induction chars with
    | nil => rfl
    | cons char chars ih => rw [List.map_cons, joinPieces_pieceOf, ih, Option.map_some]
  simp [readText, pieces, joined]

/-! ## Values -/

mutual

/-- What the text of a value reads back as, inside a number of further arrays and objects. -/
def reread : Nat → Json → Option Json
  | _, .null => some .null
  | _, .bool value => some (.bool value)
  | _, .int value => (readNumber (writeInt value)).map (·.1)
  | _, .float value => (readNumber (floatLayout.write value)).map (·.1)
  | _, .string value => some (.string value)
  | 0, .array _ => none
  | 0, .object _ => none
  | depth + 1, .array items => (rereadItems depth items).map .array
  | depth + 1, .object members => (rereadMembers depth members).map .object

def rereadItems : Nat → List Json → Option (List Json)
  | _, [] => some []
  | depth, item :: rest => do
      let item ← reread depth item
      let rest ← rereadItems depth rest
      return item :: rest

/-- What the texts of members read back as; their names come back as they were. -/
def rereadMembers : Nat → List (String × Json) → Option (List (String × Json))
  | _, [] => some []
  | depth, (name, value) :: rest => do
      let value ← reread depth value
      let rest ← rereadMembers depth rest
      return (name, value) :: rest

end

def isNumberHead (char : Char) : Bool := char = '-' || Decimal.isDigit char

theorem Spelling.Sound.exists_head {spelling : Spelling} (sound : spelling.Sound) :
    ∃ char tail, spelling.text = char :: tail ∧ isNumberHead char = true := by
  obtain ⟨negative, whole, fraction, power⟩ := spelling
  cases negative with
  | true => exact ⟨'-', _, rfl, rfl⟩
  | false =>
      cases whole with
      | nil => exact absurd rfl sound.whole.1
      | cons char whole =>
          exact ⟨char, _, rfl, by simp [isNumberHead, sound.whole.2 char (by simp)]⟩

theorem ne_of_isNumberHead {char other : Char} (head : isNumberHead char = true)
    (differs : isNumberHead other = false) : char ≠ other := by
  rintro rfl
  rw [head] at differs
  cases differs

/-- A text that begins like a number is read as a number. -/
theorem readValue_number {char : Char} (head : isNumberHead char = true) (depth : Nat)
    (tail : List Char) : readValue depth (char :: tail) = readNumber (char :: tail) := by
  have differs (other : Char) (no : isNumberHead other = false) (rest : List Char)
      (same : char :: tail = other :: rest) : False :=
    ne_of_isNumberHead head no (List.cons.inj same).1
  have scalar : readScalar (char :: tail) = readNumber (char :: tail) := by
    rw [readScalar]
    · exact fun _ => differs 'n' rfl _
    · exact fun _ => differs 't' rfl _
    · exact fun _ => differs 'f' rfl _
    · exact fun _ => differs '"' rfl _
  cases depth with
  | zero =>
      rw [readValue, scalar]
      · exact fun _ => differs '[' rfl _
      · exact fun _ => differs '{' rfl _
  | succ depth =>
      rw [readValue, scalar]
      · exact fun _ => differs '[' rfl _
      · exact fun _ => differs '{' rfl _

/-- A spelled number reads back, whatever delimiter follows. -/
theorem readValue_spelling {spelling : Spelling} (sound : spelling.Sound) (depth : Nat)
    {rest : List Char} (delimited : Delimited rest) :
    readValue depth (spelling.text ++ rest) =
      ((readNumber spelling.text).map (·.1)).map (·, rest) := by
  obtain ⟨char, tail, text, head⟩ := sound.exists_head
  have alone := readNumber_text sound Delimited.nil
  rw [List.append_nil] at alone
  rw [alone, text, List.cons_append, readValue_number head, ← List.cons_append, ← text,
    readNumber_text sound delimited]
  cases spelling.value? <;> rfl

/-- A value is written without a blank in front, and never like a closing bracket. -/
theorem exists_head_write (value : Json) :
    ∃ char tail, write escapePlain value = char :: tail ∧ isBlank char = false ∧ char ≠ ']' := by
  have number {char : Char} (head : isNumberHead char = true) :
      isBlank char = false ∧ char ≠ ']' := by
    refine ⟨?_, ne_of_isNumberHead head rfl⟩
    have differs (other : Char) (never : isNumberHead other = false) : char ≠ other :=
      ne_of_isNumberHead head never
    simp [isBlank, differs ' ' rfl, differs '\n' rfl, differs '\t' rfl, differs '\r' rfl]
  cases value with
  | null => exact ⟨'n', _, rfl, rfl, by decide⟩
  | bool value =>
      cases value with
      | true => exact ⟨'t', _, rfl, rfl, by decide⟩
      | false => exact ⟨'f', _, rfl, rfl, by decide⟩
  | int value =>
      obtain ⟨char, tail, text, head⟩ := (Spelling.sound_ofInt value).exists_head
      exact ⟨char, tail, by rw [write, ← Spelling.text_ofInt, text], number head⟩
  | float value =>
      obtain ⟨char, tail, text, head⟩ := (Spelling.sound_ofFloat floatLayout value).exists_head
      exact ⟨char, tail, by rw [write, ← Spelling.text_ofFloat, text], number head⟩
  | string value => exact ⟨'"', _, rfl, rfl, by decide⟩
  | array items => exact ⟨'[', _, rfl, rfl, by decide⟩
  | object members => exact ⟨'{', _, rfl, rfl, by decide⟩

theorem skipBlank_write (value : Json) (rest : List Char) :
    skipBlank (write escapePlain value ++ rest) = write escapePlain value ++ rest := by
  obtain ⟨char, tail, text, blank, -⟩ := exists_head_write value
  simp [text, skipBlank, blank]

theorem skipBlank_cons {char : Char} (blank : isBlank char = false) (rest : List Char) :
    skipBlank (char :: rest) = char :: rest := by
  simp [skipBlank, blank]

theorem length_le_length_writeItems (items : List Json) :
    items.length ≤ (writeItems escapePlain items).length := by
  induction items with
  | nil => simp
  | cons item items ih =>
      cases items with
      | nil => simp [writeItems]
      | cons next items =>
          rw [writeItems]
          · simp only [List.length_append, List.length_cons] at ih ⊢
            omega
          · nofun

theorem length_le_length_writeMembers (members : List (String × Json)) :
    members.length ≤ (writeMembers escapePlain members).length := by
  induction members with
  | nil => simp
  | cons member members ih =>
      cases members with
      | nil =>
          simp only [writeMembers, List.length_append, List.length_cons]
          omega
      | cons next members =>
          rw [writeMembers]
          · simp only [List.length_append, List.length_cons] at ih ⊢
            omega
          · nofun

theorem delimited_cons {char : Char} (delimiter : char = ',' ∨ char = ']' ∨ char = '}')
    (rest : List Char) : Delimited (char :: rest) := by
  intro other found
  cases found
  exact delimiter

/-- The text of items goes on with their first one, and not with the end of the array. -/
theorem exists_head_writeItems (item : Json) (items : List Json) (rest : List Char) :
    ∃ char tail, writeItems escapePlain (item :: items) ++ rest = char :: tail ∧
      isBlank char = false ∧ char ≠ ']' := by
  obtain ⟨char, tail, text, blank, bracket⟩ := exists_head_write item
  cases items with
  | nil => exact ⟨char, _, by rw [writeItems, text]; rfl, blank, bracket⟩
  | cons next items => exact ⟨char, _, by rw [writeItems, text]; rfl; nofun, blank, bracket⟩

theorem exists_head_writeMembers (name : String) (value : Json) (members : List (String × Json))
    (rest : List Char) :
    ∃ tail, writeMembers escapePlain ((name, value) :: members) ++ rest = '"' :: tail := by
  cases members with
  | nil => exact ⟨_, rfl⟩
  | cons next members => exact ⟨_, by rw [writeMembers]; rfl; nofun⟩

mutual

/-- Reading takes exactly the text of a value, and yields what it reads back as. -/
theorem readValue_write : (value : Json) → (depth : Nat) → {rest : List Char} →
    Delimited rest →
    readValue depth (write escapePlain value ++ rest) = (reread depth value).map (·, rest)
  | .null, depth, rest, _ => by cases depth <;> rfl
  | .bool true, depth, rest, _ => by cases depth <;> rfl
  | .bool false, depth, rest, _ => by cases depth <;> rfl
  | .int value, depth, rest, delimited => by
      have read := readValue_spelling (Spelling.sound_ofInt value) depth delimited
      rw [Spelling.text_ofInt] at read
      cases depth <;> exact read
  | .float value, depth, rest, delimited => by
      have read := readValue_spelling (Spelling.sound_ofFloat floatLayout value) depth delimited
      rw [Spelling.text_ofFloat] at read
      cases depth <;> exact read
  | .string value, depth, rest, _ => by
      have read := readText_write value rest
      cases depth <;>
        simp [write, writeText, readValue, readScalar, reread, read]
  | .array _, 0, rest, _ => rfl
  | .object _, 0, rest, _ => rfl
  | .array [], depth + 1, rest, _ => rfl
  | .object [], depth + 1, rest, _ => rfl
  | .array (item :: items), depth + 1, rest, _ => by
      have enough : (item :: items).length ≤
          (writeItems escapePlain (item :: items) ++ rest).length := by
        rw [List.length_append]
        exact Nat.le_add_right_of_le (length_le_length_writeItems _)
      have read := @readItems_write (item :: items) depth (List.cons_ne_nil _ _) _ rest enough
      obtain ⟨char, tail, text, blank, bracket⟩ := exists_head_writeItems item items rest
      rw [write, List.cons_append, readValue, text, skipBlank_cons blank, ← text]
      split
      · rename_i same
        rw [text] at same
        exact absurd (List.cons.inj same).1 bracket
      · rw [read, reread]
        cases rereadItems depth (item :: items) <;> rfl
  | .object ((name, value) :: members), depth + 1, rest, _ => by
      have enough : ((name, value) :: members).length ≤
          (writeMembers escapePlain ((name, value) :: members) ++ rest).length := by
        rw [List.length_append]
        exact Nat.le_add_right_of_le (length_le_length_writeMembers _)
      have read :=
        @readMembers_write ((name, value) :: members) depth (List.cons_ne_nil _ _) _ rest enough
      obtain ⟨tail, text⟩ := exists_head_writeMembers name value members rest
      rw [write, List.cons_append, readValue, text, skipBlank_cons rfl, ← text]
      split
      · rename_i same
        rw [text] at same
        cases same
      · rw [read, reread]
        cases rereadMembers depth ((name, value) :: members) <;> rfl

/-- Reading takes exactly the text of items. -/
theorem readItems_write : (items : List Json) → (depth : Nat) → items ≠ [] → {fuel : Nat} →
    {rest : List Char} → items.length ≤ fuel →
    readItems (readValue depth) fuel (writeItems escapePlain items ++ rest) =
      (rereadItems depth items).map (·, rest)
  | [], _, nonempty, _, _, _ => absurd rfl nonempty
  | item :: items, depth, _, 0, rest, enough => by simp at enough
  | [item], depth, _, fuel + 1, rest, _ => by
      have read := readValue_write item depth (delimited_cons (.inr (.inl rfl)) rest)
      rw [writeItems, List.append_assoc, List.singleton_append, readItems, skipBlank_write, read,
        rereadItems]
      cases reread depth item <;> rfl
  | item :: next :: items, depth, _, fuel + 1, rest, enough => by
      have read := readValue_write item depth (delimited_cons (.inl rfl)
        (writeItems escapePlain (next :: items) ++ rest))
      have readRest := @readItems_write (next :: items) depth (List.cons_ne_nil _ _) fuel rest
        (Nat.le_of_succ_le_succ enough)
      rw [writeItems, List.append_assoc, List.cons_append, readItems, skipBlank_write, read,
        rereadItems]
      · cases reread depth item with
        | none => rfl
        | some value =>
            simp only [Option.map_some, Option.bind_eq_bind, Option.bind_some]
            rw [skipBlank_cons rfl]
            simp only [readRest]
            cases rereadItems depth (next :: items) <;> rfl
      · nofun

/-- Reading takes exactly the text of members. -/
theorem readMembers_write : (members : List (String × Json)) → (depth : Nat) → members ≠ [] →
    {fuel : Nat} → {rest : List Char} → members.length ≤ fuel →
    readMembers (readValue depth) fuel (writeMembers escapePlain members ++ rest) =
      (rereadMembers depth members).map (·, rest)
  | [], _, nonempty, _, _, _ => absurd rfl nonempty
  | member :: members, depth, _, 0, rest, enough => by simp at enough
  | [(name, value)], depth, _, fuel + 1, rest, _ => by
      have read := readValue_write value depth (delimited_cons (.inr (.inr rfl)) rest)
      rw [writeMembers, writeText, rereadMembers]
      simp only [List.cons_append, List.append_assoc, List.nil_append]
      rw [readMembers, skipBlank_cons rfl]
      simp only [readText_write, Option.bind_eq_bind, Option.bind_some]
      rw [skipBlank_cons rfl]
      simp only [skipBlank_write, read]
      cases reread depth value <;> rfl
  | (name, value) :: next :: members, depth, _, fuel + 1, rest, enough => by
      have read := readValue_write value depth (delimited_cons (.inl rfl)
        (writeMembers escapePlain (next :: members) ++ rest))
      have readRest := @readMembers_write (next :: members) depth (List.cons_ne_nil _ _) fuel rest
        (Nat.le_of_succ_le_succ enough)
      rw [writeMembers, writeText, rereadMembers]
      · simp only [List.cons_append, List.append_assoc, List.nil_append]
        rw [readMembers, skipBlank_cons rfl]
        simp only [readText_write, Option.bind_eq_bind, Option.bind_some]
        rw [skipBlank_cons rfl]
        simp only [skipBlank_write, read]
        cases reread depth value with
        | none => rfl
        | some value =>
            simp only [Option.map_some, Option.bind_some]
            rw [skipBlank_cons rfl]
            simp only [readRest]
            cases rereadMembers depth (next :: members) <;> rfl
      · nofun

end

/-- The text of a value, read as a whole text. -/
theorem parseRaw?_write (value : Json) :
    parseRaw? (write escapePlain value) = reread maxDepth value := by
  have blank := skipBlank_write value []
  have read := readValue_write value maxDepth Delimited.nil
  rw [List.append_nil] at blank read
  rw [parseRaw?, blank, read]
  cases reread maxDepth value <;> rfl

/-- A whole number of a word comes back as it was. -/
theorem reread_int {value : Int} (word : IsWord value) (depth : Nat) :
    reread depth (.int value) = some (.int value) := by
  have alone := readNumber_text (Spelling.sound_ofInt value) Delimited.nil
  rw [List.append_nil, Spelling.text_ofInt, Spelling.value?_ofInt word] at alone
  cases depth <;> rw [reread, alone] <;> rfl

theorem rereadMembers_append (depth : Nat) (front back : Members) :
    rereadMembers depth (front ++ back) = do
      let front ← rereadMembers depth front
      let back ← rereadMembers depth back
      return front ++ back := by
  induction front with
  | nil => simp [rereadMembers]
  | cons member front ih =>
      simp only [List.cons_append, rereadMembers, ih]
      cases reread depth member.2 with
      | none => rfl
      | some value =>
          cases rereadMembers depth front with
          | none => rfl
          | some front => cases rereadMembers depth back <;> rfl

theorem names_rereadMembers {depth : Nat} {members read : Members}
    (found : rereadMembers depth members = some read) : read.names = members.names := by
  induction members generalizing read with
  | nil => cases found; rfl
  | cons member members ih =>
      simp only [rereadMembers, Option.bind_eq_bind, Option.bind_eq_some_iff] at found
      obtain ⟨value, -, rest, rereadRest, same⟩ := found
      cases same
      exact congrArg (member.1 :: ·) (ih rereadRest)

end SessionTokens.Json
