import SessionTokens.Proofs.Json.Sized
import SessionTokens.Proofs.Token.RoundTrip

/-!
# Claims of any program read back

Claims whose numbers fit 64 bits come back from their text with values of the
same kind under the same names.  So a token over them is accepted for something,
except when a registered name holds a value that it does not take.
-/

namespace SessionTokens

namespace Json

theorem Numeral.number_of_value? {numeral : Numeral} {value : Json}
    (found : numeral.value? = some value) :
    (∃ whole, value = .int whole) ∨ ∃ float, value = .float float := by
  have either {exact : Prop} [Decidable exact] {whole : Int}
      (read : (if exact then some (.int whole) else numeral.float?.map .float) = some value) :
      (∃ whole, value = .int whole) ∨ ∃ float, value = .float float := by
    split at read
    · cases read
      exact .inl ⟨whole, rfl⟩
    · obtain ⟨number, -, same⟩ := Option.map_eq_some_iff.mp read
      exact .inr ⟨number, same.symm⟩
  exact either found

/-- A spelled number is read as a whole or as a floating-point number. -/
theorem number_of_spelling {spelling : Spelling} (sound : spelling.Sound) {value : Json}
    (read : (readNumber spelling.text).map (·.1) = some value) :
    (∃ whole, value = .int whole) ∨ ∃ float, value = .float float := by
  have alone := readNumber_text sound Delimited.nil
  rw [List.append_nil] at alone
  rw [alone, Spelling.value?] at read
  split at read
  · cases read
  · rw [Option.map_map] at read
    obtain ⟨number, found, same⟩ := Option.map_eq_some_iff.mp read
    cases same
    exact Numeral.number_of_value? found

theorem length_rereadItems {depth : Nat} {items read : List Json}
    (found : rereadItems depth items = some read) : read.length = items.length := by
  induction items generalizing read with
  | nil =>
      cases found
      rfl
  | cons item rest ih =>
      rw [rereadItems] at found
      obtain ⟨first, -, found⟩ := Option.bind_eq_some_iff.mp found
      obtain ⟨others, othersRead, found⟩ := Option.bind_eq_some_iff.mp found
      cases found
      rw [List.length_cons, List.length_cons, ih othersRead]

end Json

namespace Token

theorem isEmpty_of_length {α : Type} {left right : List α} (same : left.length = right.length) :
    left.isEmpty = right.isEmpty := by
  rw [Bool.eq_iff_iff, List.isEmpty_iff_length_eq_zero, List.isEmpty_iff_length_eq_zero, same]

theorem obstructs_number {value : Json} (name : String)
    (number : (∃ whole, value = .int whole) ∨ ∃ float, value = .float float) :
    obstructs name value = false := by
  rcases number with ⟨whole, rfl⟩ | ⟨float, rfl⟩ <;> rfl

/-- Reading back does not change whether a value obstructs. -/
theorem obstructs_reread {depth : Nat} {value read : Json} (name : String)
    (found : Json.reread depth value = some read) : obstructs name read = obstructs name value := by
  cases value with
  | null => cases depth <;> cases found <;> rfl
  | bool value => cases depth <;> cases found <;> rfl
  | string value => cases depth <;> cases found <;> rfl
  | int value =>
      refine obstructs_number name (Json.number_of_spelling (Json.Spelling.sound_ofInt value) ?_)
      rw [Json.Spelling.text_ofInt]
      cases depth <;> exact found
  | float value =>
      refine obstructs_number name
        (Json.number_of_spelling (Json.Spelling.sound_ofFloat Json.floatLayout value) ?_)
      rw [Json.Spelling.text_ofFloat]
      cases depth <;> exact found
  | array items =>
      cases depth with
      | zero => cases found
      | succ depth =>
          obtain ⟨others, itemsRead, same⟩ := Option.map_eq_some_iff.mp found
          cases same
          have length := Json.length_rereadItems itemsRead
          rw [obstructs, obstructs, isEmpty_of_length length]
  | object members =>
      cases depth with
      | zero => cases found
      | succ depth =>
          obtain ⟨others, membersRead, same⟩ := Option.map_eq_some_iff.mp found
          cases same
          have length : others.length = members.length := by
            simpa [Members.names] using congrArg List.length (Json.names_rereadMembers membersRead)
          rw [obstructs, obstructs, isEmpty_of_length length]

theorem any_obstructs_rereadMembers {depth : Nat} {members read : Members}
    (found : Json.rereadMembers depth members = some read) :
    (read.any fun member => obstructs member.1 member.2) =
      members.any fun member => obstructs member.1 member.2 := by
  induction members generalizing read with
  | nil =>
      cases found
      rfl
  | cons member rest ih =>
      rw [Json.rereadMembers] at found
      obtain ⟨value, valueRead, found⟩ := Option.bind_eq_some_iff.mp found
      obtain ⟨others, othersRead, found⟩ := Option.bind_eq_some_iff.mp found
      cases found
      rw [List.any_cons, List.any_cons, obstructs_reread _ valueRead, ih othersRead]

end Token

/-- Whether claims are such that their text is read back: with numbers of 64 bits, and not too deep. -/
structure Claims.Readable (claims : Claims) : Prop where
  sized : claims.toJson.isSized = true
  shallow : claims.toJson.nesting ≤ Json.maxDepth

theorem Claims.isSized_insert_int {claims : Claims} (sized : claims.toJson.isSized = true)
    (name : String) {value : Int} (word : Json.IsWord value) :
    (claims.insert name (.int value)).toJson.isSized = true := by
  have valueSized : (Json.int value).isSized = true := decide_eq_true word
  rw [toJson, Json.isSized] at sized ⊢
  exact Json.sizedMembers_set sized valueSized name

namespace Claims.Readable

variable {claims : Claims}

theorem insert_int (readable : claims.Readable) (name : String) {value : Int}
    (word : Json.IsWord value) : (claims.insert name (.int value)).Readable where
  sized := isSized_insert_int readable.sized name word
  shallow := nesting_insert_le readable.shallow (Nat.zero_le 126)

theorem timed (readable : claims.Readable) (codec : Codec) {expiresAt : Instant} {origin : Int}
    (expiryWord : Json.IsWord expiresAt.seconds) (originWord : Json.IsWord origin) :
    (codec.timed claims expiresAt origin).Readable :=
  (readable.insert_int codec.expiryField expiryWord).insert_int originName originWord

/-- Only an obstructing claim keeps claims from being read back. -/
theorem reread?_eq_none_iff (readable : claims.Readable) :
    claims.reread? = none ↔
      (claims.members.any fun member => Token.obstructs member.1 member.2) = true := by
  have sized := readable.sized
  rw [toJson, Json.isSized] at sized
  have inner : Json.nestingMembers claims.members ≤ 126 := Nat.le_of_succ_le_succ readable.shallow
  obtain ⟨read, found⟩ := Option.ne_none_iff_exists'.mp
    (Json.rereadMembers_ne_none claims.members 126 sized inner)
  have distinct : Members.Distinct read := by
    rw [Members.Distinct, Json.names_rereadMembers found]
    exact claims.distinct
  rw [reread?, found, ← Token.any_obstructs_rereadMembers found]
  simp only [Option.bind_eq_bind, Option.bind_some, Token.registeredSuit_eq distinct]
  cases read.any fun member => Token.obstructs member.1 member.2 <;> simp

end Claims.Readable

namespace Codec

variable {codec : Codec} {claims : Claims} {expiresAt : Instant} {origin : Int} {token : String}

theorem authenticate_of_obstructed (shared : codec.keys.SharesSecrets) (readable : claims.Readable)
    (expiryWord : Json.IsWord expiresAt.seconds) (originWord : Json.IsWord origin)
    (encoded : codec.Signs (codec.timed claims expiresAt origin) token)
    (obstructed : claims.obstructed codec.expiryField = true) :
    codec.authenticate token = .error (.invalid (.form .json)) := by
  rw [← codec.obstructs_timed claims expiresAt origin] at obstructed
  rw [authenticate_of_signs shared encoded,
    (readable.timed codec expiryWord originWord).reread?_eq_none_iff.mpr obstructed]
  rfl

/-- Without an obstructing claim a token is authentic, for both times and what else it holds. -/
theorem exists_authenticate_timed (shared : codec.keys.SharesSecrets) (readable : claims.Readable)
    (expiryWord : Json.IsWord expiresAt.seconds) (originWord : Json.IsWord origin)
    (encoded : codec.Signs (codec.timed claims expiresAt origin) token)
    (free : claims.obstructed codec.expiryField = false) :
    ∃ read, (codec.timed claims expiresAt origin).reread? = some read ∧
      codec.authenticate token = .ok read := by
  have kept : (codec.timed claims expiresAt origin).reread? ≠ none := by
    rw [Ne, (readable.timed codec expiryWord originWord).reread?_eq_none_iff,
      codec.obstructs_timed, free]
    nofun
  obtain ⟨read, found⟩ := Option.ne_none_iff_exists'.mp kept
  refine ⟨read, found, ?_⟩
  rw [authenticate_of_signs shared encoded, found]
  rfl

end Codec

end SessionTokens
