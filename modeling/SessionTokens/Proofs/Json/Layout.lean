import Mathlib.Data.List.DropRight
import SessionTokens.Json.Layout
import SessionTokens.Proofs.Json.Members
import SessionTokens.Proofs.Json.Reading
import SessionTokens.Proofs.Text.Utf8

/-!
# Written objects are read

However the members of an object are written, they are read one after another,
and the last value under a name is what the object has there.
-/

namespace SessionTokens

/-! ## The last value of a name -/

namespace Members

theorem get?_setAll_of_not_mem {name : String} {pairs : Members} (absent : name ∉ pairs.names)
    (members : Members) : (members.setAll pairs).get? name = members.get? name := by
  induction pairs generalizing members with
  | nil => rfl
  | cons pair rest ih =>
      rw [names, List.map_cons, List.mem_cons, not_or] at absent
      obtain ⟨differs, others⟩ := absent
      calc (members.setAll (pair :: rest)).get? name
          = (members.set pair.1 pair.2).get? name := ih others _
        _ = members.get? name := get?_set_of_ne differs _ _

theorem get?_ofPairs_append_cons {name : String} {back : Members} (absent : name ∉ back.names)
    (front : Members) (value : Json) :
    (ofPairs (front ++ (name, value) :: back)).get? name = some value := by
  rw [ofPairs, setAll, List.foldl_append]
  exact (get?_setAll_of_not_mem absent _).trans (get?_set _ _ _)

end Members

namespace Json

/-! ## Blanks -/

theorem skipBlank_append {blanks : List Char} (blank : ∀ char ∈ blanks, isBlank char = true)
    (text : List Char) : skipBlank (blanks ++ text) = skipBlank text :=
  List.dropWhile_append_of_pos blank

theorem skipBlank_skipBlank (text : List Char) : skipBlank (skipBlank text) = skipBlank text :=
  List.dropWhile_idempotent isBlank text

theorem skipBlank_blanks {blanks : List Char} (blank : ∀ char ∈ blanks, isBlank char = true) :
    skipBlank blanks = [] := by
  have nothing := skipBlank_append blank []
  rwa [List.append_nil] at nothing

/-- Blanks in front of members do not count. -/
theorem readMembers_skipBlank (item : Reader) (fuel : Nat) (text : List Char) :
    readMembers item fuel (skipBlank text) = readMembers item fuel text := by
  cases fuel with
  | zero => rfl
  | succ fuel => rw [readMembers, readMembers, skipBlank_skipBlank]

/-! ## Members -/

/-- A text without a character to escape is read as it is. -/
theorem readText_of_unescaped {text : String}
    (unescaped : ∀ char ∈ text.toList, escapePlain char = [char]) (rest : List Char) :
    readText (text.toList ++ '"' :: rest) = some (text, rest) := by
  have same : text.toList.flatMap escapePlain = text.toList := by
    rw [List.flatMap_congr unescaped, List.flatMap_singleton']
  rw [← readText_write text rest, same]

namespace MemberText

variable {text : MemberText} {member : String × Json}

theorem follows_comma {blanks : List Char} (blank : ∀ char ∈ blanks, isBlank char = true)
    {char : Char} (delimits : char = ',' ∨ char = '}') (rest : List Char) :
    Follows (blanks ++ char :: rest) := by
  cases blanks with
  | nil => exact ⟨char, rest, rfl, .inr delimits⟩
  | cons first blanks => exact ⟨first, _, rfl, .inl (blank first List.mem_cons_self)⟩

/-- A member with a text that is written as it is. -/
theorem Reads.of_verbatim {name value : String} (spaced : text.Spaced)
    (named : ∀ rest, readText (text.name ++ '"' :: rest) = some (name, rest))
    (verbatim : text.value = '"' :: (value.toList ++ ['"']))
    (unescaped : ∀ char ∈ value.toList, escapePlain char = [char]) :
    text.Reads (name, .string value) where
  spaced := spaced
  name := named
  starts := ⟨'"', _, verbatim, rfl⟩
  value rest _ := by
    have read : readValue (maxDepth - 1) ('"' :: (value.toList ++ '"' :: rest)) =
        (readText (value.toList ++ '"' :: rest)).map fun read => (.string read.1, read.2) :=
      rfl
    rw [verbatim, List.cons_append, List.append_assoc, List.singleton_append, read,
      readText_of_unescaped unescaped]
    rfl

/-- One member is read up to what follows its value. -/
theorem Reads.readMembers_append (reads : text.Reads member) (fuel : Nat) {char : Char}
    (delimits : char = ',' ∨ char = '}') (rest : List Char) :
    readMembers (readValue (maxDepth - 1)) (fuel + 1) (text.chars ++ char :: rest) =
      if char = '}' then some ([member], rest)
      else do
        let (others, rest) ← readMembers (readValue (maxDepth - 1)) fuel rest
        return (member :: others, rest) := by
  have spaced := reads.spaced
  have follows := follows_comma spaced.afterValue delimits rest
  have stops : isBlank char = false := by rcases delimits with rfl | rfl <;> rfl
  have value : skipBlank (text.beforeValue ++ (text.value ++ (text.afterValue ++ char :: rest))) =
      text.value ++ (text.afterValue ++ char :: rest) := by
    obtain ⟨first, tail, starts, blank⟩ := reads.starts
    rw [skipBlank_append spaced.beforeValue, starts, List.cons_append, skipBlank_cons blank]
  rw [chars, readMembers]
  simp only [List.append_assoc, List.cons_append, skipBlank_append spaced.beforeName,
    skipBlank_cons (show isBlank '"' = false from rfl), reads.name, Option.bind_eq_bind,
    Option.bind_some, skipBlank_append spaced.afterName,
    skipBlank_cons (show isBlank ':' = false from rfl), value, reads.value _ follows,
    skipBlank_append spaced.afterValue, skipBlank_cons stops]
  rcases delimits with rfl | rfl
  · simp
  · simp

end MemberText

/-- Members between commas are read in their order. -/
theorem readMembers_intercalate {texts : List MemberText} {members : Members}
    (read : List.Forall₂ MemberText.Reads texts members) (filled : texts ≠ []) {fuel : Nat}
    (enough : texts.length ≤ fuel) (rest : List Char) :
    readMembers (readValue (maxDepth - 1)) fuel
      ([','].intercalate (texts.map MemberText.chars) ++ '}' :: rest) = some (members, rest) := by
  induction read generalizing fuel with
  | nil => contradiction
  | @cons text member texts members first others ih =>
      obtain ⟨fuel, rfl⟩ : ∃ less, fuel = less + 1 :=
        ⟨fuel - 1, (Nat.sub_add_cancel (Nat.le_trans (Nat.le_add_left 1 _) enough)).symm⟩
      cases others with
      | nil =>
          rw [List.map_singleton, List.intercalate_singleton,
            first.readMembers_append fuel (.inr rfl), if_pos rfl]
      | cons second others =>
          have back := ih (List.cons_ne_nil _ _) (Nat.le_of_succ_le_succ enough)
          rw [List.map_cons] at back
          rw [List.map_cons, List.map_cons, List.intercalate_cons_cons]
          simp only [List.append_assoc, List.cons_append, List.nil_append]
          rw [first.readMembers_append fuel (.inl rfl), if_neg (by decide), back]
          rfl

/-- Members begin with a quote. -/
theorem exists_skipBlank_intercalate {text : MemberText} (spaced : text.Spaced)
    (others : List MemberText) (rest : List Char) :
    ∃ tail, skipBlank ([','].intercalate ((text :: others).map MemberText.chars) ++ rest) =
      '"' :: tail := by
  have starts : ∃ tail, [','].intercalate ((text :: others).map MemberText.chars) ++ rest =
      text.beforeName ++ '"' :: tail := by
    cases others with
    | nil => simp [MemberText.chars]
    | cons next others => simp [MemberText.chars, List.intercalate_cons_cons]
  obtain ⟨tail, starts⟩ := starts
  exact ⟨tail, by rw [starts, skipBlank_append spaced.beforeName, skipBlank_cons rfl]⟩

/-! ## Objects -/

theorem count_skipBlank {char : Char} (visible : isBlank char = false) (text : List Char) :
    (skipBlank text).count char = text.count char := by
  induction text with
  | nil => rfl
  | cons first text ih =>
      cases blank : isBlank first with
      | false => rw [skipBlank_cons blank]
      | true =>
          have differs : first ≠ char := by
            rintro rfl
            exact absurd blank (by simp [visible])
          rw [List.count_cons_of_ne differs, ← ih, skipBlank, List.dropWhile_cons_of_pos blank]
          rfl

/-- Every member has a quote, so that members are no more than characters. -/
theorem length_le_count_intercalate (texts : List MemberText) :
    texts.length ≤ ([','].intercalate (texts.map MemberText.chars)).count '"' := by
  induction texts with
  | nil => exact Nat.zero_le _
  | cons text texts ih =>
      have quoted : 1 ≤ text.chars.count '"' :=
        List.one_le_count_iff.mpr (by simp [MemberText.chars])
      cases texts with
      | nil => simpa using quoted
      | cons next texts =>
          rw [List.map_cons] at ih
          rw [List.map_cons, List.map_cons, List.intercalate_cons_cons, List.count_append,
            List.count_append, List.length_cons]
          omega

/-- An object is read however it is written. -/
theorem parse?_objectText {before after : List Char} {texts : List MemberText} {members : Members}
    (blankBefore : ∀ char ∈ before, isBlank char = true)
    (blankAfter : ∀ char ∈ after, isBlank char = true) (filled : texts ≠ [])
    (read : List.Forall₂ MemberText.Reads texts members) :
    parse? (objectText before texts after) =
      some (.object (Members.ofPairs (mergeMembers members))) := by
  set inner := [','].intercalate (texts.map MemberText.chars) ++ '}' :: after with innerEq
  have enough : texts.length ≤ (skipBlank inner).length := calc
    texts.length ≤ inner.count '"' := by
      rw [innerEq, List.count_append]
      exact Nat.le_add_right_of_le (length_le_count_intercalate texts)
    _ = (skipBlank inner).count '"' := (count_skipBlank rfl inner).symm
    _ ≤ (skipBlank inner).length := List.count_le_length
  have inside : readMembers (readValue (maxDepth - 1)) (skipBlank inner).length
      (skipBlank inner) = some (members, after) := by
    rw [readMembers_skipBlank]
    exact readMembers_intercalate read filled enough after
  have value : readValue maxDepth ('{' :: inner) = some (.object members, after) := by
    obtain ⟨tail, starts⟩ : ∃ tail, skipBlank inner = '"' :: tail := by
      cases read with
      | nil => contradiction
      | cons first others => exact exists_skipBlank_intercalate first.spaced _ _
    have depth : maxDepth = maxDepth - 1 + 1 := rfl
    rw [depth, readValue]
    split
    · next closed =>
        rw [starts] at closed
        cases closed
    · rw [inside]
      rfl
  rw [parse?, parseRaw?, objectText, skipBlank_append blankBefore, skipBlank_cons rfl, value]
  simp [skipBlank_blanks blankAfter, merge]

end Json

end SessionTokens
