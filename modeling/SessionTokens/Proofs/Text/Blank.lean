import Mathlib.Data.List.DropRight
import SessionTokens.Text.Split

/-!
# Blanks come off

Blanks around a text come off, and nothing else.  A text that begins and ends
with other characters is what remains of it with blanks around.
-/

namespace SessionTokens.Text

variable {char : Char} {core text : List Char}

theorem isGraphic_iff : isGraphic char = true ↔ 32 < char.toNat ∧ char.toNat < 127 := by
  simp [isGraphic]

theorem isBlank_eq_false_of_isGraphic (graphic : isGraphic char = true) :
    isBlank char = false := by
  have bounds := isGraphic_iff.mp graphic
  simp only [isBlank, Bool.or_eq_false_iff, Bool.and_eq_false_iff, decide_eq_false_iff_not]
  omega

theorem blank_not_mem (graphic : ∀ char ∈ text, isGraphic char = true) : ' ' ∉ text :=
  fun inside => absurd (graphic ' ' inside) (by decide)

theorem dropWhile_of_head? {inClass : Char → Bool}
    (outside : ∀ char ∈ text.head?, inClass char = false) : text.dropWhile inClass = text := by
  cases text with
  | nil => rfl
  | cons char rest => rw [List.dropWhile_cons_of_neg (by simpa using outside char rfl)]

/-- A text that neither begins nor ends with a character of a class loses none. -/
theorem trimBy_of_ends {inClass : Char → Bool}
    (first : ∀ char ∈ text.head?, inClass char = false)
    (last : ∀ char ∈ text.getLast?, inClass char = false) : trimBy inClass text = text := by
  have reversed : ∀ char ∈ text.reverse.head?, inClass char = false := by
    rwa [List.head?_reverse]
  rw [trimBy, trimStartBy, dropWhile_of_head? first, trimEndBy, dropWhile_of_head? reversed,
    List.reverse_reverse]

theorem trimBy_of_forall {inClass : Char → Bool} (outside : ∀ char ∈ text, inClass char = false) :
    trimBy inClass text = text :=
  trimBy_of_ends (fun char first => outside char (List.mem_of_head? first))
    fun char last => outside char (List.mem_of_getLast? last)

/-! ## Ends of joined texts -/

variable {front back : List Char}

theorem isBlank_head?_append (visible : ∀ char ∈ front, isBlank char = false)
    (filled : front ≠ []) (back : List Char) :
    ∀ char ∈ (front ++ back).head?, isBlank char = false := by
  intro char first
  rw [List.head?_append, List.head?_eq_some_head filled, Option.some_or, Option.mem_def,
    Option.some.injEq] at first
  exact visible char (first ▸ List.head_mem filled)

theorem isBlank_getLast?_append (visible : ∀ char ∈ back, isBlank char = false)
    (filled : back ≠ []) (front : List Char) :
    ∀ char ∈ (front ++ back).getLast?, isBlank char = false := by
  intro char last
  rw [List.getLast?_append, List.getLast?_eq_some_getLast filled, Option.some_or, Option.mem_def,
    Option.some.injEq] at last
  exact visible char (last ▸ List.getLast_mem filled)

theorem trim_joined (frontGraphic : ∀ char ∈ front, isGraphic char = true)
    (backGraphic : ∀ char ∈ back, isGraphic char = true) (frontFilled : front ≠ [])
    (backFilled : back ≠ []) : trim (front ++ ' ' :: back) = front ++ ' ' :: back := by
  refine trimBy_of_ends (isBlank_head?_append ?_ frontFilled _) ?_
  · exact fun char inside => isBlank_eq_false_of_isGraphic (frontGraphic char inside)
  · rw [List.append_cons]
    exact isBlank_getLast?_append
      (fun char inside => isBlank_eq_false_of_isGraphic (backGraphic char inside)) backFilled _

/-! ## Padded texts -/

/-- What remains of a padded text, when no blank is at an end of it. -/
theorem trim_of_isPadded (padded : IsPadded core text)
    (first : ∀ char ∈ core.head?, isBlank char = false)
    (last : ∀ char ∈ core.getLast?, isBlank char = false) : trim text = core := by
  obtain ⟨before, after, rfl, blankBefore, blankAfter⟩ := padded
  have start : trimStartBy isBlank (before ++ (core ++ after)) =
      trimStartBy isBlank (core ++ after) := List.dropWhile_append_of_pos blankBefore
  rw [trim, trimBy, start]
  cases core with
  | nil =>
      have nothing : trimStartBy isBlank after = [] := List.dropWhile_eq_nil_iff.mpr blankAfter
      rw [List.nil_append, nothing]
      rfl
  | cons char core =>
      have whole : trimStartBy isBlank (char :: core ++ after) = char :: core ++ after :=
        List.dropWhile_cons_of_neg (by simp [first char rfl])
      have ends : ∀ other ∈ (char :: core).reverse.head?, isBlank other = false := by
        rwa [List.head?_reverse]
      rw [whole, trimEndBy, List.reverse_append,
        List.dropWhile_append_of_pos fun other inside =>
          blankAfter other (List.mem_reverse.mp inside),
        dropWhile_of_head? ends, List.reverse_reverse]

theorem trim_of_isPadded_of_forall (padded : IsPadded core text)
    (visible : ∀ char ∈ core, isBlank char = false) : trim text = core :=
  trim_of_isPadded padded (fun char first => visible char (List.mem_of_head? first))
    fun char last => visible char (List.mem_of_getLast? last)

/-- A text is what remains of it, with blanks around. -/
theorem isPadded_trim (text : List Char) : IsPadded (trim text) text := by
  refine ⟨text.takeWhile isBlank,
    ((trimStartBy isBlank text).reverse.takeWhile isBlank).reverse, ?_,
    fun _ => List.mem_takeWhile_imp, fun _ inside =>
      List.mem_takeWhile_imp (List.mem_reverse.mp inside)⟩
  rw [trim, trimBy, trimEndBy, ← List.reverse_append, List.takeWhile_append_dropWhile,
    List.reverse_reverse]
  exact List.takeWhile_append_dropWhile.symm

/-- Whatever comes off at the end, the first character stays. -/
theorem head?_trimEndBy {inClass : Char → Bool} (text : List Char) :
    ∀ char ∈ (trimEndBy inClass text).head?, char ∈ text.head? := by
  intro char first
  rw [trimEndBy, List.head?_reverse] at first
  have kept : text.reverse.dropWhile inClass <:+ text.reverse := List.dropWhile_suffix inClass
  obtain ⟨removed, whole⟩ := kept
  rw [← List.getLast?_reverse, ← whole, List.getLast?_append, Option.mem_def.mp first]
  rfl

theorem isTrimmed_trim (text : List Char) : IsTrimmed (trim text) text where
  padded := isPadded_trim text
  first char first := by
    have start := head?_trimEndBy _ char first
    have visible := List.head?_dropWhile_not isBlank text
    rw [trimStartBy] at start
    rw [Option.mem_def.mp start] at visible
    simpa using visible
  last char last := by
    rw [trim, trimBy, trimEndBy, List.getLast?_reverse] at last
    have visible := List.head?_dropWhile_not isBlank (trimStartBy isBlank text).reverse
    rw [Option.mem_def.mp last] at visible
    simpa using visible

theorem trim_eq_iff : trim text = core ↔ IsTrimmed core text :=
  ⟨fun same => same ▸ isTrimmed_trim text,
    fun trimmed => trim_of_isPadded trimmed.padded trimmed.first trimmed.last⟩

theorem trim_eq_nil_iff : trim text = [] ↔ ∀ char ∈ text, isBlank char = true := by
  constructor
  · intro nothing
    obtain ⟨before, after, whole, blankBefore, blankAfter⟩ := isPadded_trim text
    rw [nothing, List.nil_append] at whole
    intro char inside
    rw [whole, List.mem_append] at inside
    exact inside.elim (blankBefore char) (blankAfter char)
  · intro blank
    have padded : IsPadded [] text := ⟨text, [], by simp, blank, by simp⟩
    exact trim_of_isPadded_of_forall padded (by simp)

/-- Blanks before a padded text leave it padded. -/
theorem IsPadded.blanks_append {blanks : List Char} (padded : IsPadded core text)
    (blank : ∀ char ∈ blanks, isBlank char = true) : IsPadded core (blanks ++ text) := by
  obtain ⟨before, after, rfl, blankBefore, blankAfter⟩ := padded
  refine ⟨blanks ++ before, after, (List.append_assoc _ _ _).symm, ?_, blankAfter⟩
  exact fun char inside => (List.mem_append.mp inside).elim (blank char) (blankBefore char)

end SessionTokens.Text
