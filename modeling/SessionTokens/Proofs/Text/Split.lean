import SessionTokens.Text.Split

/-!
# Splitting where a text was joined

A text is cut where it was joined when the part that is split off holds no
separator, and nowhere else.
-/

namespace SessionTokens.Text

theorem splitFirst_append {separator : Char} {before : List Char} (absent : separator ∉ before)
    (after : List Char) :
    splitFirst separator (before ++ separator :: after) = some (before, after) := by
  induction before with
  | nil => exact if_pos rfl
  | cons char before ih =>
      rw [List.mem_cons, not_or] at absent
      obtain ⟨differs, others⟩ := absent
      rw [List.cons_append, splitFirst, if_neg (Ne.symm differs), ih others]
      rfl

theorem splitLast_eq_none {separator : Char} {text : List Char} :
    splitLast separator text = none ↔ separator ∉ text := by
  induction text with
  | nil => simp [splitLast]
  | cons char rest ih =>
      rw [List.mem_cons, not_or, ← ih, splitLast]
      cases splitLast separator rest with
      | some parts => simp
      | none => simp [eq_comm]

theorem splitLast_append {separator : Char} {after : List Char} (absent : separator ∉ after)
    (before : List Char) :
    splitLast separator (before ++ separator :: after) = some (before, after) := by
  induction before with
  | nil =>
      rw [List.nil_append, splitLast, splitLast_eq_none.mpr absent]
      exact if_pos rfl
  | cons char before ih => rw [List.cons_append, splitLast, ih]

theorem eq_of_splitLast {separator : Char} {text before after : List Char}
    (split : splitLast separator text = some (before, after)) :
    text = before ++ separator :: after ∧ separator ∉ after := by
  induction text generalizing before with
  | nil => cases split
  | cons char rest ih =>
      rw [splitLast] at split
      cases inner : splitLast separator rest with
      | some parts =>
          rw [inner] at split
          cases split
          obtain ⟨joined, absent⟩ := ih inner
          exact ⟨by rw [joined, List.cons_append], absent⟩
      | none =>
          rw [inner] at split
          by_cases same : char = separator
          · rw [if_pos same] at split
            cases split
            exact ⟨by rw [same, List.nil_append], splitLast_eq_none.mp inner⟩
          · rw [if_neg same] at split
            cases split

/-! ## Splitting everywhere -/

theorem splitAll_eq_splitOn (separator : Char) (text : List Char) :
    splitAll separator text = text.splitOn separator := by
  induction text with
  | nil => rfl
  | cons char rest ih =>
      rw [splitAll, ih, List.splitOn_cons_eq_if_modifyHead]
      by_cases same : char = separator
      · simp [same]
      · simp only [same, if_false, beq_iff_eq]
        cases parts : rest.splitOn separator with
        | nil => exact absurd parts (List.splitOn_ne_nil separator rest)
        | cons part parts => rfl

/-- Parts without a separator come back from between separators. -/
theorem splitAll_intercalate {separator : Char} {parts : List (List Char)}
    (absent : ∀ part ∈ parts, separator ∉ part) (filled : parts ≠ []) :
    splitAll separator ([separator].intercalate parts) = parts := by
  rw [splitAll_eq_splitOn, List.splitOn_intercalate separator absent filled]

/-- No part between separators holds one. -/
theorem not_mem_of_mem_splitOn {separator : Char} {text part : List Char}
    (inside : part ∈ text.splitOn separator) : separator ∉ part := by
  induction text generalizing part with
  | nil =>
      rw [List.splitOn_nil, List.mem_singleton] at inside
      simp [inside]
  | cons char rest ih =>
      rw [List.splitOn_cons_eq_if_modifyHead] at inside
      by_cases same : char = separator
      · rw [if_pos (beq_iff_eq.mpr same), List.mem_cons] at inside
        rcases inside with rfl | inside
        · simp
        · exact ih inside
      · rw [if_neg (by simpa using same)] at inside
        cases parts : rest.splitOn separator with
        | nil => exact absurd parts (List.splitOn_ne_nil separator rest)
        | cons first others =>
            rw [parts] at inside ih
            rw [List.modifyHead_cons, List.mem_cons] at inside
            rcases inside with rfl | inside
            · rw [List.mem_cons, not_or]
              exact ⟨Ne.symm same, ih List.mem_cons_self⟩
            · exact ih (List.mem_cons_of_mem _ inside)

/-- A blank behind every separator is one in front of every part but the first. -/
theorem intercalate_blank (separator : Char) (part : List Char) (parts : List (List Char)) :
    [separator, ' '].intercalate (part :: parts) =
      [separator].intercalate (part :: parts.map (' ' :: ·)) := by
  induction parts generalizing part with
  | nil => simp
  | cons next parts ih =>
      rw [List.intercalate_cons_cons, ih, List.map_cons, List.intercalate_cons_cons,
        List.intercalate_cons_cons_left]
      simp

/-- What stands in joined parts is the separator or stands in a part. -/
theorem mem_intercalate {separator char : Char} {parts : List (List Char)}
    (inside : char ∈ [separator].intercalate parts) :
    char = separator ∨ ∃ part ∈ parts, char ∈ part := by
  induction parts with
  | nil => cases inside
  | cons part parts ih =>
      cases parts with
      | nil => exact .inr ⟨part, List.mem_cons_self, by simpa using inside⟩
      | cons next parts =>
          rw [List.intercalate_cons_cons, List.mem_append, List.mem_append, List.mem_singleton]
            at inside
          rcases inside with (inside | same) | inside
          · exact .inr ⟨part, List.mem_cons_self, inside⟩
          · exact .inl same
          · refine (ih inside).imp_right fun ⟨other, member, inside⟩ => ?_
            exact ⟨other, List.mem_cons_of_mem _ member, inside⟩

end SessionTokens.Text
