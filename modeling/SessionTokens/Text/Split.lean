/-!
# Blanks and separators

The characters with the White_Space property, and the removal of blanks at the
ends of a text.  A text is cut at a separator: at every occurrence, or at the
first or the last.
-/

namespace SessionTokens.Text

/-! ## Blanks -/

/-- Whether a character has the White_Space property. -/
def isBlank (char : Char) : Bool :=
  let code := char.toNat
  (0x09 ≤ code && code ≤ 0x0D) || code = 0x20 || code = 0x85 || code = 0xA0
    || code = 0x1680 || (0x2000 ≤ code && code ≤ 0x200A) || code = 0x2028 || code = 0x2029
    || code = 0x202F || code = 0x205F || code = 0x3000

/-- Whether a character is graphic ASCII, which no blank is. -/
def isGraphic (char : Char) : Bool := 32 < char.toNat && char.toNat < 127

def trimStartBy (inClass : Char → Bool) (text : List Char) : List Char :=
  text.dropWhile inClass

def trimEndBy (inClass : Char → Bool) (text : List Char) : List Char :=
  (text.reverse.dropWhile inClass).reverse

def trimBy (inClass : Char → Bool) (text : List Char) : List Char :=
  trimEndBy inClass (trimStartBy inClass text)

def trim (text : List Char) : List Char := trimBy isBlank text

def trimString (text : String) : String := String.ofList (trim text.toList)

def IsPadded (core text : List Char) : Prop :=
  ∃ before after, text = before ++ (core ++ after) ∧
    (∀ char ∈ before, isBlank char = true) ∧ ∀ char ∈ after, isBlank char = true

/-- Whether a text is all of another one between the blanks at its ends. -/
structure IsTrimmed (core text : List Char) : Prop where
  padded : IsPadded core text
  first : ∀ char ∈ core.head?, isBlank char = false
  last : ∀ char ∈ core.getLast?, isBlank char = false

/-! ## Separators -/

def splitFirst (separator : Char) : List Char → Option (List Char × List Char)
  | [] => none
  | char :: rest =>
      if char = separator then some ([], rest)
      else (splitFirst separator rest).map fun (before, after) => (char :: before, after)

def splitLast (separator : Char) : List Char → Option (List Char × List Char)
  | [] => none
  | char :: rest =>
      match splitLast separator rest with
      | some (before, after) => some (char :: before, after)
      | none => if char = separator then some ([], rest) else none

/-- The parts between separators; a text without one is one part. -/
def splitAll (separator : Char) : List Char → List (List Char)
  | [] => [[]]
  | char :: rest =>
      if char = separator then [] :: splitAll separator rest
      else
        match splitAll separator rest with
        | [] => [[char]]
        | part :: parts => (char :: part) :: parts

theorem splitFirst_eq_some {separator : Char} {text before after : List Char}
    (split : splitFirst separator text = some (before, after)) :
    text = before ++ separator :: after ∧ separator ∉ before := by
  induction text generalizing before with
  | nil => simp [splitFirst] at split
  | cons char rest ih =>
      by_cases same : char = separator
      · simp only [splitFirst, same, if_true, Option.some.injEq, Prod.mk.injEq] at split
        simp [← split.1, split.2, same]
      · simp only [splitFirst, same, if_false, Option.map_eq_some_iff] at split
        obtain ⟨⟨front, back⟩, found, equal⟩ := split
        simp only [Prod.mk.injEq] at equal
        obtain ⟨rfl, rfl⟩ := equal
        have ⟨whole, absent⟩ := ih found
        exact ⟨by simp [whole], by simpa [Ne.symm same] using absent⟩

def splitString (separator : Char) (text : String) : Option (String × String) :=
  (splitFirst separator text.toList).map fun (before, after) =>
    (String.ofList before, String.ofList after)

end SessionTokens.Text
