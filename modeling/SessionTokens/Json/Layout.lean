import SessionTokens.Json.Parser

/-!
# Objects as somebody may write them

Between the tokens of an object any number of blanks may stand, names and texts
may be written with or without escapes, and numbers in many ways.  So the text of
a member is told by its parts, and by what each part is read as.
-/

namespace SessionTokens.Json

/-- The text of a member: what stands between its quotes, its value, and the blanks around them. -/
structure MemberText where
  beforeName : List Char
  /-- The name between its quotes. -/
  name : List Char
  afterName : List Char
  beforeValue : List Char
  value : List Char
  afterValue : List Char

namespace MemberText

def chars (text : MemberText) : List Char :=
  text.beforeName ++ '"' :: (text.name ++ '"' :: (text.afterName ++ ':' :: (text.beforeValue
    ++ (text.value ++ text.afterValue))))

structure Spaced (text : MemberText) : Prop where
  beforeName : ∀ char ∈ text.beforeName, isBlank char = true
  afterName : ∀ char ∈ text.afterName, isBlank char = true
  beforeValue : ∀ char ∈ text.beforeValue, isBlank char = true
  afterValue : ∀ char ∈ text.afterValue, isBlank char = true

instance (text : MemberText) : Decidable text.Spaced :=
  decidable_of_iff
    (text.beforeName.all isBlank ∧ text.afterName.all isBlank ∧ text.beforeValue.all isBlank ∧
      text.afterValue.all isBlank)
    ⟨fun ⟨beforeName, afterName, beforeValue, afterValue⟩ =>
      ⟨List.all_eq_true.mp beforeName, List.all_eq_true.mp afterName,
        List.all_eq_true.mp beforeValue, List.all_eq_true.mp afterValue⟩,
      fun spaced => ⟨List.all_eq_true.mpr spaced.beforeName, List.all_eq_true.mpr spaced.afterName,
        List.all_eq_true.mpr spaced.beforeValue, List.all_eq_true.mpr spaced.afterValue⟩⟩

/-- Whether a text is what may follow the value of a member: a blank, a comma or a brace. -/
def Follows (rest : List Char) : Prop :=
  ∃ char tail, rest = char :: tail ∧ (isBlank char = true ∨ char = ',' ∨ char = '}')

structure Reads (text : MemberText) (member : String × Json) : Prop where
  spaced : text.Spaced
  name : ∀ rest, readText (text.name ++ '"' :: rest) = some (member.1, rest)
  starts : ∃ char tail, text.value = char :: tail ∧ isBlank char = false
  value : ∀ rest, Follows rest →
    readValue (maxDepth - 1) (text.value ++ rest) = some (member.2, rest)

end MemberText

def objectText (before : List Char) (members : List MemberText) (after : List Char) : List Char :=
  before ++ '{' :: ([','].intercalate (members.map MemberText.chars) ++ '}' :: after)

end SessionTokens.Json
