import SessionTokens.Decimal.Binary64

/-!
# JSON values

A value is a tree.  Whole numbers that fit a signed or an unsigned 64-bit word
are kept exactly; every other number is a 64-bit floating-point number.  An
object is a list of members in order.
-/

namespace SessionTokens

inductive Json where
  | null
  | bool (value : Bool)
  | int (value : Int)
  | float (value : Binary64)
  | string (value : String)
  | array (items : List Json)
  | object (members : List (String × Json))

instance : Inhabited Json := ⟨.null⟩

namespace Json

mutual

/-- Identity of values, member order included. -/
def same : Json → Json → Bool
  | .null, .null => true
  | .bool left, .bool right => left = right
  | .int left, .int right => left = right
  | .float left, .float right => left = right
  | .string left, .string right => left = right
  | .array left, .array right => sameItems left right
  | .object left, .object right => sameMembers left right
  | _, _ => false

def sameItems : List Json → List Json → Bool
  | [], [] => true
  | left :: lefts, right :: rights => same left right && sameItems lefts rights
  | _, _ => false

def sameMembers : List (String × Json) → List (String × Json) → Bool
  | [], [] => true
  | (leftName, left) :: lefts, (rightName, right) :: rights =>
      leftName = rightName && same left right && sameMembers lefts rights
  | _, _ => false

end

mutual

theorem eq_of_same : (left right : Json) → same left right = true → left = right
  | .null, right, h => by cases right <;> simp_all [same]
  | .bool _, right, h => by cases right <;> simp_all [same]
  | .int _, right, h => by cases right <;> simp_all [same]
  | .float _, right, h => by cases right <;> simp_all [same]
  | .string _, right, h => by cases right <;> simp_all [same]
  | .array left, right, h => by
      cases right with
      | array right => exact congrArg _ (eq_of_sameItems left right (by simpa [same] using h))
      | _ => simp [same] at h
  | .object left, right, h => by
      cases right with
      | object right => exact congrArg _ (eq_of_sameMembers left right (by simpa [same] using h))
      | _ => simp [same] at h

theorem eq_of_sameItems : (left right : List Json) → sameItems left right = true → left = right
  | [], right, h => by cases right <;> simp_all [sameItems]
  | left :: lefts, right, h => by
      cases right with
      | nil => simp [sameItems] at h
      | cons right rights =>
          simp only [sameItems, Bool.and_eq_true] at h
          rw [eq_of_same left right h.1, eq_of_sameItems lefts rights h.2]

theorem eq_of_sameMembers : (left right : List (String × Json)) →
    sameMembers left right = true → left = right
  | [], right, h => by cases right <;> simp_all [sameMembers]
  | (leftName, left) :: lefts, right, h => by
      cases right with
      | nil => simp [sameMembers] at h
      | cons right rights =>
          simp only [sameMembers, Bool.and_eq_true, decide_eq_true_eq] at h
          rw [eq_of_sameMembers lefts rights h.2, h.1.1, eq_of_same left right.2 h.1.2]

end

mutual

theorem same_self : (value : Json) → same value value = true
  | .null => by simp [same]
  | .bool _ => by simp [same]
  | .int _ => by simp [same]
  | .float _ => by simp [same]
  | .string _ => by simp [same]
  | .array items => by simpa [same] using sameItems_self items
  | .object members => by simpa [same] using sameMembers_self members

theorem sameItems_self : (items : List Json) → sameItems items items = true
  | [] => by simp [sameItems]
  | item :: items => by simp [sameItems, same_self item, sameItems_self items]

theorem sameMembers_self : (members : List (String × Json)) →
    sameMembers members members = true
  | [] => by simp [sameMembers]
  | (_, value) :: members => by
      simp [sameMembers, same_self value, sameMembers_self members]

end

instance : DecidableEq Json := fun left right =>
  if h : same left right = true then .isTrue (eq_of_same left right h)
  else .isFalse fun equal => h (equal ▸ same_self left)

def asString? : Json → Option String
  | .string value => some value
  | _ => none

def asObject? : Json → Option (List (String × Json))
  | .object members => some members
  | _ => none

end Json

end SessionTokens
