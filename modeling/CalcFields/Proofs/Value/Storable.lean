import CalcFields.Value.Change
import Mathlib

/-!
A stored value holds finite numbers only, so that it equals itself and is never its own change.
-/

namespace CalcFields

/-- A finite number equals itself, unlike a number that is none. -/
theorem beq_self_of_isFinite {x : Float} (finite : x.isFinite = true) : (x == x) = true := by
  -- Finite and zero are the two forms of a finite number, and each compares as equal with itself.
  have unpacked : x.toModel.unpack.isFinite = true := finite
  show (x.toModel.unpack.compare x.toModel.unpack == some Ordering.eq) = true
  cases form : x.toModel.unpack with
  | infinity sign => rw [form] at unpacked; cases unpacked
  | notANumber => rw [form] at unpacked; cases unpacked
  | zero sign => rfl
  | finite sign mantissa exponent positive =>
    -- The sign decides whether the magnitudes are compared upwards or downwards.
    cases sign <;> simp [Float.Model.UnpackedFloat.compare, Std.ReflCmp.compare_self]

namespace Value

mutual

/-- A stored value is the same as itself. -/
theorem same_storable_self : ∀ v : Value, v.storable.same v.storable = true
  | null => rfl
  | bool b => by simp [storable, same]
  | number x => by
    -- Only a finite number stays a number.
    by_cases finite : x.isFinite = true
    · simp [storable, finite, same, beq_self_of_isFinite finite]
    · simp [storable, finite, same]
  | string s => by simp [storable, same]
  -- An array and an object are stored part by part.
  | array items => by
    simpa only [storable, same] using sameItems_storable_self items
  | object members => by
    simpa only [storable, same] using sameMembers_storable_self members

/-- The stored items of an array are the same as themselves. -/
theorem sameItems_storable_self :
    ∀ items : List Value, sameItems (storableItems items) (storableItems items) = true
  | [] => rfl
  | item :: rest => by
    simp only [storableItems, sameItems, Bool.and_eq_true]
    exact ⟨same_storable_self item, sameItems_storable_self rest⟩

/-- The stored members of an object are the same as themselves. -/
theorem sameMembers_storable_self : ∀ members : List (String × Value),
    sameMembers (storableMembers members) (storableMembers members) = true
  | [] => rfl
  | (name, item) :: rest => by
    simp only [storableMembers, sameMembers, Bool.and_eq_true, beq_self_eq_true, true_and]
    exact ⟨same_storable_self item, sameMembers_storable_self rest⟩

end

/-- Writing a stored value over itself is no change. -/
theorem equivalent_storable_self (v : Value) : v.storable.equivalent v.storable = true := by
  have same : (v.storable == v.storable) = true := same_storable_self v
  -- Of the ways to be equivalent, being the same is the first.
  simp [equivalent, same]

end Value

end CalcFields
