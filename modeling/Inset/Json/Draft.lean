import Inset.Json.Value

/-!
# Drafts of JSON values

A draft is what can be read of a text that may stop being JSON somewhere.  It
is a value up to the place of the first fault, and says there what the fault
is.  What reads a record from a draft meets the fault exactly when it comes to
that place, so that an earlier mistake in the data is still the one reported.
A complete value is found again from its draft, by `value?_draft`.
-/

namespace Inset.Json

/-- Why a text is not JSON. -/
inductive Fault
  /-- A character stands where it cannot stand. -/
  | malformed
  /-- The text ends too early. -/
  | unfinished
  deriving DecidableEq, Inhabited

/-- A value up to its first fault.  The fault of an array or object is the one
found where a comma, the next key or the closing bracket was due; after it,
nothing is read. -/
inductive Draft
  | null
  | boolean (value : Bool)
  | number (value : Number)
  | string (text : String)
  | array (items : List Draft) (fault : Option Fault)
  | object (members : List (String × Draft)) (fault : Option Fault)
  | broken (fault : Fault)
  deriving Inhabited

mutual

/-- The draft of a complete value. -/
def Value.draft : Value → Draft
  | .null => .null
  | .boolean value => .boolean value
  | .number value => .number value
  | .string text => .string text
  | .array items => .array (draftItems items) none
  | .object members => .object (draftMembers members) none

/-- The drafts of the items of an array. -/
def draftItems : List Value → List Draft
  | [] => []
  | item :: items => item.draft :: draftItems items

/-- The drafts of the members of an object. -/
def draftMembers : List (String × Value) → List (String × Draft)
  | [] => []
  | (key, value) :: members => (key, value.draft) :: draftMembers members

end

mutual

/-- The value of a draft without faults. -/
def Draft.value? : Draft → Option Value
  | .null => some .null
  | .boolean value => some (.boolean value)
  | .number value => some (.number value)
  | .string text => some (.string text)
  | .array items none => (valueItems? items).map .array
  | .object members none => (valueMembers? members).map .object
  | .array _ (some _) => none
  | .object _ (some _) => none
  | .broken _ => none

/-- The items of an array without faults. -/
def valueItems? : List Draft → Option (List Value)
  | [] => some []
  | item :: items =>
      match item.value?, valueItems? items with
      | some value, some values => some (value :: values)
      | _, _ => none

/-- The members of an object without faults. -/
def valueMembers? : List (String × Draft) → Option (List (String × Value))
  | [] => some []
  | (key, draft) :: members =>
      match draft.value?, valueMembers? members with
      | some value, some values => some ((key, value) :: values)
      | _, _ => none

end

mutual

/-- The draft of a complete value has no faults. -/
@[simp]
theorem value?_draft : ∀ value : Value, value.draft.value? = some value
  | .null => rfl
  | .boolean _ => rfl
  | .number _ => rfl
  | .string _ => rfl
  | .array items => by simp [Value.draft, Draft.value?, valueItems?_draftItems items]
  | .object members => by simp [Value.draft, Draft.value?, valueMembers?_draftMembers members]

@[simp]
theorem valueItems?_draftItems : ∀ items : List Value, valueItems? (draftItems items) = some items
  | [] => rfl
  | item :: items => by
      simp [draftItems, valueItems?, value?_draft item, valueItems?_draftItems items]

@[simp]
theorem valueMembers?_draftMembers :
    ∀ members : List (String × Value), valueMembers? (draftMembers members) = some members
  | [] => rfl
  | (key, value) :: members => by
      simp [draftMembers, valueMembers?, value?_draft value, valueMembers?_draftMembers members]

end

end Inset.Json
