/-
# Errors of rendering

`SPEC_FULL` §7: `RenderError`, with the checks that raise it (`malformed`, `slot`,
`flag_slot`, `require_text`, `require_flag`, `require_id`).

| error | arises when |
| --- | --- |
| `malformedField` | a field that is read is missing, is not text, or holds an unknown word |
| `insufficientMaterials` | a pool has fewer items than are to be drawn |
| `unknownSubtype` | a placeholder asks for something that does not go with a person |
| `namesExhausted` | no unused name came up in as many draws as are allowed |
| `conditionSlot` | a slot that is read is unset or has no meaning there |
| `emptyConditionSpace` | a condition is to be drawn and there is none |
-/

import Alternation.Condition
import Alternation.Materials.Item
import Alternation.Names.Bindings

namespace Alternation

/-- What is wrong with a field. -/
inductive FieldFault where
  | missing
  | notText
  | unknown (word : String)
deriving DecidableEq, Repr

/-- The fault in words. -/
def FieldFault.message : FieldFault → String
  | missing => "is missing"
  | notText => "is not text"
  | unknown word => "has unknown value '" ++ word ++ "'"

/-- Why a trial could not be rendered. -/
inductive RenderError where
  | malformedField (item field : String) (fault : FieldFault)
  | insufficientMaterials (pool : String) (requested available : Nat)
  | unknownSubtype (id subtype : String)
  | namesExhausted (draws : Nat)
  | conditionSlot (condition : Condition) (slot : Nat)
  | emptyConditionSpace
deriving DecidableEq, Repr

namespace RenderError

/-- The error in words. -/
def message : RenderError → String
  | malformedField item field fault =>
    "item " ++ item ++ ": field '" ++ field ++ "' " ++ fault.message
  | insufficientMaterials pool requested available =>
    "insufficient materials in '" ++ pool ++ "': requested " ++ toString requested ++
      " items, " ++ toString available ++ " usable"
  | unknownSubtype id subtype =>
    "unknown placeholder subtype '" ++ subtype ++ "' for PERSON" ++ id
  | namesExhausted draws =>
    "no unique name found after " ++ toString draws ++ " draws; name corpus exhausted"
  | conditionSlot condition slot =>
    "condition " ++ condition.display ++ " has no usable slot " ++ toString slot
  | emptyConditionSpace => "condition space is empty"

end RenderError

/-! ## Fields that must be there -/

namespace Item

/-- The fault of a field, as an error. -/
def fault (item : Item) (field : String) (fault : FieldFault) : RenderError :=
  .malformedField item.label field fault

/-- The value of a field that must be there. -/
def requireValue (item : Item) (field : String) : Except RenderError Value :=
  match item.get? field with
  | some v => .ok v
  | none => .error (item.fault field .missing)

/-- The text of a field that must be there and hold text. -/
def requireText (item : Item) (field : String) : Except RenderError String :=
  match item.get? field with
  | some (.text s) => .ok s
  | some _ => .error (item.fault field .notText)
  | none => .error (item.fault field .missing)

/-- The yes or no of a field that must be there; null counts as no. -/
def requireFlag (item : Item) (field : String) : Except RenderError Bool :=
  (item.requireValue field).map Value.isTruthy

/-- The identifier of the row. -/
def requireId (item : Item) : Except RenderError Value := item.requireValue "id"

end Item

/-! ## Slots that must be set -/

namespace Condition

/-- The value of a slot that must be set. -/
def requireSlot (c : Condition) (index : Nat) : Except RenderError UInt8 :=
  match c.get? index with
  | some v => .ok v
  | none => .error (.conditionSlot c index)

/-- The flag of a slot that must hold 0 or 1. -/
def requireFlag (c : Condition) (index : Nat) : Except RenderError Bool := do
  match ← c.requireSlot index with
  | 0 => return false
  | 1 => return true
  | _ => .error (.conditionSlot c index)

/-- A flag is told by what its slot holds. -/
theorem requireFlag_eq (c : Condition) (index : Nat) :
    c.requireFlag index =
      match c.get? index with
      | some 0 => .ok false
      | some 1 => .ok true
      | _ => .error (.conditionSlot c index) := by
  unfold requireFlag requireSlot
  cases c.get? index with
  | none => rfl
  | some v =>
    simp only [bind, Except.bind, pure, Except.pure]
    split <;> split <;> simp_all

end Condition
end Alternation
