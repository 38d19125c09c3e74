/-
# Conditions

`SPEC_FULL` §3, *Condition* and its *key*: `Condition` (`slots`, `key`, its display) and
`ConditionId` (`filler`, `is_filler`).

A `Condition` is a point of an experiment's manipulation space: a row of slots,
each holding a number below 256 or left unset. A `ConditionId` tells in a trial
which condition it shows; a filler has the values of its classes there, after
the word `filler`.
-/

import Alternation.Materials.Value

namespace Alternation

/-- A row of slots, some of them unset. -/
structure Condition where
  slots : List (Option UInt8)
deriving DecidableEq, Repr

namespace Condition

/-- The condition whose slots are all set. -/
def ofDigits (digits : List UInt8) : Condition := ⟨digits.map some⟩

/-- The number of slots. -/
def arity (c : Condition) : Nat := c.slots.length

/-- The value in a slot; `none` if it is unset or beyond the last. -/
def get? (c : Condition) (index : Nat) : Option UInt8 := (c.slots[index]?).join

/-- A slot in a key. -/
def slotKey : Option UInt8 → String
  | some v => toString v.toNat
  | none => "x"

/-- The slots run together, an unset one as `x`. -/
def key (c : Condition) : String := String.join (c.slots.map slotKey)

/-- A slot on display. -/
def slotDisplay : Option UInt8 → String
  | some v => toString v.toNat
  | none => "None"

/-- The slots in parentheses. -/
def display (c : Condition) : String :=
  "(" ++ ", ".intercalate (c.slots.map slotDisplay) ++ ")"

/-- A slot as JSON. -/
def slotJson : Option UInt8 → Json
  | some v => .int v.toNat
  | none => .null

/-- The condition as JSON. -/
def toJson (c : Condition) : Json := .arr (c.slots.map slotJson)

/-- The slot that a JSON value stands for. -/
def slotOfJson? : Json → Option (Option UInt8)
  | .null => some none
  | .int i => if 0 ≤ i ∧ i < 256 then some (some (UInt8.ofNat i.toNat)) else none
  | _ => none

/-- The condition that a JSON value stands for. -/
def ofJson? : Json → Option Condition
  | .arr items => (items.mapM slotOfJson?).map Condition.mk
  | _ => none

end Condition

/-- How a trial names its condition. -/
inductive ConditionId where
  | experimental (condition : Condition)
  | filler (classes : List Value)

namespace ConditionId

/-- The trial is a filler. -/
def isFiller : ConditionId → Bool
  | experimental _ => false
  | filler _ => true

/-- The labels of a filler with the given classes. -/
def labels (classes : List Value) : List Value := .text "filler" :: classes

/-- The name as JSON. -/
def toJson : ConditionId → Json
  | experimental c => c.toJson
  | filler classes => .arr ((labels classes).map Value.toJson)

/-- The name in a listing. -/
def display : ConditionId → String
  | experimental c => c.display
  | filler classes => "/".intercalate ((labels classes).map Value.display)

end ConditionId
end Alternation
