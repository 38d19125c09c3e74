/-
# Usable items

`SPEC_FULL` §4.4, Materials Filter: `is_usable`, `drop_reasons`, `filter_items`.

An experiment can use an item that is not marked for exclusion, has every required
field filled, and has every flag field at all: flags may be no, or empty.
`dropReasons` lists what is wrong with an item; an item is usable exactly when
nothing is (`dropReasons_eq_nil_iff`).
-/

import Alternation.Materials.Item

namespace Alternation

/-- A reason for not using an item. -/
inductive DropReason where
  | excluded
  | missing (field : String)
  | empty (field : String)
deriving DecidableEq, Repr

/-- The reason in words. -/
def DropReason.message : DropReason → String
  | excluded => "marked for exclusion"
  | missing field => "missing field '" ++ field ++ "'"
  | empty field => "empty field '" ++ field ++ "'"

namespace Item

variable (item : Item) (required flags : List String)

/-- The item can be used. -/
def isUsable : Bool :=
  !item.isExcluded && required.all item.isFilled && flags.all fun f => (item.get? f).isSome

/-- What is wrong with a required field. -/
def requiredFault (field : String) : Option DropReason :=
  match item.get? field with
  | none => some (.missing field)
  | some v => if v.isEmpty then some (.empty field) else none

/-- What is wrong with a flag field. -/
def flagFault (field : String) : Option DropReason :=
  match item.get? field with
  | none => some (.missing field)
  | some _ => none

/-- Everything that is wrong with the item. -/
def dropReasons : List DropReason :=
  (if item.isExcluded then [.excluded] else []) ++
    required.filterMap item.requiredFault ++ flags.filterMap item.flagFault

/-- Nothing is wrong with a required field just if it is filled. -/
theorem requiredFault_eq_none_iff (field : String) :
    item.requiredFault field = none ↔ item.isFilled field = true := by
  unfold requiredFault isFilled
  cases item.get? field with
  | none => simp
  | some v => cases h : v.isEmpty <;> simp [h]

/-- Nothing is wrong with a flag field just if it is there. -/
theorem flagFault_eq_none_iff (field : String) :
    item.flagFault field = none ↔ (item.get? field).isSome = true := by
  unfold flagFault
  cases item.get? field <;> simp

/-- **Nothing is wrong with exactly the usable items.** -/
theorem dropReasons_eq_nil_iff :
    item.dropReasons required flags = [] ↔ item.isUsable required flags = true := by
  simp only [dropReasons, isUsable, List.append_eq_nil_iff, List.filterMap_eq_nil_iff,
    requiredFault_eq_none_iff, flagFault_eq_none_iff, Bool.and_eq_true, List.all_eq_true]
  cases item.isExcluded <;> simp

end Item

/-- The usable items, in order. -/
def usableItems (items : List Item) (required flags : List String) : List Item :=
  items.filter (·.isUsable required flags)

end Alternation
