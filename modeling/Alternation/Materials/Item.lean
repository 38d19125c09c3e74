/-
# Items and materials sets

`SPEC_FULL` §3, *Item* and *MaterialsSet*: `Item` (`get`, `text`, `is_filled`,
`is_excluded`, `id`) and `MaterialsSet` (`from_json`).

An `Item` is a row of materials: named fields, each with a value. A
`MaterialsSet` is a named list of items, kept as a JSON document: an object with
a `name` and, if it has any, `items`; or an array of these in that order. Other
members are ignored whatever they hold.
-/

import Alternation.Materials.Value
import Alternation.Table

namespace Alternation

/-! ## Items -/

/-- A row of materials. -/
structure Item where
  fields : Table Value

namespace Item

/-- The item without fields. -/
def empty : Item := ⟨.empty⟩

instance : Inhabited Item := ⟨empty⟩

/-- The value of a field. -/
def get? (item : Item) (field : String) : Option Value := item.fields.get? field

/-- The item with a field set. -/
def set (item : Item) (field : String) (value : Value) : Item := ⟨item.fields.insert field value⟩

/-- The text of a field, if it is there and holds text. -/
def text? (item : Item) (field : String) : Option String := (item.get? field).bind Value.text?

/-- The field is there and not empty. -/
def isFilled (item : Item) (field : String) : Bool := (item.get? field).any (!·.isEmpty)

/-- The author of the materials marked the item for exclusion. -/
def isExcluded (item : Item) : Bool := (item.get? "exclude").any Value.isTruthy

/-- The identifier of the row. -/
def id? (item : Item) : Option Value := item.get? "id"

/-- The identifier of the row as messages show it. -/
def label (item : Item) : String := (item.id?.map Value.display).getD "<no id>"

/-- Setting a field changes what is found under its name and nothing else. -/
@[simp] theorem get?_set (item : Item) (field field' : String) (value : Value) :
    (item.set field value).get? field' =
      if field' = field then some value else item.get? field' :=
  Table.get?_insert _ _ _ _

/-- The item as JSON. -/
def toJson (item : Item) : Json := .obj (item.fields.entries.map fun e => (e.1, e.2.toJson))

/-- The fields of an item's members. -/
def fieldsOf? (members : List (List Json.Symbol × Json.Document)) :
    Option (List (String × Value)) :=
  members.mapM fun m => do return (← Json.Symbol.text? m.1, ← Value.ofDocument? m.2)

/-- The item of an object; a field given twice has its last value. -/
def ofDocument? : Json.Document → Option Item
  | .object members => (fieldsOf? members).map fun fields => ⟨Table.ofList fields⟩
  | _ => none

end Item

/-! ## Materials sets -/

/-- A named list of items. -/
structure MaterialsSet where
  name : String
  items : List Item

namespace MaterialsSet

instance : Inhabited MaterialsSet := ⟨⟨"", []⟩⟩

/-- The set as JSON. -/
def toJson (set : MaterialsSet) : Json :=
  .obj [("name", .str set.name), ("items", .arr (set.items.map Item.toJson))]

/-- The name that a document writes. -/
def nameOf? : Json.Document → Option String
  | .string symbols => Json.Symbol.text? symbols
  | _ => none

/-- The items that a document lists. -/
def itemsOf? : Json.Document → Option (List Item)
  | .array items => items.mapM Item.ofDocument?
  | _ => none

/-- The set of an object's members. -/
def ofMembers? (members : List (String × Json.Document)) : Option MaterialsSet := do
  let name ← nameOf? (← (← single? members "name"))
  let items ←
    match ← single? members "items" with
    | some d => itemsOf? d
    | none => some []
  return ⟨name, items⟩

/-- The set that a document holds. -/
def ofDocument? : Json.Document → Option MaterialsSet
  | .object members => do
    ofMembers? (← members.mapM fun m => do return (← Json.Symbol.text? m.1, m.2))
  | .array [name] => do return ⟨← nameOf? name, []⟩
  | .array [name, items] => do return ⟨← nameOf? name, ← itemsOf? items⟩
  | _ => none

/-- The set that a text holds. -/
def parse? (source : String) : Option MaterialsSet :=
  (Json.Document.parse? source).bind ofDocument?

end MaterialsSet

/-- The two sets from which a trial set is drawn. -/
structure MaterialsBundle where
  experimental : MaterialsSet
  fillers : MaterialsSet

end Alternation
