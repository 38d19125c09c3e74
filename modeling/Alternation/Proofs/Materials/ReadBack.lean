/-
# Materials are read back from their text

`SPEC_FULL` §3, *MaterialsSet*, and §10.4: `from_json` on what was written.

A cell is read as the first kind of value that takes its document
(`Value.ofDocument?_eq_findSome?`).  What is written of a value that is not a float is
refused by every kind before its own, so it is read as what it was
(`Value.ofDocument?_ofJson`): an integer is no float, and text is text, whatever it says.

So are the fields of an item, in their order and under their names
(`Item.ofDocument?_ofJson`), and the items of a set: a set without floats is read back from
its text (`MaterialsSet.read_back_of_exact`).
-/

import Alternation.Proofs.Materials.Finite
import Alternation.Proofs.Json.Compact

namespace Alternation

/-! ## Values -/

namespace Value

/-- Takes a yes or no. -/
def readBool : Json.Document → Option Value
  | .bool b => some (.bool b)
  | _ => none

/-- Takes a whole number within 64 bits. -/
def readInt : Json.Document → Option Value
  | .number n =>
    n.int?.bind fun i =>
      if Int64.minValue.toInt ≤ i ∧ i ≤ Int64.maxValue.toInt then some (.int (Int64.ofInt i))
      else none
  | _ => none

/-- Takes any number that is not beyond all floats. -/
def readFloat : Json.Document → Option Value
  | .number n => n.float?.map .float
  | _ => none

/-- Takes a text. -/
def readText : Json.Document → Option Value
  | .string symbols => (Json.Symbol.text? symbols).map .text
  | _ => none

/-- Takes null. -/
def readNull : Json.Document → Option Value
  | .null => some .null
  | _ => none

/-- The readers of the kinds of values, in the order in which they are tried. -/
def readers : List (Json.Document → Option Value) :=
  [readBool, readInt, readFloat, readText, readNull]

/-- A numeral is read as an integer if it can be, and else as a float. -/
theorem ofNumeral?_eq (n : Json.Numeral) :
    ofNumeral? n = (readInt (.number n)).or (readFloat (.number n)) := by
  simp only [ofNumeral?, readInt, readFloat]
  cases n.int? with
  | none => rfl
  | some i =>
    rw [Option.bind_some]
    dsimp only
    split <;> rfl

/-- **The first kind that takes a document** tells what it is read as. -/
theorem ofDocument?_eq_findSome? (d : Json.Document) :
    ofDocument? d = readers.findSome? (· d) := by
  cases d with
  | number n =>
    have hbool : readBool (.number n) = none := rfl
    have htext : readText (.number n) = none := rfl
    have hnull : readNull (.number n) = none := rfl
    rw [ofDocument?, ofNumeral?_eq]
    simp only [readers, List.findSome?_cons, List.findSome?_nil, hbool, htext, hnull]
    cases readInt (.number n) with
    | some v => rfl
    | none => cases readFloat (.number n) <;> rfl
  | string symbols =>
    simp only [ofDocument?, readers, List.findSome?_cons, List.findSome?_nil, readBool, readInt,
      readFloat, readText, readNull]
    cases Json.Symbol.text? symbols <;> rfl
  | _ => rfl

/-- The value is not a float. -/
def IsExact : Value → Prop
  | float _ => False
  | _ => True

instance : DecidablePred IsExact
  | .float _ => .isFalse id
  | .bool _ => .isTrue trivial
  | .int _ => .isTrue trivial
  | .text _ => .isTrue trivial
  | .null => .isTrue trivial

/-- An integer is read back. -/
theorem readInt_ofJson (i : Int64) : readInt (.ofJson (.int i.toInt)) = some (.int i) := by
  have hlow := i.minValue_le_toInt
  have hhigh := i.toInt_le
  have hvalue := Json.Spelling.int?_ofInt hlow (hhigh.trans_lt (by decide))
  rw [Json.Document.ofJson, readInt, hvalue, Option.bind_some, if_pos ⟨hlow, hhigh⟩,
    Int64.ofInt_toInt]

/-- A text is read back. -/
theorem readText_ofJson (s : String) : readText (.ofJson (.str s)) = some (.text s) := by
  rw [Json.Document.ofJson, readText, Json.Symbol.text?_symbols, Option.map_some]

/-- **A value that is not a float** is read as what it was. -/
theorem ofDocument?_ofJson {v : Value} (hv : v.IsExact) :
    ofDocument? (.ofJson v.toJson) = some v := by
  rw [ofDocument?_eq_findSome?]
  cases v with
  | bool b => rfl
  | int i =>
    -- A float would take the document as well, but it is asked later.
    refine List.findSome?_eq_some_iff.2 ⟨[readBool], readInt, _, rfl, readInt_ofJson i, ?_⟩
    exact List.forall_mem_singleton.2 rfl
  | float x => exact hv.elim
  | text s =>
    refine List.findSome?_eq_some_iff.2 ⟨[readBool, readInt, readFloat], readText, _, rfl,
      readText_ofJson s, ?_⟩
    simp only [List.forall_mem_cons]
    exact ⟨rfl, rfl, rfl, nofun⟩
  | null => rfl

end Value

/-! ## Items -/

namespace Item

/-- No field holds a float. -/
def IsExact (item : Item) : Prop := ∀ e ∈ item.fields.entries, e.2.IsExact

instance : DecidablePred IsExact := fun item =>
  inferInstanceAs (Decidable (∀ e ∈ item.fields.entries, e.2.IsExact))

/-- Fields with exact values are read back. -/
theorem fieldsOf?_ofJson {fields : List (String × Value)} (h : ∀ e ∈ fields, e.2.IsExact) :
    fieldsOf? (Json.Document.ofMembers (fields.map fun e => (e.1, e.2.toJson))) = some fields := by
  rw [fieldsOf?, Json.Document.ofMembers_eq_map, mapM_eq_some_iff, List.forall₂_map_left_iff,
    List.forall₂_map_left_iff, List.forall₂_same]
  intro e he
  rw [Json.Symbol.text?_symbols, Value.ofDocument?_ofJson (h e he)]
  rfl

/-- **An item without floats** is read as what it was. -/
theorem ofDocument?_ofJson {item : Item} (h : item.IsExact) :
    ofDocument? (.ofJson item.toJson) = some item := by
  rw [toJson, Json.Document.ofJson, ofDocument?, fieldsOf?_ofJson h, Option.map_some,
    Table.ofList_entries]

end Item

/-! ## Sets -/

namespace MaterialsSet

/-- No item has a float. -/
def IsExact (set : MaterialsSet) : Prop := ∀ item ∈ set.items, item.IsExact

instance : DecidablePred IsExact := fun set =>
  inferInstanceAs (Decidable (∀ item ∈ set.items, item.IsExact))

/-- Exact items are read back. -/
theorem itemsOf?_ofJson {items : List Item} (h : ∀ item ∈ items, item.IsExact) :
    itemsOf? (.array (Json.Document.ofItems (items.map Item.toJson))) = some items := by
  rw [itemsOf?, Json.Document.ofItems_eq_map, mapM_eq_some_iff, List.forall₂_map_left_iff,
    List.forall₂_map_left_iff, List.forall₂_same]
  exact fun item hitem => Item.ofDocument?_ofJson (h item hitem)

/-- The name and the items of an exact set are read back from its members. -/
theorem ofMembers?_ofJson {set : MaterialsSet} (h : set.IsExact) :
    ofMembers? [("name", .ofJson (.str set.name)),
      ("items", .ofJson (.arr (set.items.map Item.toJson)))] = some set := by
  have hname : nameOf? (.string (Json.Symbol.symbols set.name)) = some set.name :=
    Json.Symbol.text?_symbols set.name
  simp [ofMembers?, single?, Json.Document.ofJson, hname, itemsOf?_ofJson h]

/-- An exact set is read back from its document. -/
theorem ofDocument?_ofJson {set : MaterialsSet} (h : set.IsExact) :
    ofDocument? (.ofJson set.toJson) = some set := by
  have hmembers : [(Json.Symbol.symbols "name", Json.Document.ofJson (.str set.name)),
      (Json.Symbol.symbols "items", .ofJson (.arr (set.items.map Item.toJson)))].mapM
        (fun m => do return (← Json.Symbol.text? m.1, m.2)) =
      some [("name", .ofJson (.str set.name)),
        ("items", .ofJson (.arr (set.items.map Item.toJson)))] := by
    refine mapM_eq_some_iff.2 (.cons ?_ (.cons ?_ .nil))
    all_goals
      rw [Json.Symbol.text?_symbols]
      rfl
  have hdocument : Json.Document.ofJson set.toJson =
      .object [(Json.Symbol.symbols "name", .ofJson (.str set.name)),
        (Json.Symbol.symbols "items", .ofJson (.arr (set.items.map Item.toJson)))] := rfl
  rw [hdocument, ofDocument?, hmembers]
  exact ofMembers?_ofJson h

/-- **A set without floats is read back from its text:** its name, its items in their order,
and every field with a value of the same kind, whatever the texts and the names of fields
are and in whichever order an item has its fields. -/
theorem read_back_of_exact {set : MaterialsSet} (h : set.IsExact) :
    parse? set.toJson.compact = some set := by
  rw [parse?, Json.Document.parse?_compact, Option.bind_some, ofDocument?_ofJson h]

/-- Texts that look like other values, a field without a name, and characters with escapes. -/
def lookalikes : MaterialsSet :=
  ⟨"\"a\\b\"\n\x01é😀", [⟨.ofList [("", .text "true"), ("id", .int Int64.minValue),
    ("number", .text "12"), ("null", .text "null"), ("note", .null), ("exclude", .bool false)]⟩,
    .empty]⟩

/-- A set of values that look alike: texts that spell numbers, yeses and nulls. -/
theorem read_back_of_exact_of_lookalikes :
    lookalikes.IsExact ∧ parse? lookalikes.toJson.compact = some lookalikes := by
  have h : lookalikes.IsExact := by decide
  exact ⟨h, read_back_of_exact h⟩

end MaterialsSet
end Alternation
