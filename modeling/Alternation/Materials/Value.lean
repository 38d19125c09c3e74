/-
# Values of materials

`SPEC_FULL` §3, the values of an *Item*: `Value` (`is_empty`, `is_truthy`, `as_str`, its
display).

Materials come from spreadsheets, so a cell holds whatever the conversion made of
it: text, a yes or no, a number, or nothing. A number written as a whole number
within 64 bits is an integer; every other number is a float.

| | empty | counts as yes |
| --- | --- | --- |
| `null` | yes | no |
| text | if it is `""` | if it is not `""` |
| a float | if it is not a number | if it is a number other than zero |
| an integer | no | if it is not zero |
| a yes or no | no | if it is yes |
-/

import Alternation.Json.Document

namespace Alternation

/-- The value of a cell. -/
inductive Value where
  | bool (b : Bool)
  | int (i : Int64)
  | float (x : Float)
  | text (s : String)
  | null

instance : Inhabited Value := ⟨.null⟩

namespace Value

/-- Nothing is in the cell: null, empty text, or a float that is not a number. -/
def isEmpty : Value → Bool
  | null => true
  | text s => s == ""
  | float x => x.isNaN
  | bool _ => false
  | int _ => false

/-- The cell counts as yes. -/
def isTruthy : Value → Bool
  | bool b => b
  | int i => i != 0
  | float x => x != 0 && !x.isNaN
  | text s => s != ""
  | null => false

/-- The text, if the value is text. -/
def text? : Value → Option String
  | text s => some s
  | _ => none

/-! ## Display -/

/-- Displayed floats never have an exponent; of two equally near decimals the
upper one is taken. -/
def displayLayout : Decimal.Layout where
  tie := .upward
  plain _ := true
  pointZero := false

/-- A float as displayed. -/
def displayFloat (x : Float) : String :=
  if x.isNaN then "NaN"
  else if x.isInf then (if x < 0 then "-inf" else "inf")
  else displayLayout.finite x.toBits

/-- The value as it appears in messages and listings. -/
def display : Value → String
  | bool b => if b then "true" else "false"
  | int i => toString i.toInt
  | float x => displayFloat x
  | text s => s
  | null => "null"

/-! ## JSON -/

/-- The value as JSON. -/
def toJson : Value → Json
  | bool b => .bool b
  | int i => .int i.toInt
  | float x => .float x
  | text s => .str s
  | null => .null

/-- The value of a numeral, unless it is beyond all floats. -/
def ofNumeral? (n : Json.Numeral) : Option Value :=
  match n.int? with
  | some i =>
    if Int64.minValue.toInt ≤ i ∧ i ≤ Int64.maxValue.toInt then some (.int (Int64.ofInt i))
    else n.float?.map .float
  | none => n.float?.map .float

/-- The value of a cell's document; lists and objects are no values of a cell. -/
def ofDocument? : Json.Document → Option Value
  | .null => some .null
  | .bool b => some (.bool b)
  | .number n => ofNumeral? n
  | .string symbols => (Json.Symbol.text? symbols).map .text
  | .array _ => none
  | .object _ => none

/-- The value of a cell's text. -/
def parse? (source : String) : Option Value := (Json.Document.parse? source).bind ofDocument?

end Value
end Alternation
