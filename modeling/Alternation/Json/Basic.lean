/-
# JSON values and their texts

`SPEC_FULL` §10.4: the JSON of responses and of the preview.

An object keeps its members in the order given. Whole numbers and floats are
different: a float keeps its point, `2.0` or `-0.0`, and is written with an
exponent from `1e+16` up and below `1e-5`. A float that is not finite is written
`null`.

* `Json.compact` writes a value without white space.
* `Json.pretty` writes every member and element on a line of its own, indented by
  two spaces for each level.
-/

import Alternation.Decimal.Shortest

namespace Alternation

/-- A JSON value. -/
inductive Json where
  | null
  | bool (b : Bool)
  | int (i : Int)
  | float (x : Float)
  | str (s : String)
  | arr (items : List Json)
  | obj (members : List (String × Json))

instance : Inhabited Json := ⟨.null⟩

namespace Json

/-! ## Leaves -/

/-- The hexadecimal digit of a number below sixteen. -/
def hexDigit (n : Nat) : Char := Char.ofNat (if n < 10 then 48 + n else 87 + n)

/-- The text of one character inside a string. -/
def escapedChar (c : Char) : List Char :=
  if c = '"' then ['\\', '"']
  else if c = '\\' then ['\\', '\\']
  else if c = '\x08' then ['\\', 'b']
  else if c = '\t' then ['\\', 't']
  else if c = '\n' then ['\\', 'n']
  else if c = '\x0c' then ['\\', 'f']
  else if c = '\r' then ['\\', 'r']
  else if c.toNat < 32 then ['\\', 'u', '0', '0', hexDigit (c.toNat / 16), hexDigit (c.toNat % 16)]
  else [c]

/-- The text of a string, with its quotes. -/
def quoted (s : String) : List Char := '"' :: (s.toList.flatMap escapedChar ++ ['"'])

/-- Floats keep their point; exponents of the leading digit from -5 to 15 are
written out; of two equally near decimals the even one is taken. -/
def floatLayout : Decimal.Layout where
  tie := .toEven
  plain e := decide (-5 ≤ e ∧ e < 16)
  pointZero := true

/-- The text of a float. -/
def floatText (x : Float) : String :=
  if x.isNaN || x.isInf then "null" else floatLayout.finite x.toBits

/-! ## Compact text -/

mutual

/-- The text without white space, as characters. -/
def compactChars : Json → List Char
  | null => "null".toList
  | bool b => (if b then "true" else "false").toList
  | int i => (toString i).toList
  | float x => (floatText x).toList
  | str s => quoted s
  | arr items => '[' :: (compactItems items ++ [']'])
  | obj members => '\x7b' :: (compactMembers members ++ ['\x7d'])

/-- The elements of an array with commas between them. -/
def compactItems : List Json → List Char
  | [] => []
  | [x] => compactChars x
  | x :: y :: rest => compactChars x ++ ',' :: compactItems (y :: rest)

/-- The members of an object with commas between them. -/
def compactMembers : List (String × Json) → List Char
  | [] => []
  | [(k, x)] => quoted k ++ ':' :: compactChars x
  | (k, x) :: m :: rest => quoted k ++ ':' :: (compactChars x ++ ',' :: compactMembers (m :: rest))

end

/-- The text without white space. -/
def compact (j : Json) : String := String.ofList j.compactChars

/-! ## Indented text -/

/-- A line break and the indentation of a level. -/
def lineBreak (level : Nat) : List Char := '\n' :: List.replicate (2 * level) ' '

mutual

/-- The indented text of a value that starts at the given level. -/
def prettyChars (level : Nat) : Json → List Char
  | arr [] => ['[', ']']
  | arr (x :: xs) =>
    '[' :: (lineBreak (level + 1) ++ prettyChars (level + 1) x ++
      prettyItems (level + 1) xs ++ lineBreak level ++ [']'])
  | obj [] => ['\x7b', '\x7d']
  | obj ((k, x) :: ms) =>
    '\x7b' :: (lineBreak (level + 1) ++ quoted k ++ [':', ' '] ++ prettyChars (level + 1) x ++
      prettyMembers (level + 1) ms ++ lineBreak level ++ ['\x7d'])
  | null => "null".toList
  | bool b => (if b then "true" else "false").toList
  | int i => (toString i).toList
  | float x => (floatText x).toList
  | str s => quoted s

/-- Further elements, each after a comma and on a line of its own. -/
def prettyItems (level : Nat) : List Json → List Char
  | [] => []
  | x :: xs => ',' :: (lineBreak level ++ prettyChars level x ++ prettyItems level xs)

/-- Further members, each after a comma and on a line of its own. -/
def prettyMembers (level : Nat) : List (String × Json) → List Char
  | [] => []
  | (k, x) :: ms =>
    ',' :: (lineBreak level ++ quoted k ++ [':', ' '] ++ prettyChars level x ++
      prettyMembers level ms)

end

/-- The indented text. -/
def pretty (j : Json) : String := String.ofList (j.prettyChars 0)

/-! ## Access -/

/-- The value of a member of an object. -/
def get? (j : Json) (key : String) : Option Json :=
  match j with
  | obj members => members.lookup key
  | _ => none

end Json
end Alternation
