/-
# JSON documents

`SPEC_FULL` §10.4: the JSON of materials files.

A `Document` is the structure of a JSON text whose numerals and strings have not
been evaluated yet. Whoever reads a document evaluates the parts that matter: a
numeral beyond the range of floats or half a surrogate pair is a fault only
where the value is used.

The grammar is the strict one: no comments, no trailing commas, no leading
zeros, no control characters in strings, nothing but white space around the
value.

* `Document.parse?` reads a text.
* `Symbol.decode?` evaluates a string, joining surrogate pairs.
* `Document.decode?` evaluates everything.
-/

import Alternation.Json.Basic
import Alternation.Json.Numeral

namespace Alternation
namespace Json

/-! ## Lexemes -/

/-- A piece of a string: a character, or a 16-bit unit written `\u` and four
hexadecimal digits. -/
inductive Symbol where
  | char (c : Char)
  | unit (u : Nat)
deriving DecidableEq, Repr

namespace Symbol

/-- The unit is the first half of a pair. -/
def isHigh (u : Nat) : Bool := decide (0xD800 ≤ u) && decide (u < 0xDC00)

/-- The unit is the second half of a pair. -/
def isLow (u : Nat) : Bool := decide (0xDC00 ≤ u) && decide (u < 0xE000)

/-- The characters of a string, unless half of a surrogate pair stands alone. -/
def decode? : List Symbol → Option (List Char)
  | [] => some []
  | .char c :: rest => (decode? rest).map (c :: ·)
  | .unit u :: .unit v :: rest =>
    if isHigh u then
      if isLow v then
        (decode? rest).map (Char.ofNat (0x10000 + (u - 0xD800) * 0x400 + (v - 0xDC00)) :: ·)
      else none
    else if isLow u then none
    else (decode? (.unit v :: rest)).map (Char.ofNat u :: ·)
  | .unit u :: rest =>
    if isHigh u || isLow u then none else (decode? rest).map (Char.ofNat u :: ·)

/-- The string of these symbols. -/
def text? (symbols : List Symbol) : Option String := (decode? symbols).map String.ofList

end Symbol

/-- The structure of a JSON text. -/
inductive Document where
  | null
  | bool (b : Bool)
  | number (n : Numeral)
  | string (symbols : List Symbol)
  | array (items : List Document)
  | object (members : List (List Symbol × Document))

instance : Inhabited Document := ⟨.null⟩

/-! ## Reading lexemes -/

/-- White space between lexemes. -/
def isSpace (c : Char) : Bool := c == ' ' || c == '\n' || c == '\t' || c == '\r'

/-- What follows the white space at the start. -/
def skipSpace (cs : List Char) : List Char := cs.dropWhile isSpace

/-- The value of a hexadecimal digit. -/
def hexValue? (c : Char) : Option Nat :=
  if '0' ≤ c ∧ c ≤ '9' then some (c.toNat - 48)
  else if 'a' ≤ c ∧ c ≤ 'f' then some (c.toNat - 87)
  else if 'A' ≤ c ∧ c ≤ 'F' then some (c.toNat - 55)
  else none

/-- The value of four hexadecimal digits. -/
def unit? (a b c d : Char) : Option Nat := do
  return (((← hexValue? a) * 16 + (← hexValue? b)) * 16 + (← hexValue? c)) * 16 + (← hexValue? d)

/-- The character that a one-letter escape stands for. -/
def unescaped? (c : Char) : Option Char :=
  match c with
  | '"' => some '"'
  | '\\' => some '\\'
  | '/' => some '/'
  | 'b' => some '\x08'
  | 'f' => some '\x0c'
  | 'n' => some '\n'
  | 'r' => some '\r'
  | 't' => some '\t'
  | _ => none

/-- Reads a string up to its closing quote; the opening one is gone. -/
def readString : List Char → Option (List Symbol × List Char)
  | [] => none
  | '"' :: rest => some ([], rest)
  | '\\' :: 'u' :: a :: b :: c :: d :: rest => do
    let u ← unit? a b c d
    let (symbols, rest) ← readString rest
    return (.unit u :: symbols, rest)
  | '\\' :: e :: rest => do
    let c ← unescaped? e
    let (symbols, rest) ← readString rest
    return (.char c :: symbols, rest)
  | c :: rest =>
    if c.toNat < 32 then none
    else do
      let (symbols, rest) ← readString rest
      return (.char c :: symbols, rest)

/-! ## Reading documents -/

mutual

/-- Reads a value after optional white space. The depth bound is one more than
the number of characters at most. -/
def readValue : Nat → List Char → Option (Document × List Char)
  | 0, _ => none
  | depth + 1, cs =>
    match skipSpace cs with
    | [] => none
    | '[' :: rest =>
      match skipSpace rest with
      | ']' :: rest => some (.array [], rest)
      | rest => (readItems depth rest).map fun (items, rest) => (.array items, rest)
    | '\x7b' :: rest =>
      match skipSpace rest with
      | '\x7d' :: rest => some (.object [], rest)
      | rest => (readMembers depth rest).map fun (members, rest) => (.object members, rest)
    | '"' :: rest => (readString rest).map fun (symbols, rest) => (.string symbols, rest)
    | 'n' :: 'u' :: 'l' :: 'l' :: rest => some (.null, rest)
    | 't' :: 'r' :: 'u' :: 'e' :: rest => some (.bool true, rest)
    | 'f' :: 'a' :: 'l' :: 's' :: 'e' :: rest => some (.bool false, rest)
    | rest => (Numeral.read rest).map fun (n, rest) => (.number n, rest)

/-- Reads the elements of an array up to its closing bracket. -/
def readItems : Nat → List Char → Option (List Document × List Char)
  | 0, _ => none
  | depth + 1, cs => do
    let (item, rest) ← readValue depth cs
    match skipSpace rest with
    | ']' :: rest => some ([item], rest)
    | ',' :: rest =>
      let (items, rest) ← readItems depth rest
      return (item :: items, rest)
    | _ => none

/-- Reads the members of an object up to its closing brace. -/
def readMembers : Nat → List Char → Option (List (List Symbol × Document) × List Char)
  | 0, _ => none
  | depth + 1, cs =>
    match skipSpace cs with
    | '"' :: rest => do
      let (key, rest) ← readString rest
      match skipSpace rest with
      | ':' :: rest =>
        let (value, rest) ← readValue depth rest
        match skipSpace rest with
        | '\x7d' :: rest => some ([(key, value)], rest)
        | ',' :: rest =>
          let (members, rest) ← readMembers depth rest
          return ((key, value) :: members, rest)
        | _ => none
      | _ => none
    | _ => none

end

namespace Document

/-- The document that a text is, with nothing but white space around it. -/
def parse? (text : String) : Option Document :=
  let cs := text.toList
  match readValue (cs.length + 1) cs with
  | some (d, rest) => if skipSpace rest = [] then some d else none
  | none => none

/-! ## Evaluation -/

/-- The value of a numeral: a whole number within 64 bits, or else a float. -/
def ofNumeral? (n : Numeral) : Option Json :=
  match n.int? with
  | some i => some (.int i)
  | none => n.float?.map .float

mutual

/-- The value of a document, unless a numeral or a string in it has none. -/
def decode? : Document → Option Json
  | null => some .null
  | bool b => some (.bool b)
  | number n => ofNumeral? n
  | string symbols => (Symbol.text? symbols).map .str
  | array items => (decodeItems? items).map .arr
  | object members => (decodeMembers? members).map .obj

/-- The values of the elements. -/
def decodeItems? : List Document → Option (List Json)
  | [] => some []
  | d :: ds => do return (← decode? d) :: (← decodeItems? ds)

/-- The names and values of the members. -/
def decodeMembers? : List (List Symbol × Document) → Option (List (String × Json))
  | [] => some []
  | (k, d) :: ms => do return (← Symbol.text? k, ← decode? d) :: (← decodeMembers? ms)

end

end Document

/-- The value that a text writes. -/
def parse? (text : String) : Option Json := (Document.parse? text).bind Document.decode?

end Json
end Alternation
