/-
# RON documents

`SPEC_FULL` §10.3 and §4.1: the documents that `ServerConfig` and `NameCorpus` are read
from.

A `Ron` is the value that a text writes: a record of named fields, a tuple, a
list, a map, an option or a leaf. A document is a record, whose name may be left
out. It may start with `#![enable(…)]`, naming extensions; with `implicit_some` a
value may stand for an option that holds it.

Values nest 128 levels deep at most. A record, tuple, list or map is a level, and
what stands in it is one more; so is the value that an option holds.

* `Ron.Schema.read?` reads the fields of a document.
* `string?`, `strings?`, `naturalBelow?` and `option?` give the contents of values.
-/

import Alternation.Ron.Lexeme

namespace Alternation

/-- A value of a RON document. -/
inductive Ron where
  | bool (b : Bool)
  | number (n : Ron.Number)
  | char (c : Char)
  | string (s : String)
  | list (items : List Ron)
  | map (entries : List (Ron × Ron))
  | record (name : Option String) (fields : List (String × Ron))
  | tuple (name : Option String) (items : List Ron)
  /-- A name by itself; without a name, an empty pair of parentheses. -/
  | unit (name : Option String)
  | some (value : Ron)
  | none

instance : Inhabited Ron := ⟨.none⟩

namespace Ron

/-! ## Punctuation -/

/-- Reads something at the start of a text, unless it is not there. -/
abbrev Reader (α : Type) : Type := List Char → Option (α × List Char)

/-- Reads a comma with the white space around it; tells whether there was one. -/
def readComma : Reader Bool := fun cs => do
  match ← skipSpace cs with
  | ',' :: rest => return (true, ← skipSpace rest)
  | rest => return (false, rest)

/-- Reads a colon with the white space around it. -/
def readColon : Reader Unit := fun cs => do
  match ← skipSpace cs with
  | ':' :: rest => return ((), ← skipSpace rest)
  | _ => Option.none

/-- Reads what stands before a colon and what stands after it. -/
def readEntry {α β : Type} (readKey : Reader α) (readValue : Reader β) : Reader (α × β) :=
  fun cs => do
    let (key, rest) ← readKey cs
    let ((), rest) ← readColon rest
    let (value, rest) ← readValue rest
    return ((key, value), rest)

/-- Reads things with commas between them up to the closing mark, before which a
comma may stand too. Each takes a character at least, so as many steps as
characters do. -/
def readUpTo {α : Type} (close : Char) (read : Reader α) : Nat → Reader (List α)
  | 0, _ => Option.none
  | steps + 1, cs =>
    if cs.head? = Option.some close then Option.some ([], cs.drop 1)
    else do
      let (item, rest) ← read cs
      match ← readComma rest with
      | (true, rest) =>
        let (items, rest) ← readUpTo close read steps rest
        return (item :: items, rest)
      | (false, rest) =>
        if rest.head? = Option.some close then return ([item], rest.drop 1) else Option.none

/-- Reads things with commas between them after an opening mark. -/
def readEnclosed {α : Type} (close : Char) (read : Reader α) : Reader (List α) := fun cs => do
  let rest ← skipSpace cs
  readUpTo close read (rest.length + 1) rest

/-! ## Values -/

/-- Reads a value in which no other values stand. -/
def readLeaf : Reader Ron := fun cs =>
  match cs with
  | [] => Option.none
  | '(' :: ')' :: rest => Option.some (.unit Option.none, rest)
  | '\'' :: rest => do
    match ← readEscaped '\'' rest.length rest with
    | ([c], rest) => return (.char c, rest)
    | _ => Option.none
  | c :: _ =>
    if Number.isStart c then (Number.read cs).map fun (n, rest) => (.number n, rest)
    else
      match readWord cs with
      | ("true", rest) => Option.some (.bool true, rest)
      | ("false", rest) => Option.some (.bool false, rest)
      | ("None", rest) => Option.some (.none, rest)
      | ("Some", _) => Option.none
      | ("inf", rest) => Option.some (.number (.decimal "inf"), rest)
      | ("NaN", rest) => Option.some (.number (.decimal "NaN"), rest)
      | _ =>
        match readName cs with
        | Option.some (name, rest) => Option.some (.unit (Option.some name), rest)
        | Option.none => (readString cs).map fun (s, rest) => (.string s, rest)

/-- A name and a colon follow, so that a record begins here. -/
def startsField (cs : List Char) : Bool :=
  match readName cs with
  | Option.some (_, rest) => (readColon rest).isSome
  | Option.none => false

/-- Reads the fields of a record or the elements of a tuple after the parenthesis. -/
def readBody (element : Reader Ron) (name : Option String) : Reader Ron := fun cs => do
  if startsField (← skipSpace cs) then
    let (fields, rest) ← readEnclosed ')' (readEntry readName element) cs
    return (.record name fields, rest)
  else
    let (items, rest) ← readEnclosed ')' element cs
    return (.tuple name items, rest)

/-- Reads what an option holds after `Some`. Without parentheses the value must be
one that may stand for an option. -/
def readSome (implicit : Bool) (held : Reader Ron) : Reader Ron := fun cs => do
  match ← skipSpace cs with
  | '(' :: rest =>
    let (value, rest) ← held (← skipSpace rest)
    match ← readComma rest with
    | (_, ')' :: rest) => return (.some value, rest)
    | _ => Option.none
  | rest =>
    if implicit then
      let (value, rest) ← held rest
      return (.some value, rest)
    else Option.none

/-- Reads a value, given how to read what an option holds and what stands in a
record, tuple, list or map. -/
def readForm (implicit : Bool) (held element : Reader Ron) : Reader Ron := fun cs =>
  match cs with
  | '(' :: ')' :: _ => readLeaf cs
  | '(' :: rest => readBody element Option.none rest
  | '[' :: rest => do
    let (items, rest) ← readEnclosed ']' element rest
    return (.list items, rest)
  | '\x7b' :: rest => do
    let (entries, rest) ← readEnclosed '\x7d' (readEntry element element) rest
    return (.map entries, rest)
  | _ =>
    match readWord cs with
    | ("Some", rest) => readSome implicit held rest
    | _ => do
      match ← readLeaf cs with
      | (.unit name, rest) =>
        match ← skipSpace rest with
        | '(' :: rest => readBody element name rest
        | rest => return (.unit name, rest)
      | leaf => return leaf

/-- Reads a value that may nest so many levels deep. -/
def readValue (implicit : Bool) : Nat → Reader Ron
  | 0 => readLeaf
  | 1 => readForm implicit readLeaf fun _ => Option.none
  | levels + 2 => readForm implicit (readValue implicit (levels + 1)) (readValue implicit levels)

/-- Reads a value where an option is expected. `Some` need not end there: `Some5`
is `Some` and `5`. -/
def readOption (implicit : Bool) (held : Reader Ron) : Reader Ron := fun cs =>
  match cs with
  | 'N' :: 'o' :: 'n' :: 'e' :: rest => Option.some (.none, rest)
  | 'S' :: 'o' :: 'm' :: 'e' :: rest => readSome implicit held rest
  | _ =>
    if implicit then (held cs).map fun (value, rest) => (.some value, rest) else Option.none

/-! ## Documents -/

/-- What is known of a document before it is read: the name of its record, and
which of the fields hold options. -/
structure Schema where
  name : String
  options : List String

namespace Schema

/-- Passes over the given marks, each with the white space after it. -/
def readMarks : List String → List Char → Option (List Char)
  | [], cs => Option.some cs
  | mark :: marks, cs =>
    if mark.toList.isPrefixOf cs then do readMarks marks (← skipSpace (cs.drop mark.length))
    else Option.none

/-- The names of extensions. -/
def extensionNames : List String :=
  ["unwrap_newtypes", "implicit_some", "unwrap_variant_newtypes"]

/-- Reads the names of extensions. -/
def readExtensions : Nat → Reader (List String)
  | 0, _ => Option.none
  | steps + 1, cs => do
    let (name, rest) ← readName cs
    if name ∉ extensionNames then Option.none
    else
      match ← readComma rest with
      | (true, rest) =>
        if rest.head?.any isNameRest then
          let (names, rest) ← readExtensions steps rest
          return (name :: names, rest)
        else return ([name], rest)
      | (false, rest) => return ([name], rest)

/-- Reads the attributes at the start of a document. -/
def readAttributes : Nat → Reader (List String)
  | 0, _ => Option.none
  | steps + 1, cs =>
    match cs with
    | '#' :: _ => do
      let rest ← readMarks ["#", "!", "[", "enable", "("] cs
      let (names, rest) ← readExtensions rest.length rest
      let rest ← readMarks [")", "]"] (← skipSpace rest)
      let (more, rest) ← readAttributes steps rest
      return (names ++ more, rest)
    | _ => Option.some ([], cs)

/-- Passes over the name of the record, if there is one. -/
def readRecordName (schema : Schema) (cs : List Char) : Option (List Char) :=
  if cs.head? = Option.some '(' then Option.some cs
  else
    match readName cs with
    | Option.some (name, rest) => if name = schema.name then skipSpace rest else Option.none
    | Option.none => Option.none

/-- How many levels values nest at most. -/
def levelLimit : Nat := 128

/-- Reads a field. The record is a level, and so is the field. -/
def readField (schema : Schema) (implicit : Bool) : Reader (String × Ron) := fun cs => do
  let (name, rest) ← readName cs
  let ((), rest) ← readColon rest
  let (value, rest) ←
    if name ∈ schema.options then readOption implicit (readValue implicit (levelLimit - 3)) rest
    else readValue implicit (levelLimit - 2) rest
  return ((name, value), rest)

/-- The fields of the document that a text is, with nothing but white space and
comments around it. -/
def read? (schema : Schema) (text : String) : Option (List (String × Ron)) := do
  let cs ← skipSpace text.toList
  let (extensions, cs) ← readAttributes (cs.length + 1) cs
  match ← schema.readRecordName cs with
  | '(' :: rest =>
    let implicit := decide ("implicit_some" ∈ extensions)
    let (fields, rest) ← readEnclosed ')' (schema.readField implicit) rest
    if (← skipSpace rest) = [] then return fields else Option.none
  | _ => Option.none

end Schema

/-! ## Contents -/

/-- The string. -/
def string? : Ron → Option String
  | .string s => Option.some s
  | _ => Option.none

/-- The strings of a list. -/
def strings? : Ron → Option (List String)
  | .list items => items.mapM string?
  | _ => Option.none

/-- The unsigned whole number below `bound`. -/
def naturalBelow? (bound : Nat) : Ron → Option Nat
  | .number (.natural n) => if n < bound then Option.some n else Option.none
  | _ => Option.none

/-- The option that a value writes, its content read by `read`. -/
def option? {α : Type} (read : Ron → Option α) : Ron → Option (Option α)
  | .none => Option.some Option.none
  | .some value => (read value).map Option.some
  | _ => Option.none

end Ron
end Alternation
