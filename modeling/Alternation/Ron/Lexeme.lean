/-
# Lexemes of RON documents

`SPEC_FULL` §10.3 and §4.1: the notation of configurations and name corpora.

RON is the object notation of name corpora and server configurations. This module
reads its lexemes: white space with comments, names, strings and numbers.

* White space is what it is in JSON; `//` starts a comment up to the end of the
  line, and `/*` one up to its `*/`, inside which comments nest.
* A name is a run of letters, digits and underscores that starts with no digit;
  after `r#` it may also hold `.`, `+` and `-` and start with anything.
* A string stands between quotes, with escapes, or after `r` and any number of
  `#`, as it is, up to the quote that as many `#` follow.
* A number is whole, in one of four bases and with underscores between its digits,
  or a decimal, in which there is no underscore.
-/

import Alternation.Json.Document

namespace Alternation
namespace Ron

/-! ## White space and comments -/

/-- Where the reader of white space is. -/
inductive SpaceMode where
  | between
  | line
  | block (depth : Nat)
deriving DecidableEq, Repr

/-- Passes over white space and comments; a block comment without an end is a
fault, and so is a slash that starts no comment. -/
def skipFrom : SpaceMode → List Char → Option (List Char)
  | .between, [] => some []
  | .between, '/' :: '/' :: rest => skipFrom .line rest
  | .between, '/' :: '*' :: rest => skipFrom (.block 0) rest
  | .between, c :: rest =>
    if Json.isSpace c then skipFrom .between rest else if c = '/' then none else some (c :: rest)
  | .line, [] => some []
  | .line, c :: rest => skipFrom (if c = '\n' then .between else .line) rest
  | .block _, [] => none
  | .block depth, '/' :: '*' :: rest => skipFrom (.block (depth + 1)) rest
  | .block 0, '*' :: '/' :: rest => skipFrom .between rest
  | .block (depth + 1), '*' :: '/' :: rest => skipFrom (.block depth) rest
  | .block depth, _ :: rest => skipFrom (.block depth) rest

/-- What follows the white space and the comments at the start. -/
def skipSpace (cs : List Char) : Option (List Char) := skipFrom .between cs

/-! ## Names -/

/-- The character may start a name. -/
def isNameStart (c : Char) : Bool := c.isAlpha || c == '_'

/-- The character may go on with a name. -/
def isNameRest (c : Char) : Bool := c.isAlphanum || c == '_'

/-- The character may stand in a name after `r#`. -/
def isRawNameChar (c : Char) : Bool := isNameRest c || c == '.' || c == '+' || c == '-'

/-- The word at the start, a name without `r#` or nothing, and the rest. -/
def readWord (cs : List Char) : String × List Char :=
  if cs.head?.any isNameStart then
    (String.ofList (cs.takeWhile isNameRest), cs.dropWhile isNameRest)
  else ("", cs)

/-- Reads a name. -/
def readName (cs : List Char) : Option (String × List Char) :=
  match cs with
  | 'r' :: '"' :: _ => none
  | 'r' :: '#' :: rest =>
    let name := rest.takeWhile isRawNameChar
    if name = [] then none else some (String.ofList name, rest.dropWhile isRawNameChar)
  | _ =>
    match readWord cs with
    | ("", _) => none
    | (word, rest) => some (word, rest)

/-! ## Strings -/

/-- The character of a code point. -/
def charOf? (n : Nat) : Option Char := if n.isValidChar then some (Char.ofNat n) else none

/-- The number that a row of hexadecimal digits writes. -/
def hexNumber? (ds : List Char) : Option Nat :=
  ds.foldlM (fun n d => (Json.hexValue? d).map (16 * n + ·)) 0

/-- The character that a one-letter escape stands for. -/
def unescaped? (c : Char) : Option Char :=
  match c with
  | '\'' => some '\''
  | '"' => some '"'
  | '\\' => some '\\'
  | 'n' => some '\n'
  | 'r' => some '\r'
  | 't' => some '\t'
  | '0' => some '\x00'
  | _ => none

/-- Reads an escape after its backslash. -/
def readEscape (cs : List Char) : Option (Char × List Char) :=
  match cs with
  | 'x' :: a :: b :: rest => do
    return (Char.ofNat (← hexNumber? [a, b]), rest)
  | 'u' :: '\x7b' :: rest =>
    let ds := (rest.take 6).takeWhile (· != '\x7d')
    match rest.drop ds.length with
    | '\x7d' :: rest => if ds = [] then none else do return (← charOf? (← hexNumber? ds), rest)
    | _ => none
  | c :: rest => do return (← unescaped? c, rest)
  | [] => none

/-- Reads a string with escapes up to the quote `close`; the opening one is gone.
Every step takes a character at least, so as many steps as characters do. -/
def readEscaped (close : Char) : Nat → List Char → Option (List Char × List Char)
  | 0, _ => none
  | _ + 1, [] => none
  | steps + 1, c :: rest =>
    if c = close then some ([], rest)
    else if c = '\\' then do
      let (e, rest) ← readEscape rest
      let (cs, rest) ← readEscaped close steps rest
      return (e :: cs, rest)
    else do
      let (cs, rest) ← readEscaped close steps rest
      return (c :: cs, rest)

/-- Reads a raw string up to the quote that `hashes` marks follow. -/
def readRaw (hashes : Nat) : List Char → Option (List Char × List Char)
  | [] => none
  | c :: rest =>
    if c = '"' ∧ rest.take hashes = List.replicate hashes '#' then some ([], rest.drop hashes)
    else do
      let (cs, rest) ← readRaw hashes rest
      return (c :: cs, rest)

/-- Reads a string of either kind. -/
def readString (cs : List Char) : Option (String × List Char) :=
  match cs with
  | '"' :: rest => do
    let (s, rest) ← readEscaped '"' rest.length rest
    return (String.ofList s, rest)
  | 'r' :: rest =>
    let hashes := (rest.takeWhile (· == '#')).length
    match rest.drop hashes with
    | '"' :: rest => do
      let (s, rest) ← readRaw hashes rest
      return (String.ofList s, rest)
    | _ => none
  | _ => none

/-! ## Numbers -/

/-- A number. Of one that is not whole only the text is kept. -/
inductive Number where
  | natural (n : Nat)
  /-- A whole number with a sign. -/
  | signed (i : Int)
  | decimal (source : String)
deriving DecidableEq, Repr

namespace Number

/-- The character may start a number. -/
def isStart (c : Char) : Bool := c.isDigit || c == '+' || c == '-' || c == '.'

/-- The character may stand in a whole number. -/
def isWholeChar (c : Char) : Bool := (Json.hexValue? c).isSome || c == '_'

/-- The character goes on with a decimal; underscores do, though no decimal has
any. -/
def isDecimalChar (c : Char) : Bool :=
  c.isDigit || c == 'e' || c == 'E' || c == '.' || c == '+' || c == '-' || c == '_'

/-- The sign at the start, and the rest. -/
def splitSign (cs : List Char) : Option Char × List Char :=
  match cs with
  | '+' :: rest => (some '+', rest)
  | '-' :: rest => (some '-', rest)
  | _ => (none, cs)

/-- The base that the start of a whole number names, and its digits. -/
def splitBase (cs : List Char) : Nat × List Char :=
  match cs with
  | '0' :: 'x' :: rest => (16, rest)
  | '0' :: 'b' :: rest => (2, rest)
  | '0' :: 'o' :: rest => (8, rest)
  | _ => (10, cs)

/-- The number that a row of digits writes in the given base; underscores may stand
anywhere but first. -/
def ofDigits? (base : Nat) (ds : List Char) : Option Nat :=
  if ds = [] ∨ ds.head? = some '_' then none
  else
    (ds.filter (· != '_')).foldlM
      (fun n d => (Json.hexValue? d).bind fun v => if v < base then some (base * n + v) else none) 0

/-- A whole number with this sign and magnitude, if it is an unsigned word of 64
bits without a sign, and a signed one with it. -/
def ofMagnitude? (sign : Option Char) (magnitude : Nat) : Option Number :=
  match sign with
  | none => if magnitude < UInt64.size then some (.natural magnitude) else none
  | some mark =>
    let i : Int := if mark = '-' then -magnitude else magnitude
    if Int64.minValue.toInt ≤ i ∧ i ≤ Int64.maxValue.toInt then some (.signed i) else none

/-- Reads a whole number: decimal, or hexadecimal, binary or octal after `0x`, `0b`
or `0o`. -/
def readWhole (cs : List Char) : Option (Number × List Char) := do
  let (sign, rest) := splitSign cs
  let (base, rest) := splitBase rest
  let magnitude ← ofDigits? base (rest.takeWhile isWholeChar)
  return (← ofMagnitude? sign magnitude, rest.dropWhile isWholeChar)

/-- The characters are an exponent, if there are any: a mark, a sign if need be, and
digits. -/
def isExponent (cs : List Char) : Bool :=
  match cs with
  | [] => true
  | mark :: rest =>
    let ds := (splitSign rest).2
    (mark == 'e' || mark == 'E') && ds != [] && ds.all Char.isDigit

/-- The characters are a decimal: digits with a point among or around them if need
be, and an exponent. -/
def isDecimal (cs : List Char) : Bool :=
  let magnitude := (splitSign cs).2
  let afterFront := magnitude.dropWhile Char.isDigit
  let fraction :=
    match afterFront with
    | '.' :: rest => rest
    | _ => afterFront
  (magnitude.takeWhile Char.isDigit != [] || fraction.takeWhile Char.isDigit != []) &&
    isExponent (fraction.dropWhile Char.isDigit)

/-- Reads a decimal, `inf` or `NaN`. -/
def readDecimal (cs : List Char) : Option (Number × List Char) :=
  let (sign, rest) := splitSign cs
  let (word, afterWord) := readWord rest
  if word = "inf" ∨ word = "NaN" then
    some (.decimal (String.ofList sign.toList ++ word), afterWord)
  else
    let source := cs.takeWhile isDecimalChar
    if isDecimal source then some (.decimal (String.ofList source), cs.dropWhile isDecimalChar)
    else none

/-- Reads a number. It is read as a decimal if the characters of a decimal reach
further than those of a whole number, and also if there is no whole number, or none
within 64 bits. -/
def read (cs : List Char) : Option (Number × List Char) :=
  let magnitude := (splitSign cs).2
  if (magnitude.takeWhile isWholeChar).length < (magnitude.takeWhile isDecimalChar).length then
    readDecimal cs
  else
    match readWhole cs with
    | some (number, rest) => some (number, rest)
    | none => readDecimal cs

end Number

end Ron
end Alternation
