/-
# Numerals of JSON documents

`SPEC_FULL` §10.4: the numerals of materials files.

A numeral is a row of digits, with a sign, a point or an exponent if need be.

* `Numeral.int?` gives the value of a numeral without point and exponent, as far
  as 64 bits go.
* `Numeral.float?` gives a float for any numeral. Its significand holds as many
  digits as fit 64 bits; a digit before the point that does not fit counts for its
  place only, and the digits after the point that do not fit count for nothing.
-/

import Alternation.Decimal.Scaled

namespace Alternation
namespace Json

/-- A numeral: digits before and after the point, and an exponent. -/
structure Numeral where
  negative : Bool
  front : List Nat
  fraction : List Nat
  exponent : Int
  /-- The numeral has neither a point nor an exponent. -/
  whole : Bool
deriving DecidableEq, Repr

namespace Numeral

/-! ## Evaluation -/

/-- The number that a row of digits writes. -/
def ofDigits (ds : List Nat) : Nat := ds.foldl (fun n d => 10 * n + d) 0

/-- The value of a numeral without point and exponent, if it is a signed or an
unsigned word of 64 bits; `-0` has none, for no whole number has its sign. -/
def int? (n : Numeral) : Option Int :=
  let magnitude := ofDigits n.front
  if ¬ n.whole then none
  else if n.negative then
    if magnitude = 0 ∨ (magnitude : Int) > -Int64.minValue.toInt then none else some (-magnitude)
  else if magnitude < UInt64.size then some magnitude else none

/-- Appends digits to a number until one would lead beyond 64 bits; gives also the
digits that are left. -/
def gather (m : Nat) : List Nat → Nat × List Nat
  | [] => (m, [])
  | d :: ds => if 10 * m + d < UInt64.size then gather (10 * m + d) ds else (m, d :: ds)

/-- The digits that count, as a number, and the power of ten that it is to be
multiplied by. -/
def scientific (n : Numeral) : Nat × Int :=
  let (m, dropped) := gather 0 n.front
  let (m, ignored) := gather m n.fraction
  (m, n.exponent + dropped.length - (n.fraction.length - ignored.length))

/-- A float for the numeral, unless it is beyond all floats. -/
def float? (n : Numeral) : Option Float :=
  let (m, e) := n.scientific
  (Decimal.scaledBits m e).map fun bits =>
    Float.ofBits (if n.negative then bits ||| 0x8000000000000000 else bits)

/-! ## Reading -/

/-- The values of the digits at the start, and the rest. -/
def readDigits (cs : List Char) : List Nat × List Char :=
  ((cs.takeWhile Char.isDigit).map fun d => d.toNat - 48, cs.dropWhile Char.isDigit)

/-- Reads the digits after the point, if there is a point. -/
def readFraction (cs : List Char) : Option (Option (List Nat) × List Char) :=
  match cs with
  | '.' :: rest =>
    match readDigits rest with
    | ([], _) => none
    | (ds, rest) => some (some ds, rest)
  | _ => some (none, cs)

/-- Reads the exponent, if there is one. -/
def readExponent (cs : List Char) : Option (Option Int × List Char) :=
  match cs with
  | e :: rest =>
    if e == 'e' || e == 'E' then
      let (sign, rest) : Int × List Char :=
        match rest with
        | '+' :: rest => (1, rest)
        | '-' :: rest => (-1, rest)
        | _ => (1, rest)
      match readDigits rest with
      | ([], _) => none
      | (ds, rest) => some (some (sign * ofDigits ds), rest)
    else some (none, cs)
  | [] => some (none, cs)

/-- Reads a numeral without its sign. -/
def readMagnitude (negative : Bool) (cs : List Char) : Option (Numeral × List Char) := do
  let (front, rest) := readDigits cs
  if front = [] ∨ (front.length ≠ 1 ∧ front.head? = some 0) then none
  else
    let (fraction, rest) ← readFraction rest
    let (exponent, rest) ← readExponent rest
    let numeral : Numeral :=
      { negative
        front
        fraction := fraction.getD []
        exponent := exponent.getD 0
        whole := fraction.isNone && exponent.isNone }
    return (numeral, rest)

/-- Reads a numeral. -/
def read (cs : List Char) : Option (Numeral × List Char) :=
  match cs with
  | '-' :: rest => readMagnitude true rest
  | _ => readMagnitude false cs

end Numeral
end Json
end Alternation
