/-
# The shortest decimal that reads back

`SPEC_FULL` §10.4: how a float is displayed, and how it is written to JSON.

`Binary.shortest` selects, among the decimals that round to a float, one with the
fewest digits; of those the nearest to the float; and of two that are equally
near the one its tie rule names. `Layout` then says how a decimal is written out.
-/

import Alternation.Decimal.Binary

namespace Alternation
namespace Decimal

/-- Which of two equally near candidates is taken. -/
inductive Tie where
  | toEven
  | upward
deriving DecidableEq, Repr

namespace Binary

/-- The least `k` with `x < 10 ^ k`, found by going up from a lower bound. -/
def scaleFrom (x : Binary) (k : Int) : Nat → Int
  | 0 => k
  | steps + 1 => if compareScaled 1 k x.m x.q == .gt then k else scaleFrom x (k + 1) steps

/-- The least `k` with `x < 10 ^ k`, for a positive `x`. -/
def scale (x : Binary) : Int :=
  scaleFrom x (((x.m.log2 : Int) + x.q) * 30103 / 100000 - 1) 8

/-- The value in units of `10 ^ k`, as a quotient. -/
def inUnits (x : Binary) (k : Int) : Nat × Nat :=
  (x.m * twoPow x.q * tenPow (-k), twoPow (-x.q) * tenPow k)

/-- The decimal on the grid `10 ^ k` that reads back and is nearest. -/
def onGrid (x : Binary) (tie : Tie) (k : Int) : Option Dec :=
  let (num, den) := x.inUnits k
  let floor := num / den
  let below : Dec := ⟨floor, k⟩
  let above : Dec := ⟨floor + 1, k⟩
  match x.readsBack below, x.readsBack above with
  | false, false => none
  | true, false => some below
  | false, true => some above
  | true, true =>
    match compare (2 * num) ((2 * floor + 1) * den) with
    | .lt => some below
    | .gt => some above
    | .eq =>
      match tie with
      | .upward => some above
      | .toEven => if floor % 2 = 0 then some below else some above

/-- The exact decimal value. -/
def exact (x : Binary) : Dec :=
  if 0 ≤ x.q then ⟨x.m * twoPow x.q, 0⟩ else ⟨x.m * Nat.pow 5 (-x.q).toNat, x.q⟩

end Binary

/-- Moves trailing zeros of the digits into the exponent. -/
def Dec.normalize (d : Dec) : Nat → Dec
  | 0 => d
  | steps + 1 =>
    if d.digits ≠ 0 ∧ d.digits % 10 = 0 then Dec.normalize ⟨d.digits / 10, d.exp + 1⟩ steps else d

/-- The shortest decimal that reads back to the float. -/
def Binary.shortest (x : Binary) (tie : Tie) : Dec :=
  if x.m = 0 then ⟨0, 0⟩
  else
    let k := x.scale
    let found := (List.range 17).findSome? fun (n : Nat) => x.onGrid tie (k - (n + 1))
    (found.getD x.exact).normalize 400

/-! ## Layout -/

/-- How a decimal is written out. -/
structure Layout where
  /-- The rule between two equally near candidates. -/
  tie : Tie
  /-- The exponents of the leading digit that are written without an exponent. -/
  plain : Int → Bool
  /-- Whole numbers end in `.0`. -/
  pointZero : Bool

namespace Layout

/-- A whole number's ending. -/
def ending (l : Layout) : String := if l.pointZero then ".0" else ""

/-- `count` zeros. -/
def zeros (count : Nat) : String := String.ofList (List.replicate count '0')

/-- The decimal without an exponent. -/
def positional (l : Layout) (d : Dec) : String :=
  let digits := Nat.toDigits 10 d.digits
  let before := (digits.length : Int) + d.exp
  if 0 ≤ d.exp then String.ofList digits ++ zeros d.exp.toNat ++ l.ending
  else if 0 < before then
    String.ofList (digits.take before.toNat) ++ "." ++ String.ofList (digits.drop before.toNat)
  else "0." ++ zeros (-before).toNat ++ String.ofList digits

/-- The decimal with one digit before the point and a signed exponent. -/
def scientific (d : Dec) : String :=
  let digits := Nat.toDigits 10 d.digits
  let leading := (digits.length : Int) + d.exp - 1
  let point := if digits.length = 1 then "" else "."
  let sign := if 0 ≤ leading then "+" else "-"
  String.ofList (digits.take 1) ++ point ++ String.ofList (digits.drop 1) ++ "e" ++ sign ++
    toString leading.natAbs

/-- The decimal in this layout. -/
def dec (l : Layout) (d : Dec) : String :=
  if l.plain ((Nat.toDigits 10 d.digits).length + d.exp - 1) then l.positional d else scientific d

/-- The finite float with these bits, with its sign. -/
def finite (l : Layout) (bits : UInt64) : String :=
  let sign := if bits >>> 63 = 1 then "-" else ""
  sign ++ l.dec ((Binary.ofBits bits).shortest l.tie)

end Layout

end Decimal
end Alternation
