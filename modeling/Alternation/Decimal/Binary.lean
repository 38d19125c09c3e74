/-
# Binary floating point numbers as exact values

`SPEC_FULL` §10.4: floats of materials are read from JSON and written to it, and a
`Value` that holds one is displayed.

A finite 64-bit float is `± m * 2 ^ q` with natural `m`. The reals that round to
it (to the nearest float, ties to the even one) form an interval, and `readsBack`
tells by comparing natural numbers whether a decimal lies in it.

`nearestBits` goes the other way: the bits of the float nearest to a quotient.
-/

namespace Alternation
namespace Decimal

/-- `2 ^ k`, or one for a negative `k`. -/
def twoPow (k : Int) : Nat := Nat.pow 2 k.toNat

/-- `10 ^ k`, or one for a negative `k`. -/
def tenPow (k : Int) : Nat := Nat.pow 10 k.toNat

/-- A finite non-negative float, `m * 2 ^ q`. -/
structure Binary where
  m : Nat
  q : Int
  /-- The gap to the float below is half the gap to the float above. -/
  narrowBelow : Bool
deriving DecidableEq, Repr

/-- A decimal, `digits * 10 ^ exp`. -/
structure Dec where
  digits : Nat
  exp : Int
deriving DecidableEq, Repr

/-- The magnitude whose bits are `b`, unless the exponent bits are all set. -/
def Binary.ofBits (b : UInt64) : Binary :=
  let e := ((b >>> 52) &&& 0x7FF).toNat
  let f := (b &&& 0xFFFFFFFFFFFFF).toNat
  if e = 0 then ⟨f, -1074, false⟩ else ⟨twoPow 52 + f, (e : Int) - 1075, f = 0 && e > 1⟩

/-- Compares `a * 10 ^ i` with `n * 2 ^ j`. -/
def compareScaled (a : Nat) (i : Int) (n : Nat) (j : Int) : Ordering :=
  compare (a * tenPow i * twoPow (-j)) (n * twoPow j * tenPow (-i))

/-- The decimal lies among the reals that round to the float. -/
def Binary.readsBack (x : Binary) (d : Dec) : Bool :=
  let low := if x.narrowBelow then 4 * x.m - 1 else 4 * x.m - 2
  let high := 4 * x.m + 2
  let even := x.m % 2 == 0
  let toLow := compareScaled d.digits d.exp low (x.q - 2)
  let toHigh := compareScaled d.digits d.exp high (x.q - 2)
  (toLow == .gt || (even && toLow == .eq)) && (toHigh == .lt || (even && toHigh == .eq))

/-- The nearest natural number to `num / den`, ties to the even one. -/
def roundQuotient (num den : Nat) : Nat :=
  let floor := num / den
  let twice := 2 * (num % den)
  if twice < den then floor
  else if twice = den then floor + floor % 2
  else floor + 1

/-- The exponent at which `num / den` has fifty-three binary digits before the
point, but at least that of the smallest floats. -/
def binaryExponent (num den : Nat) : Int :=
  let estimate : Int := (num.log2 : Int) - den.log2 - 53
  let exponent :=
    if num * twoPow (-estimate) < twoPow 53 * (den * twoPow estimate) then estimate
    else estimate + 1
  max exponent (-1074)

/-- The bits of the float nearest to `num / den`, unless it is beyond all of them. -/
def nearestBits (num den : Nat) : Option UInt64 :=
  if num = 0 then some 0
  else
    let q := binaryExponent num den
    let m := roundQuotient (num * twoPow (-q)) (den * twoPow q)
    let bits := (q + 1074).toNat * twoPow 52 + m
    if bits < 0x7FF * twoPow 52 then some (UInt64.ofNat bits) else none

example : Decimal.nearestBits 1 1 = some 0x3FF0000000000000 := by decide
example : Decimal.nearestBits 1 10 = some 0x3FB999999999999A := by decide +kernel
example : Decimal.nearestBits (twoPow 1024 - twoPow 970) 1 = none := by decide +kernel

end Decimal
end Alternation
