/-
# Scaling by powers of ten

`SPEC_FULL` §10.4: how a numeral of a materials file becomes a float.

`scaledBits m e` is a float for `m * 10 ^ e` that takes few steps to find: the
floats nearest to `m` and to the power of ten are multiplied or divided, and the
result is rounded once more. So it may miss the nearest float by a little; where
`m` and the power of ten are floats themselves, it is the nearest one.
-/

import Alternation.Decimal.Binary

namespace Alternation
namespace Decimal

namespace Binary

/-- The bits of the float nearest to the product, unless it is beyond all of them. -/
def mulBits? (x y : Binary) : Option UInt64 :=
  nearestBits (x.m * y.m * twoPow (x.q + y.q)) (twoPow (-(x.q + y.q)))

/-- The bits of the float nearest to the quotient, unless it is beyond all of them. -/
def divBits? (x y : Binary) : Option UInt64 :=
  nearestBits (x.m * twoPow (x.q - y.q)) (y.m * twoPow (y.q - x.q))

/-- The float nearest to a natural number, unless it is beyond all of them. -/
def ofNat? (n : Nat) : Option Binary := (nearestBits n 1).map ofBits

end Binary

/-- The largest power of ten that is not beyond all floats. -/
def maxPower : Int := 308

/-- The bits of a float multiplied or divided by a power of ten that is not beyond
all floats. -/
def shiftBits? (x : Binary) (e : Int) : Option UInt64 := do
  let power ← Binary.ofNat? (tenPow e.natAbs)
  if 0 ≤ e then x.mulBits? power else x.divBits? power

/-- The bits of a float for `m * 10 ^ e`, unless it is beyond all of them. Of a
power below `10 ^ -308`, the part `10 ^ -308` comes first. -/
def scaledBits (m : Nat) (e : Int) : Option UInt64 := do
  let x ← Binary.ofNat? m
  if m = 0 ∨ e < -2 * maxPower then return 0
  else if maxPower < e then none
  else if -maxPower ≤ e then shiftBits? x e
  else shiftBits? (Binary.ofBits (← shiftBits? x (-maxPower))) (e + maxPower)

example : scaledBits 1 (-1) = some 0x3FB999999999999A := by decide +kernel
example : scaledBits 9999999999999999 (-14) = some 0x4059000000000000 := by decide +kernel
example : scaledBits 1 309 = none := by decide +kernel

end Decimal
end Alternation
