/-
# The reals that round to a float

What reading back means for the floats of `SPEC_FULL` §10.4.

Decimals and floats are compared exactly (`compareScaled_eq`), so a decimal reads back
just if its value lies in the interval of the reals that round to the float
(`Binary.readsBack_iff`).

The magnitudes of floats are numbered by their bits without the sign.  The intervals of
neighbours share one end (`Binary.highEnd_atIndex`); it belongs to the one with the even
number, and numbers of neighbours are never both even.  So no real rounds to two
magnitudes (`Binary.index_eq_of_mem`).
-/

import Alternation.Decimal.Binary
import Mathlib.Algebra.Order.Field.Power
import Mathlib.Algebra.Order.Field.Rat
import Mathlib.Data.Nat.Bitwise
import Mathlib.Order.Compare
import Mathlib.Tactic.Linarith
import Mathlib.Tactic.Ring

namespace Alternation
namespace Decimal

/-! ## Exact comparison -/

/-- The value of a decimal. -/
def Dec.value (d : Dec) : ℚ := d.digits * 10 ^ d.exp

/-- A power that is held as a natural number only as far as its exponent is not negative. -/
theorem pow_toNat {b : ℚ} (hb : b ≠ 0) (k : ℤ) : b ^ k.toNat = b ^ k * b ^ (-k).toNat := by
  rw [← zpow_natCast, ← zpow_natCast, ← zpow_add₀ hb]
  congr 1
  omega

/-- The power of two that numbers are compared with, as a rational. -/
theorem cast_twoPow (k : ℤ) : (twoPow k : ℚ) = 2 ^ k.toNat := by
  rw [twoPow, Nat.pow_eq, Nat.cast_pow, Nat.cast_ofNat]

/-- The power of ten that numbers are compared with, as a rational. -/
theorem cast_tenPow (k : ℤ) : (tenPow k : ℚ) = 10 ^ k.toNat := by
  rw [tenPow, Nat.pow_eq, Nat.cast_pow, Nat.cast_ofNat]

/-- **The comparison is exact.** -/
theorem compareScaled_eq (a : ℕ) (i : ℤ) (n : ℕ) (j : ℤ) :
    compareScaled a i n j = cmp (a * 10 ^ i : ℚ) (n * 2 ^ j) := by
  -- Both sides times the powers that make the exponents natural numbers.
  have hscale : (0 : ℚ) < 10 ^ (-i).toNat * 2 ^ (-j).toNat := by positivity
  have hleft : (a * 10 ^ i : ℚ) * (10 ^ (-i).toNat * 2 ^ (-j).toNat) =
      ((a * tenPow i * twoPow (-j) : ℕ) : ℚ) := by
    push_cast
    rw [cast_tenPow, cast_twoPow, pow_toNat (by norm_num) i]
    ring
  have hright : (n * 2 ^ j : ℚ) * (10 ^ (-i).toNat * 2 ^ (-j).toNat) =
      ((n * twoPow j * tenPow (-i) : ℕ) : ℚ) := by
    push_cast
    rw [cast_tenPow, cast_twoPow, pow_toNat (by norm_num) j]
    ring
  rw [compareScaled, ← cmp_eq_compare, ← cmp_mul_pos_right hscale, hleft, hright]
  exact (Nat.strictMono_cast.cmp_map_eq _ _).symm

/-- A scaled number is less than another just if the rationals are. -/
theorem compareScaled_eq_lt {a n : ℕ} {i j : ℤ} :
    compareScaled a i n j = .lt ↔ (a * 10 ^ i : ℚ) < n * 2 ^ j := by
  rw [compareScaled_eq, cmp_eq_lt_iff]

/-- Scaled numbers are equal just if the rationals are. -/
theorem compareScaled_eq_eq {a n : ℕ} {i j : ℤ} :
    compareScaled a i n j = .eq ↔ (a * 10 ^ i : ℚ) = n * 2 ^ j := by
  rw [compareScaled_eq, cmp_eq_eq_iff]

/-- A scaled number is greater than another just if the rationals are. -/
theorem compareScaled_eq_gt {a n : ℕ} {i j : ℤ} :
    compareScaled a i n j = .gt ↔ (n * 2 ^ j : ℚ) < a * 10 ^ i := by
  rw [compareScaled_eq, cmp_eq_gt_iff]

namespace Binary

/-! ## The interval of a float -/

/-- The value of a float. -/
def value (x : Binary) : ℚ := x.m * 2 ^ x.q

/-- The end below, in units of a quarter of the last place. -/
def low (x : Binary) : ℕ := if x.narrowBelow then 4 * x.m - 1 else 4 * x.m - 2

/-- The midpoint between the float and the one below. -/
def lowEnd (x : Binary) : ℚ := x.low * 2 ^ (x.q - 2)

/-- The midpoint between the float and the one above. -/
def highEnd (x : Binary) : ℚ := (4 * x.m + 2 : ℕ) * 2 ^ (x.q - 2)

/-- The reals that round to the float: the ends belong to it if it is even. -/
def interval (x : Binary) : Set ℚ :=
  {v | (x.lowEnd < v ∨ x.m % 2 = 0 ∧ v = x.lowEnd) ∧ (v < x.highEnd ∨ x.m % 2 = 0 ∧ v = x.highEnd)}

/-- **A decimal reads back** just if its value rounds to the float. -/
theorem readsBack_iff {x : Binary} {d : Dec} : x.readsBack d = true ↔ d.value ∈ x.interval := by
  simp only [readsBack, compareScaled_eq_lt, compareScaled_eq_eq, compareScaled_eq_gt,
    Bool.and_eq_true, Bool.or_eq_true, beq_iff_eq]
  rfl

/-- The value of a float in quarters of its last place, as the ends of its interval are. -/
theorem value_eq (x : Binary) : x.value = (4 * x.m : ℕ) * 2 ^ (x.q - 2) := by
  rw [value, zpow_sub₀ (by norm_num)]
  push_cast
  ring

/-- The lower end is below the upper one, in quarters of the last place. -/
theorem low_lt (x : Binary) : x.low < 4 * x.m + 2 := by
  unfold low
  split <;> omega

/-- The interval of a float is not empty. -/
theorem lowEnd_lt_highEnd (x : Binary) : x.lowEnd < x.highEnd :=
  mul_lt_mul_of_pos_right (Nat.cast_lt.2 x.low_lt) (by positivity)

/-- A float rounds to itself. -/
theorem value_mem (x : Binary) : x.value ∈ x.interval := by
  have hunit : (0 : ℚ) < 2 ^ (x.q - 2) := by positivity
  constructor
  · rcases Nat.eq_zero_or_pos x.m with hm | hm
    · refine .inr ⟨by rw [hm], ?_⟩
      have hlow : x.low = 4 * x.m := by
        unfold low
        split <;> omega
      rw [value_eq, lowEnd, hlow]
    · refine .inl ?_
      have hlow : x.low < 4 * x.m := by
        unfold low
        split <;> omega
      rw [value_eq]
      exact mul_lt_mul_of_pos_right (Nat.cast_lt.2 hlow) hunit
  · refine .inl ?_
    rw [value_eq]
    exact mul_lt_mul_of_pos_right (Nat.cast_lt.2 (by omega)) hunit

/-- Only zero has zero in its interval. -/
theorem m_eq_zero_of_mem {x : Binary} (h : 0 ∈ x.interval) : x.m = 0 := by
  by_contra hm
  have hlow : 0 < x.low := by
    unfold low
    split <;> omega
  have hend : 0 < x.lowEnd := mul_pos (Nat.cast_pos.2 hlow) (by positivity)
  rcases h.1 with h | ⟨-, h⟩
  · exact absurd h hend.not_gt
  · exact absurd h hend.ne

/-! ## Floats in order -/

/-- The number of the magnitude: the bits without the sign. -/
def index (bits : UInt64) : ℕ := bits.toNat % 2 ^ 63

/-- The magnitude with the given fields for its exponent and its fraction. -/
def ofFields (e f : ℕ) : Binary :=
  if e = 0 then ⟨f, -1074, false⟩
  else ⟨2 ^ 52 + f, (e : ℤ) - 1075, decide (f = 0) && decide (e > 1)⟩

/-- The magnitude with the given number. -/
def atIndex (k : ℕ) : Binary := ofFields (k / 2 ^ 52) (k % 2 ^ 52)

/-- The magnitude of a float depends on its bits without the sign only. -/
theorem ofBits_eq (bits : UInt64) : ofBits bits = atIndex (index bits) := by
  have hexp : ((bits >>> 52) &&& 0x7FF).toNat = index bits / 2 ^ 52 := by
    rw [UInt64.toNat_and, UInt64.toNat_shiftRight]
    show bits.toNat >>> 52 &&& (2 ^ 11 - 1) = _
    rw [Nat.and_two_pow_sub_one_eq_mod, Nat.shiftRight_eq_div_pow, index]
    omega
  have hfraction : (bits &&& 0xFFFFFFFFFFFFF).toNat = index bits % 2 ^ 52 := by
    rw [UInt64.toNat_and]
    show bits.toNat &&& (2 ^ 52 - 1) = _
    rw [Nat.and_two_pow_sub_one_eq_mod, index]
    omega
  simp only [ofBits, hexp, hfraction]
  rfl

/-- A float is even just if its number is. -/
theorem m_mod_two (k : ℕ) : (atIndex k).m % 2 = k % 2 := by
  unfold atIndex ofFields
  split <;> dsimp only <;> omega

/-- The ends meet where the units are the same, or the unit above is twice the one below. -/
theorem highEnd_eq_lowEnd {x y : Binary}
    (h : x.q = y.q ∧ 4 * x.m + 2 = y.low ∨ x.q + 1 = y.q ∧ 4 * x.m + 2 = 2 * y.low) :
    x.highEnd = y.lowEnd := by
  rcases h with ⟨hq, hm⟩ | ⟨hq, hm⟩
  · rw [highEnd, lowEnd, hq, hm]
  · rw [highEnd, lowEnd, ← hq, hm, add_sub_right_comm, zpow_add_one₀ (by norm_num)]
    push_cast
    ring

/-- Neighbours with one exponent share an end. -/
theorem highEnd_ofFields (e f : ℕ) : (ofFields e f).highEnd = (ofFields e (f + 1)).lowEnd := by
  refine highEnd_eq_lowEnd (.inl ?_)
  unfold ofFields low
  split
  · exact ⟨rfl, show 4 * f + 2 = 4 * (f + 1) - 2 by omega⟩
  · exact ⟨rfl, show 4 * (2 ^ 52 + f) + 2 = 4 * (2 ^ 52 + (f + 1)) - 2 by omega⟩

/-- The unit is twice the one below at the lowest fraction, unless there are subnormal
magnitudes below. -/
theorem low_ofFields_zero (e : ℕ) :
    (ofFields (e + 1) 0).low = if e = 0 then 4 * 2 ^ 52 - 2 else 4 * 2 ^ 52 - 1 := by
  rw [ofFields, if_neg e.succ_ne_zero, low]
  rcases Nat.eq_zero_or_pos e with rfl | he
  · rw [if_pos rfl]
    norm_num
  · rw [if_neg he.ne', decide_eq_true (show e + 1 > 1 by omega)]
    norm_num

/-- The last float of an exponent and the first of the next share an end. -/
theorem highEnd_ofFields_last (e : ℕ) :
    (ofFields e (2 ^ 52 - 1)).highEnd = (ofFields (e + 1) 0).lowEnd := by
  have hlow := low_ofFields_zero e
  refine highEnd_eq_lowEnd ?_
  rw [hlow, ofFields, ofFields, if_neg e.succ_ne_zero]
  rcases Nat.eq_zero_or_pos e with rfl | he
  · rw [if_pos rfl, if_pos rfl]
    norm_num
  · rw [if_neg he.ne', if_neg he.ne']
    refine .inr ⟨?_, by norm_num⟩
    push_cast
    ring

/-- **The intervals of neighbours share one end.** -/
theorem highEnd_atIndex (k : ℕ) : (atIndex k).highEnd = (atIndex (k + 1)).lowEnd := by
  rcases Nat.lt_or_ge (k % 2 ^ 52 + 1) (2 ^ 52) with hin | hout
  · rw [atIndex, atIndex, highEnd_ofFields]
    congr 2 <;> omega
  · rw [atIndex, atIndex, show k % 2 ^ 52 = 2 ^ 52 - 1 by omega, highEnd_ofFields_last]
    congr 2 <;> omega

/-- The intervals come in the order of the numbers. -/
theorem lowEnd_strictMono : StrictMono fun k => (atIndex k).lowEnd :=
  strictMono_nat_of_lt_succ fun k => by
    rw [← highEnd_atIndex]
    exact lowEnd_lt_highEnd _

/-- A real between two magnitudes rounds to one of them at most. -/
theorem not_lt_of_mem {k k' : ℕ} {v : ℚ} (h : v ∈ (atIndex k).interval)
    (h' : v ∈ (atIndex k').interval) : ¬ k < k' := by
  intro hlt
  have hhigh : v ≤ (atIndex (k + 1)).lowEnd := by
    rw [← highEnd_atIndex]
    rcases h.2 with hv | ⟨-, hv⟩
    · exact hv.le
    · exact hv.le
  have hlow : (atIndex k').lowEnd ≤ v := by
    rcases h'.1 with hv | ⟨-, hv⟩
    · exact hv.le
    · exact hv.ge
  have hle : k' ≤ k + 1 := lowEnd_strictMono.le_iff_le.1 (hlow.trans hhigh)
  obtain rfl : k' = k + 1 := by omega
  -- The real is the end that they share, so both are even.
  have hv : v = (atIndex (k + 1)).lowEnd := le_antisymm hhigh hlow
  have heven : k % 2 = 0 := by
    rcases h.2 with hv' | ⟨heven, -⟩
    · rw [highEnd_atIndex] at hv'
      exact absurd hv hv'.ne
    · rwa [m_mod_two] at heven
  have heven' : (k + 1) % 2 = 0 := by
    rcases h'.1 with hv' | ⟨heven, -⟩
    · exact absurd hv hv'.ne'
    · rwa [m_mod_two] at heven
  omega

/-- **No real rounds to two magnitudes.** -/
theorem index_eq_of_mem {bits bits' : UInt64} {v : ℚ} (h : v ∈ (ofBits bits).interval)
    (h' : v ∈ (ofBits bits').interval) : index bits = index bits' := by
  rw [ofBits_eq] at h h'
  have hlt := not_lt_of_mem h h'
  have hgt := not_lt_of_mem h' h
  omega

end Binary
end Decimal
end Alternation
