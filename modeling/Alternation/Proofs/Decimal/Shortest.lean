/-
# The shortest decimal reads back

Why the floats of `SPEC_FULL` §10.4 survive being written.

Whatever the search for a short decimal finds rounds to the float it was found for
(`Binary.shortest_mem`).  No real rounds to two magnitudes, so the decimal tells the
magnitude (`Binary.index_eq_of_shortest`).
-/

import Alternation.Decimal.Shortest
import Alternation.Proofs.Decimal.Interval
import Mathlib.Tactic.NormNum

namespace Alternation
namespace Decimal

/-- Moving zeros into the exponent keeps the value. -/
theorem Dec.value_normalize (d : Dec) (steps : ℕ) : (d.normalize steps).value = d.value := by
  induction steps generalizing d with
  | zero => rfl
  | succ steps ih =>
    rw [Dec.normalize]
    split
    · rename_i h
      have hdigits : d.digits = d.digits / 10 * 10 := by omega
      rw [ih, value, value, zpow_add_one₀ (by norm_num), hdigits]
      push_cast
      simp only [Nat.mul_div_cancel _ (show 0 < 10 by norm_num)]
      ring
    · rfl

namespace Binary

variable {x : Binary} {tie : Tie}

/-- Written out in full, a float is what it is. -/
theorem value_exact (x : Binary) : x.exact.value = x.value := by
  unfold exact
  split
  · rename_i hq
    rw [Dec.value, value]
    push_cast
    rw [cast_twoPow, ← zpow_natCast, Int.toNat_of_nonneg hq, mul_one]
  · rename_i hq
    -- `10 ^ q` is `5 ^ q * 2 ^ q`, and the powers of five cancel.
    rw [Dec.value, value]
    push_cast
    rw [Nat.pow_eq, Nat.cast_pow, Nat.cast_ofNat, ← zpow_natCast,
      Int.toNat_of_nonneg (by omega), zpow_neg, show (10 : ℚ) = 5 * 2 by norm_num, mul_zpow,
      mul_assoc, inv_mul_cancel_left₀ (by positivity)]

/-- A decimal that the search accepts reads back. -/
theorem onGrid_mem {k : ℤ} {d : Dec} (h : x.onGrid tie k = some d) : d.value ∈ x.interval := by
  rw [← readsBack_iff]
  unfold onGrid at h
  dsimp only at h
  split at h
  · exact nomatch h
  · rename_i hbelow _
    rwa [← Option.some.inj h]
  · rename_i _ habove
    rwa [← Option.some.inj h]
  · rename_i hbelow habove
    repeat' split at h
    all_goals
      rw [← Option.some.inj h]
      assumption

/-- **The shortest decimal reads back.** -/
theorem shortest_mem (x : Binary) (tie : Tie) : (x.shortest tie).value ∈ x.interval := by
  unfold shortest
  split
  · rename_i hm
    have hzero : Dec.value ⟨0, 0⟩ = x.value := by simp [Dec.value, value, hm]
    rw [hzero]
    exact x.value_mem
  · rw [Dec.value_normalize]
    cases hfound : (List.range 17).findSome? fun n : ℕ => x.onGrid tie (x.scale - (n + 1)) with
    | none =>
      rw [Option.getD_none, value_exact]
      exact x.value_mem
    | some d =>
      obtain ⟨n, -, hn⟩ := List.exists_of_findSome?_eq_some hfound
      exact onGrid_mem hn

/-- The only shortest decimal without a digit other than zero is plain zero. -/
theorem shortest_eq_zero (h : (x.shortest tie).digits = 0) : x.shortest tie = ⟨0, 0⟩ := by
  have hmem := x.shortest_mem tie
  rw [Dec.value, h, Nat.cast_zero, zero_mul] at hmem
  rw [shortest, if_pos (m_eq_zero_of_mem hmem)]

/-- **The shortest decimal tells the magnitude.** -/
theorem index_eq_of_shortest {bits bits' : UInt64} {tie' : Tie}
    (h : ((ofBits bits).shortest tie).value = ((ofBits bits').shortest tie').value) :
    index bits = index bits' := by
  refine index_eq_of_mem (shortest_mem (ofBits bits) tie) ?_
  rw [h]
  exact shortest_mem (ofBits bits') tie'

end Binary
end Decimal
end Alternation
