/-
# Samples are distinct positions, shuffles are permutations

`SPEC_FULL` §4.4 and §4.6: `sample_items` draws without replacement, and the assembler's
shuffle permutes.

Whatever is drawn, `sampleIndices n k` with `k ≤ n` is a list of `k` different
positions below `n` (`IsSample`), by each of the four methods:

| method | why no position comes twice |
| --- | --- |
| in place | swaps permute the positions, and a prefix of a permutation is taken |
| Floyd, with insertion or with a shuffle | a position that is drawn again is replaced by the bound, above all earlier ones |
| rejection | a position that is taken is passed over |

Shuffling permutes (`always_shuffle`).
-/

import Alternation.Proofs.Run
import Alternation.Random.Sampling
import Mathlib.Data.List.Nodup
import Mathlib.Data.List.Perm.Subperm

namespace Alternation
namespace Random

variable {σ : Type} [RandomSource σ] {α : Type}

/-! ## Shuffling -/

/-- A swap permutes. -/
theorem swapIfInBounds_perm (a : Array α) (i j : Nat) :
    (a.swapIfInBounds i j).toList.Perm a.toList := by
  rw [Array.swapIfInBounds_def]
  split
  · split
    · exact (Array.swap_perm _ _).toList
    · rfl
  · rfl

/-- Shuffling on from any position permutes. -/
theorem always_shuffleFrom (i : Nat) (a : Array α) :
    Always (·.toList.Perm a.toList) (shuffleFrom i a : StateM σ (Array α)) := by
  induction i generalizing a with
  | zero => exact always_pure (.refl _)
  | succ i ih =>
    refine (always_true _).bind fun j _ => (ih _).mono fun b hb => ?_
    exact hb.trans (swapIfInBounds_perm a _ _)

/-- **A shuffle permutes.** -/
theorem always_shuffle (xs : List α) : Always (·.Perm xs) (shuffle xs : StateM σ (List α)) :=
  (always_shuffleFrom _ xs.toArray).bind fun _ ha => always_pure ha

/-! ## Samples -/

/-- Different positions below `n`, `k` of them. -/
structure IsSample (n k : Nat) (l : List Nat) : Prop where
  nodup : l.Nodup
  length_eq : l.length = k
  lt : ∀ x ∈ l, x < n

/-- No position is a sample of none. -/
theorem isSample_nil (n : Nat) : IsSample n 0 [] where
  nodup := List.nodup_nil
  length_eq := rfl
  lt := by simp

/-- The order of a sample does not matter. -/
theorem IsSample.perm {n k : Nat} {l l' : List Nat} (h : IsSample n k l) (hl : l'.Perm l) :
    IsSample n k l' where
  nodup := hl.nodup_iff.2 h.nodup
  length_eq := by rw [hl.length_eq, h.length_eq]
  lt x hx := h.lt x (hl.subset hx)

/-- A sample and a position that is not in it are a sample of one more. -/
theorem IsSample.cons {m n k x : Nat} {l : List Nat} (h : IsSample m k l) (hmn : m ≤ n)
    (hx : x < n) (hxl : x ∉ l) : IsSample n (k + 1) (x :: l) where
  nodup := List.nodup_cons.2 ⟨hxl, h.nodup⟩
  length_eq := by rw [List.length_cons, h.length_eq]
  lt y hy := by
    rcases List.mem_cons.1 hy with rfl | hy
    · exact hx
    · exact Nat.lt_of_lt_of_le (h.lt y hy) hmn

/-! ## In place -/

/-- Picking permutes. -/
theorem always_pickInPlace (i k : Nat) (a : Array α) :
    Always (·.toList.Perm a.toList) (pickInPlace i k a : StateM σ (Array α)) := by
  induction k generalizing i a with
  | zero => exact always_pure (.refl _)
  | succ k ih =>
    unfold pickInPlace
    split
    · refine (always_true _).bind fun j _ => (ih _ _).mono fun b hb => ?_
      exact hb.trans (swapIfInBounds_perm a _ _)
    · exact always_pure (.refl _)

/-- Sampling in place draws a sample. -/
theorem always_sampleInPlace {n k : Nat} (hk : k ≤ n) :
    Always (IsSample n k) (sampleInPlace n k : StateM σ (List Nat)) := by
  refine (always_pickInPlace 0 k (Array.range n)).bind fun a ha => always_pure ?_
  rw [Array.toList_range] at ha
  exact {
    nodup := (ha.nodup_iff.2 List.nodup_range).sublist (List.take_sublist k _)
    length_eq := by rw [List.length_take, ha.length_eq, List.length_range, Nat.min_eq_left hk]
    lt := fun x hx => List.mem_range.1 (ha.subset (List.mem_of_mem_take hx)) }

/-! ## Floyd's method -/

/-- Insertion adds one position. -/
theorem insertBefore_perm (t j : Nat) (l : List Nat) : (insertBefore t j l).Perm (j :: l) := by
  induction l with
  | nil => exact .refl _
  | cons x xs ih =>
    unfold insertBefore
    split
    · exact .refl _
    · exact (ih.cons x).trans (.swap j x xs)

/-- The bound is above all that was drawn before, so it is a position of its own
when it stands in for one that is drawn again. -/
theorem always_floydFrom {collide : Nat → Nat → List Nat → List Nat}
    (hcollide : ∀ t j out, (collide t j out).Perm (j :: out)) {j m : Nat} (k : Nat)
    {out : List Nat} (h : IsSample j m out) :
    Always (IsSample (j + k) (m + k)) (floydFrom collide j k out : StateM σ (List Nat)) := by
  induction k generalizing j m out with
  | zero => exact always_pure h
  | succ k ih =>
    rw [show j + (k + 1) = j + 1 + k by omega, show m + (k + 1) = m + 1 + k by omega]
    refine (always_true _).bind fun t _ => ih ?_
    split
    · have hj : j ∉ out := fun hj => Nat.lt_irrefl j (h.lt j hj)
      exact (h.cons j.le_succ j.lt_succ_self hj).perm (hcollide _ _ _)
    · rename_i ht
      exact (h.cons j.le_succ t.isLt ht).perm (List.perm_append_singleton _ _)

/-- Floyd's method with insertion draws a sample. -/
theorem always_sampleFloydInsert {n k : Nat} (hk : k ≤ n) :
    Always (IsSample n k) (sampleFloydInsert n k : StateM σ (List Nat)) := by
  refine (always_floydFrom insertBefore_perm k (isSample_nil (n - k))).mono fun l hl => ?_
  rwa [Nat.sub_add_cancel hk, Nat.zero_add] at hl

/-- Floyd's method with a shuffle draws a sample. -/
theorem always_sampleFloydShuffle {n k : Nat} (hk : k ≤ n) :
    Always (IsSample n k) (sampleFloydShuffle n k : StateM σ (List Nat)) := by
  refine (always_floydFrom (fun _ j out => List.perm_append_singleton j out) k
    (isSample_nil (n - k))).bind fun l hl => (always_shuffle l).mono fun l' hl' => ?_
  rw [Nat.sub_add_cancel hk, Nat.zero_add] at hl
  exact hl.perm hl'

/-! ## Rejection -/

/-- Of more positions than are taken, one is free. -/
theorem exists_lt_not_mem {n : Nat} {taken : List Nat} (h : taken.length < n) :
    ∃ x, x < n ∧ x ∉ taken := by
  by_contra hall
  have hsub : List.range n ⊆ taken := by
    intro x hx
    by_contra hmem
    exact hall ⟨x, List.mem_range.1 hx, hmem⟩
  have hle := (List.subperm_of_subset List.nodup_range hsub).length_le
  rw [List.length_range] at hle
  omega

/-- A position is drawn that is not taken, whatever the budget. -/
theorem always_drawUntaken {n : Nat} (pos : 0 < n) {taken : List Nat} (h : taken.length < n)
    (budget : Nat) :
    Always (fun v => v < n ∧ v ∉ taken) (drawUntaken n pos taken budget : StateM σ Nat) := by
  induction budget with
  | zero =>
    refine always_pure ?_
    obtain ⟨x, hx, hxt⟩ := exists_lt_not_mem h
    cases hfind : (List.range n).find? (· ∉ taken) with
    | none =>
      rw [List.find?_eq_none] at hfind
      exact absurd (decide_eq_true hxt) (hfind x (List.mem_range.2 hx))
    | some v =>
      have hv := List.find?_some hfind
      exact ⟨List.mem_range.1 (List.mem_of_find?_eq_some hfind), of_decide_eq_true hv⟩
  | succ budget ih =>
    refine (always_true _).bind fun v _ => ?_
    dsimp only
    split
    · exact ih
    · rename_i hv
      exact always_pure ⟨v.isLt, hv⟩

/-- Each position that is drawn goes on with a sample. -/
theorem always_rejectFrom {n : Nat} (pos : 0 < n) {m k : Nat} (hk : m + k ≤ n)
    {taken : List Nat} (h : IsSample n m taken) :
    Always (IsSample n (m + k)) (rejectFrom n pos k taken : StateM σ (List Nat)) := by
  induction k generalizing m taken with
  | zero => exact always_pure (h.perm (List.reverse_perm taken))
  | succ k ih =>
    rw [show m + (k + 1) = m + 1 + k by omega]
    have hroom : taken.length < n := by rw [h.length_eq]; omega
    refine (always_drawUntaken pos hroom _).bind fun v hv => ih (by omega) ?_
    exact h.cons (Nat.le_refl n) hv.1 hv.2

/-- Drawing and rejecting draws a sample. -/
theorem always_sampleRejection {n k : Nat} (hk : k ≤ n) :
    Always (IsSample n k) (sampleRejection n k : StateM σ (List Nat)) := by
  unfold sampleRejection
  split
  · rename_i pos
    have h := always_rejectFrom (σ := σ) pos (by omega : 0 + k ≤ n) (isSample_nil n)
    rwa [Nat.zero_add] at h
  · obtain rfl : k = 0 := by omega
    exact always_pure (isSample_nil n)

/-! ## The method that is chosen -/

/-- **A sample is a list of different positions,** whatever is drawn and by
whichever method. -/
theorem always_sampleIndices {n k : Nat} (hk : k ≤ n) :
    Always (IsSample n k) (sampleIndices n k : StateM σ (List Nat)) := by
  unfold sampleIndices
  cases Method.choose n k with
  | inPlace => exact always_sampleInPlace hk
  | floydInsert => exact always_sampleFloydInsert hk
  | floydShuffle => exact always_sampleFloydShuffle hk
  | rejection => exact always_sampleRejection hk

end Random
end Alternation
