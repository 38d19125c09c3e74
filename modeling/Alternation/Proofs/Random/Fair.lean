/-
# Every ordered sample is drawn in one way

`SPEC_FULL` §4.4: `sample_items` draws uniformly.

`sampleIndices n k` in place, or by Floyd's method with insertion, asks for `k` draws
below the bounds `n - k + 1`, …, `n`, in one order or the other
(`asks_sampleIndices`), and each list of `k` different positions below `n` is the
result for exactly one list of such draws (`existsUnique_takes_sampleIndices`).  So
no ordered sample is more likely than another.

| method | why the draws can be read off the result |
| --- | --- |
| in place | what stands at place `i` in the end was brought there by draw `i`, and the places after it hold what is left |
| Floyd, with insertion | the last step is undone: the bound stands in the result just if it was put in front of what was drawn, or was itself drawn and stands last (`unstep`) |
-/

import Alternation.Proofs.Random.Sampling
import Alternation.Proofs.Random.Tape
import Mathlib.Data.List.Nodup

namespace Alternation
namespace Random

section

variable {α : Type}

/-- What holds of every run holds of what draws come to. -/
theorem Takes.of_always {P : α → Prop} {m : StateM Tape α} {draws : List Nat} {a : α}
    (h : Takes m draws a) (hm : Always P m) : P a := by
  have hrun := hm (.holding (draws ++ []))
  rwa [h] at hrun

/-! ## In place -/

/-- A pick is a draw among the positions that are left, and a swap. -/
theorem pickInPlace_succ {σ : Type} [RandomSource σ] {i : Nat} {a : Array α} (h : i < a.size)
    (k : Nat) :
    (pickInPlace i (k + 1) a : StateM σ (Array α)) = (do
      let j ← RandomSource.below32 (a.size - i) (Nat.sub_pos_of_lt h)
      pickInPlace (i + 1) k (a.swapIfInBounds i (i + j))) :=
  dif_pos h

/-- What stands where after a swap. -/
theorem getElem?_swapIfInBounds {a : Array α} {i j : Nat} (hi : i < a.size) (hj : j < a.size)
    (q : Nat) :
    (a.swapIfInBounds i j)[q]? = if j = q then a[i]? else if i = q then a[j]? else a[q]? := by
  rw [Array.swapIfInBounds_def, dif_pos hi, dif_pos hj, Array.getElem?_swap,
    Array.getElem?_eq_getElem hi, Array.getElem?_eq_getElem hj]

/-- In place, the bounds go down by one from the number of places that are left. -/
theorem asks_pickInPlace {i k : Nat} {a : Array α} (h : i + k ≤ a.size) :
    Asks (pickInPlace i k a) (List.range' (a.size - i - k + 1) k).reverse := by
  induction k generalizing i a with
  | zero => exact asks_pure a
  | succ k ih =>
    have hi : i < a.size := by omega
    have hbounds : (List.range' (a.size - i - (k + 1) + 1) (k + 1)).reverse =
        [a.size - i] ++ (List.range' (a.size - (i + 1) - k + 1) k).reverse := by
      rw [List.range'_1_concat, List.reverse_append, List.reverse_singleton,
        show a.size - i - (k + 1) + 1 + k = a.size - i by omega,
        show a.size - i - (k + 1) = a.size - (i + 1) - k by omega]
    rw [pickInPlace_succ hi, hbounds]
    refine (asks_below _ _).bind fun j => ?_
    have hsize : (a.swapIfInBounds i (i + j)).size = a.size := Array.size_swapIfInBounds
    have hrest := ih (i := i + 1) (a := a.swapIfInBounds i (i + j)) (by omega)
    rwa [hsize] at hrest

/-- The places before `i` are not touched. -/
theorem always_getElem?_pickInPlace {i q : Nat} (hq : q < i) (k : Nat) (a : Array α) :
    Always (fun b => b[q]? = a[q]?) (pickInPlace i k a : StateM Tape (Array α)) := by
  induction k generalizing i a with
  | zero => exact always_pure rfl
  | succ k ih =>
    by_cases hi : i < a.size
    · rw [pickInPlace_succ hi]
      refine (always_true _).bind fun j _ => (ih (by omega) _).mono fun b hb => ?_
      have hj : i + j < a.size := by
        have := j.isLt
        omega
      rw [hb, getElem?_swapIfInBounds hi hj, if_neg (by omega), if_neg (by omega)]
    · unfold pickInPlace
      rw [dif_neg hi]
      exact always_pure rfl

/-- A list starts a part of an array if its head stands there and its tail follows. -/
theorem cons_prefix_drop_iff {a : Array α} {i : Nat} {x : α} {l : List α} :
    x :: l <+: a.toList.drop i ↔ a[i]? = some x ∧ l <+: a.toList.drop (i + 1) := by
  by_cases hi : i < a.size
  · rw [List.drop_eq_getElem_cons (by simpa using hi), List.cons_prefix_cons,
      Array.getElem?_eq_getElem hi, Option.some.injEq, Array.getElem_toList, eq_comm]
  · rw [List.drop_eq_nil_of_le (by simpa using hi), Array.getElem?_eq_none (by omega)]
    simp

/-- In an array without duplicates an element has one place. -/
theorem index_unique {a : Array α} (hnodup : a.toList.Nodup) {p q : Nat} {x : α}
    (hp : a[p]? = some x) (hq : a[q]? = some x) : p = q := by
  rw [← Array.getElem?_toList] at hp hq
  have hlt := (List.getElem?_eq_some_iff.1 hp).1
  exact (List.getElem?_inj hlt hnodup).1 (hp.trans hq.symm)

/-- The first draw tells which element is swapped to place `i`; the others go on behind it. -/
theorem takes_pickInPlace_succ_iff {i k : Nat} {a b : Array α} {draws : List Nat}
    (h : i + (k + 1) ≤ a.size) :
    Takes (pickInPlace i (k + 1) a) draws b ↔
      ∃ (j : Fin (a.size - i)) (rest : List Nat), draws = j.val :: rest ∧
        Takes (pickInPlace (i + 1) k (a.swapIfInBounds i (i + j))) rest b := by
  have hrest (j : Fin (a.size - i)) : Asks (pickInPlace (i + 1) k (a.swapIfInBounds i (i + j)))
      (List.range' (a.size - (i + 1) - k + 1) k).reverse := by
    have hasks := asks_pickInPlace (i := i + 1) (k := k) (a := a.swapIfInBounds i (i + j))
      (by rw [Array.size_swapIfInBounds]; omega)
    rwa [Array.size_swapIfInBounds] at hasks
  rw [pickInPlace_succ (by omega)]
  exact takes_below_bind_iff hrest

/-- What stands at place `i` in the end is what the first draw brought there. -/
theorem getElem?_of_takes_pickInPlace {i k : Nat} {a b : Array α} {draws : List Nat}
    (j : Fin (a.size - i))
    (h : Takes (pickInPlace (i + 1) k (a.swapIfInBounds i (i + j))) draws b) :
    b[i]? = a[i + j]? := by
  have hj : i + j < a.size := by
    have := j.isLt
    omega
  rw [h.of_always (always_getElem?_pickInPlace (Nat.lt_succ_self i) _ _),
    getElem?_swapIfInBounds (by omega) hj]
  by_cases h0 : i + j = i
  · rw [if_pos h0, h0]
  · rw [if_neg h0, if_pos rfl]

/-- What else stands at place `i` or after it stands after it once `x` has been swapped there. -/
theorem exists_getElem?_swapIfInBounds {i q r : Nat} {a : Array α} {x y : α} (hxy : y ≠ x)
    (hi : i < a.size) (hq : a[q]? = some x) (hiq : i ≤ q) (hir : i ≤ r) (hr : a[r]? = some y) :
    ∃ r', i + 1 ≤ r' ∧ (a.swapIfInBounds i q)[r']? = some y := by
  have hqsize : q < a.size := (Array.getElem?_eq_some_iff.1 hq).1
  have hrq : r ≠ q := by
    rintro rfl
    exact hxy (Option.some.inj (hr.symm.trans hq))
  rcases Nat.eq_or_lt_of_le hir with rfl | hir
  · refine ⟨q, by omega, ?_⟩
    rw [getElem?_swapIfInBounds hi hqsize, if_pos rfl, hr]
  · refine ⟨r, hir, ?_⟩
    rw [getElem?_swapIfInBounds hi hqsize, if_neg (Ne.symm hrq), if_neg (by omega), hr]

/-- **In place, the draws can be read off the result,** one after the other: what
comes to stand at place `i` tells the draw that brought it there. -/
theorem existsUnique_takes_pickInPlace {i : Nat} {a : Array α} {l : List α}
    (hnodup : a.toList.Nodup) (hl : l.Nodup) (hroom : i + l.length ≤ a.size)
    (hmem : ∀ x ∈ l, ∃ q, i ≤ q ∧ a[q]? = some x) :
    ∃! draws, ∃ b, Takes (pickInPlace i l.length a) draws b ∧ l <+: b.toList.drop i := by
  induction l generalizing i a with
  | nil =>
    refine ⟨[], ⟨a, takes_pure_iff.2 ⟨rfl, rfl⟩, List.nil_prefix⟩, ?_⟩
    rintro draws ⟨b, hb, -⟩
    exact (takes_pure_iff.1 hb).1
  | cons x l ih =>
    obtain ⟨q, hiq, hq⟩ := hmem x (List.mem_cons_self ..)
    obtain ⟨hqsize, -⟩ := Array.getElem?_eq_some_iff.1 hq
    rw [List.length_cons] at hroom
    obtain ⟨hxl, hl⟩ := List.nodup_cons.1 hl
    -- What is still to come stands after place `i` once `x` has been brought there.
    have hleft : ∀ y ∈ l, ∃ r, i + 1 ≤ r ∧ (a.swapIfInBounds i q)[r]? = some y := by
      intro y hy
      obtain ⟨r, hir, hr⟩ := hmem y (List.mem_cons_of_mem _ hy)
      have hyx : y ≠ x := fun he => hxl (he ▸ hy)
      exact exists_getElem?_swapIfInBounds hyx (by omega) hq hiq hir hr
    obtain ⟨rest, ⟨b, hb, hprefix⟩, honly⟩ := ih (i := i + 1) (a := a.swapIfInBounds i q)
      ((swapIfInBounds_perm a i q).nodup_iff.2 hnodup) hl
      (by rw [Array.size_swapIfInBounds]; omega) hleft
    obtain ⟨j, rfl⟩ : ∃ j : Fin (a.size - i), q = i + j := ⟨⟨q - i, by omega⟩, by simp; omega⟩
    refine ⟨j :: rest, ⟨b, (takes_pickInPlace_succ_iff hroom).2 ⟨j, rest, rfl, hb⟩, ?_⟩, ?_⟩
    · rw [cons_prefix_drop_iff, getElem?_of_takes_pickInPlace j hb]
      exact ⟨hq, hprefix⟩
    · rintro draws ⟨b', hb', hprefix'⟩
      obtain ⟨j', rest', rfl, hrest'⟩ := (takes_pickInPlace_succ_iff hroom).1 hb'
      obtain ⟨hb'i, hprefix'⟩ := cons_prefix_drop_iff.1 hprefix'
      rw [getElem?_of_takes_pickInPlace j' hrest'] at hb'i
      obtain rfl : j' = j := by
        have hplaces := index_unique hnodup hb'i hq
        exact Fin.ext (by omega)
      rw [honly rest' ⟨b', hrest', hprefix'⟩]

/-- Sampling in place asks for bounds that go down by one from draw to draw. -/
theorem asks_sampleInPlace {n k : Nat} (hk : k ≤ n) :
    Asks (sampleInPlace n k) (List.range' (n - k + 1) k).reverse := by
  have hpick := asks_pickInPlace (i := 0) (k := k) (a := Array.range n)
    (by rw [Array.size_range]; omega)
  rw [Array.size_range, Nat.sub_zero] at hpick
  exact hpick.map fun a => a.toList.take k

/-- **Sampling in place is fair:** one list of draws for each sample. -/
theorem existsUnique_takes_sampleInPlace {n k : Nat} {l : List Nat} (hk : k ≤ n)
    (hl : IsSample n k l) : ∃! draws, Takes (sampleInPlace n k) draws l := by
  obtain rfl := hl.length_eq
  have hpick := asks_pickInPlace (i := 0) (k := l.length) (a := Array.range n)
    (by rw [Array.size_range]; omega)
  have htakes : ∀ draws, Takes (sampleInPlace n l.length) draws l ↔
      ∃ b, Takes (pickInPlace 0 l.length (Array.range n)) draws b ∧ l <+: b.toList.drop 0 := by
    intro draws
    unfold sampleInPlace
    rw [hpick.takes_map_iff]
    constructor
    · rintro ⟨b, hb, htake⟩
      exact ⟨b, hb, htake ▸ List.take_prefix _ _⟩
    · rintro ⟨b, hb, hprefix⟩
      exact ⟨b, hb, (List.prefix_iff_eq_take.1 hprefix).symm⟩
  have hunique := existsUnique_takes_pickInPlace (i := 0) (a := Array.range n) (l := l)
    (by rw [Array.toList_range]; exact List.nodup_range) hl.nodup
    (by rw [Array.size_range]; omega) (fun x hx => ⟨x, Nat.zero_le x, by
      simp [hl.lt x hx]⟩)
  simpa only [htakes] using hunique

/-! ## Floyd's method with insertion -/

/-- What a step of Floyd's method with insertion makes of the draw `t`, where the
bound is `j`. -/
def floydStep (j t : Nat) (out : List Nat) : List Nat :=
  if t ∈ out then insertBefore t j out else out ++ [t]

/-- The draw of the last step, and what was drawn before it. -/
def unstep (j : Nat) : List Nat → Nat × List Nat
  | [] => (j, [])
  | [x] => (x, [])
  | x :: y :: rest =>
    if x = j then (y, y :: rest) else ((unstep j (y :: rest)).1, x :: (unstep j (y :: rest)).2)

/-- A position in front that is not the bound was there before the step. -/
theorem unstep_cons {j x : Nat} {l : List Nat} (hl : l ≠ []) (hx : x ≠ j) :
    unstep j (x :: l) = ((unstep j l).1, x :: (unstep j l).2) := by
  cases l with
  | nil => exact absurd rfl hl
  | cons y rest => rw [unstep, if_neg hx]

/-- A draw that was free was put at the end. -/
theorem unstep_concat {j t : Nat} {out : List Nat} (hj : j ∉ out) :
    unstep j (out ++ [t]) = (t, out) := by
  induction out with
  | nil => rfl
  | cons x out ih =>
    rw [List.mem_cons, not_or] at hj
    rw [List.cons_append, unstep_cons (by simp) (Ne.symm hj.1), ih hj.2]

/-- A draw that was taken had the bound put in front of it. -/
theorem unstep_insertBefore {j t : Nat} {out : List Nat} (hj : j ∉ out) (ht : t ∈ out) :
    unstep j (insertBefore t j out) = (t, out) := by
  induction out with
  | nil => exact nomatch ht
  | cons x out ih =>
    rw [List.mem_cons, not_or] at hj
    by_cases hx : x = t
    · rw [insertBefore, if_pos hx, unstep, if_pos rfl, hx]
    · have ht' : t ∈ out := (List.mem_cons.1 ht).resolve_left (Ne.symm hx)
      have hne : insertBefore t j out ≠ [] := by
        intro hnil
        have hlength := (insertBefore_perm t j out).length_eq
        rw [hnil] at hlength
        simp at hlength
      rw [insertBefore, if_neg hx, unstep_cons hne (Ne.symm hj.1), ih hj.2 ht']

/-- Undoing a step finds the draw and what was there before. -/
theorem unstep_floydStep {j t : Nat} {out : List Nat} (hj : j ∉ out) :
    unstep j (floydStep j t out) = (t, out) := by
  unfold floydStep
  split
  · rename_i ht
    exact unstep_insertBefore hj ht
  · exact unstep_concat hj

/-- The draw of the last step is among the positions. -/
theorem unstep_fst_mem {j : Nat} {l : List Nat} (hl : l ≠ []) : (unstep j l).1 ∈ l := by
  fun_induction unstep j l with
  | case1 => exact absurd rfl hl
  | case2 x => exact List.mem_singleton_self x
  | case3 y rest => simp
  | case4 x y rest hx ih => exact List.mem_cons_of_mem _ (ih (List.cons_ne_nil _ _))

/-- Before the step with a bound, the bound itself was not among the positions. -/
theorem not_mem_unstep_snd {j : Nat} {l : List Nat} (hl : l.Nodup) : j ∉ (unstep j l).2 := by
  fun_induction unstep j l with
  | case1 => exact List.not_mem_nil
  | case2 x => exact List.not_mem_nil
  | case3 y rest => exact (List.nodup_cons.1 hl).1
  | case4 x y rest hx ih =>
    rw [List.mem_cons, not_or]
    exact ⟨Ne.symm hx, ih (List.nodup_cons.1 hl).2⟩

/-- Repeating the step that was undone leads back. -/
theorem floydStep_unstep {j : Nat} {l : List Nat} (hl : l.Nodup) (hne : l ≠ []) :
    floydStep j (unstep j l).1 (unstep j l).2 = l := by
  fun_induction unstep j l with
  | case1 => exact absurd rfl hne
  | case2 x => rfl
  | case3 y rest =>
    rw [floydStep, if_pos (List.mem_cons_self ..), insertBefore, if_pos rfl]
  | case4 x y rest hx ih =>
    obtain ⟨hxl, hl⟩ := List.nodup_cons.1 hl
    have hrest := ih hl (List.cons_ne_nil _ _)
    have htx : x ≠ (unstep j (y :: rest)).1 := fun he =>
      hxl (he ▸ unstep_fst_mem (List.cons_ne_nil _ _))
    unfold floydStep at hrest ⊢
    by_cases ht : (unstep j (y :: rest)).1 ∈ (unstep j (y :: rest)).2
    · rw [if_pos ht] at hrest
      rw [if_pos (List.mem_cons_of_mem _ ht), insertBefore, if_neg htx, hrest]
    · rw [if_neg ht] at hrest
      rw [if_neg (by simp [ht, Ne.symm htx]), List.cons_append, hrest]

/-- A step makes a sample of one more position, below one more. -/
theorem isSample_floydStep {j m t : Nat} {out : List Nat} (hout : IsSample j m out)
    (ht : t < j + 1) : IsSample (j + 1) (m + 1) (floydStep j t out) := by
  unfold floydStep
  split
  · have hj : j ∉ out := fun hj => Nat.lt_irrefl j (hout.lt j hj)
    exact (hout.cons j.le_succ j.lt_succ_self hj).perm (insertBefore_perm t j out)
  · rename_i htout
    exact (hout.cons j.le_succ ht htout).perm (List.perm_append_singleton t out)

/-- What was there before the last step of a sample is a sample below the bound. -/
theorem isSample_unstep {j m : Nat} {l : List Nat} (hl : IsSample (j + 1) (m + 1) l) :
    (unstep j l).1 < j + 1 ∧ IsSample j m (unstep j l).2 := by
  have hne : l ≠ [] := by
    rintro rfl
    exact nomatch hl.length_eq
  have hj := not_mem_unstep_snd (j := j) hl.nodup
  have hperm : ∃ x, (floydStep j (unstep j l).1 (unstep j l).2).Perm (x :: (unstep j l).2) := by
    unfold floydStep
    split
    · exact ⟨j, insertBefore_perm _ _ _⟩
    · exact ⟨(unstep j l).1, List.perm_append_singleton _ _⟩
  rw [floydStep_unstep hl.nodup hne] at hperm
  obtain ⟨x, hperm⟩ := hperm
  refine ⟨hl.lt _ (unstep_fst_mem hne), ?_, ?_, fun y hy => ?_⟩
  · exact (List.nodup_cons.1 (hperm.nodup_iff.1 hl.nodup)).2
  · have hlength := hperm.length_eq
    rw [hl.length_eq, List.length_cons] at hlength
    omega
  · have hlt := hl.lt y (hperm.mem_iff.2 (List.mem_cons_of_mem _ hy))
    have hyj : y ≠ j := fun he => hj (he ▸ hy)
    omega

/-- Floyd's method is a draw, a step, and then the steps that are left. -/
theorem floydFrom_succ {σ : Type} [RandomSource σ] (j k : Nat) (out : List Nat) :
    (floydFrom insertBefore j (k + 1) out : StateM σ (List Nat)) = (do
      let t ← RandomSource.below32 (j + 1) (Nat.succ_pos _)
      floydFrom insertBefore (j + 1) k (floydStep j t out)) :=
  rfl

/-- By Floyd's method, the bounds go up by one. -/
theorem asks_floydFrom (j k : Nat) (out : List Nat) :
    Asks (floydFrom insertBefore j k out) (List.range' (j + 1) k) := by
  induction k generalizing j out with
  | zero => exact asks_pure out
  | succ k ih =>
    rw [floydFrom_succ]
    exact (asks_below _ _).bind fun t => ih (j + 1) (floydStep j t out)

/-- The draws of the method are that of its first step and those of the others. -/
theorem takes_floydFrom_succ_iff {j k : Nat} {out draws l : List Nat} :
    Takes (floydFrom insertBefore j (k + 1) out) draws l ↔
      ∃ (t : Fin (j + 1)) (rest : List Nat), draws = t.val :: rest ∧
        Takes (floydFrom insertBefore (j + 1) k (floydStep j t out)) rest l := by
  rw [floydFrom_succ]
  exact takes_below_bind_iff fun t => asks_floydFrom (j + 1) k (floydStep j t out)

/-- **By Floyd's method, the draws can be read off the result,** from the last to the
first, and so can what was there at the start. -/
theorem existsUnique_takes_floydFrom {j m k : Nat} {l : List Nat}
    (hl : IsSample (j + k) (m + k) l) :
    ∃! start : List Nat × List Nat, IsSample j m start.1 ∧
      Takes (floydFrom insertBefore j k start.1) start.2 l := by
  induction k generalizing j m with
  | zero =>
    refine ⟨(l, []), ⟨hl, takes_pure_iff.2 ⟨rfl, rfl⟩⟩, ?_⟩
    rintro ⟨out, draws⟩ ⟨-, hrun⟩
    obtain ⟨rfl, rfl⟩ := takes_pure_iff.1 hrun
    rfl
  | succ k ih =>
    rw [show j + (k + 1) = j + 1 + k by omega, show m + (k + 1) = m + 1 + k by omega] at hl
    obtain ⟨⟨middle, rest⟩, ⟨hmiddle, hrest⟩, honly⟩ := ih hl
    have hne : middle ≠ [] := by
      rintro rfl
      exact nomatch hmiddle.length_eq
    obtain ⟨ht, hout⟩ := isSample_unstep hmiddle
    refine ⟨((unstep j middle).2, (unstep j middle).1 :: rest), ⟨hout, ?_⟩, ?_⟩
    · refine takes_floydFrom_succ_iff.2 ⟨⟨_, ht⟩, rest, rfl, ?_⟩
      rw [floydStep_unstep hmiddle.nodup hne]
      exact hrest
    · rintro ⟨out, draws⟩ ⟨hsample, hrun⟩
      obtain ⟨t, rest', rfl, hrest'⟩ := takes_floydFrom_succ_iff.1 hrun
      have hj : j ∉ out := fun hj => Nat.lt_irrefl j (hsample.lt j hj)
      have hstep := isSample_floydStep hsample t.isLt
      obtain ⟨rfl, rfl⟩ := Prod.mk.inj (honly (floydStep j t out, rest') ⟨hstep, hrest'⟩)
      rw [unstep_floydStep hj]

/-- **Floyd's method with insertion is fair:** one list of draws for each sample. -/
theorem existsUnique_takes_sampleFloydInsert {n k : Nat} {l : List Nat} (hk : k ≤ n)
    (hl : IsSample n k l) : ∃! draws, Takes (sampleFloydInsert n k) draws l := by
  have hl' : IsSample (n - k + k) (0 + k) l := by
    rwa [Nat.sub_add_cancel hk, Nat.zero_add]
  obtain ⟨⟨out, draws⟩, ⟨hout, hdraws⟩, honly⟩ := existsUnique_takes_floydFrom hl'
  obtain rfl : out = [] := List.length_eq_zero_iff.1 hout.length_eq
  refine ⟨draws, hdraws, fun draws' hdraws' => ?_⟩
  exact (Prod.mk.inj (honly ([], draws') ⟨isSample_nil _, hdraws'⟩)).2

/-! ## The method that is chosen -/

/-- Fewer than fifty are drawn in place or by Floyd's method with insertion. -/
theorem choose_of_lt {n k : Nat} (hk : k < 50) :
    Method.choose n k = .inPlace ∨ Method.choose n k = .floydInsert := by
  unfold Method.choose
  rw [if_pos (by omega), if_pos hk]
  split
  · exact .inl rfl
  · exact .inr rfl

/-- Both methods ask for the same bounds, in this order or the other. -/
theorem asks_sampleIndices {n k : Nat} (hk : k ≤ n)
    (hmethod : k < 50 ∨ Method.choose n k = .inPlace) :
    ∃ bounds : List Nat, bounds.Perm (List.range' (n - k + 1) k) ∧
      Asks (sampleIndices n k) bounds := by
  unfold sampleIndices
  rcases hmethod.elim choose_of_lt Or.inl with h | h
  · rw [h]
    exact ⟨_, List.reverse_perm _, asks_sampleInPlace hk⟩
  · rw [h]
    exact ⟨_, .refl _, asks_floydFrom (n - k) k []⟩

/-- **Every ordered sample** is the result for exactly one list of draws. -/
theorem existsUnique_takes_sampleIndices {n k : Nat} {l : List Nat} (hk : k ≤ n)
    (hmethod : k < 50 ∨ Method.choose n k = .inPlace) (hl : IsSample n k l) :
    ∃! draws, Takes (sampleIndices n k) draws l := by
  unfold sampleIndices
  rcases hmethod.elim choose_of_lt Or.inl with h | h
  · rw [h]
    exact existsUnique_takes_sampleInPlace hk hl
  · rw [h]
    exact existsUnique_takes_sampleFloydInsert hk hl

end

end Random
end Alternation
