/-
# Redrawing until it stops

`SPEC_FULL` §4.4: `sample_items` on pools so large that positions are drawn and
rejected.

By the method of rejection, a position that is taken is drawn anew until one comes that is
not, however often that happens.  `Redraws` is a run of that loop which stops, and `Rejects`
is one for each position of a sample.

* Whenever the loops stop, the positions are a sample (`Rejects.isSample`), and so they are
  by every other method (`Method.Draws.isSample`).
* `drawUntaken` gives up at last.  A run in which no position is redrawn that often is what
  `Method.sample` does (`Method.Draws.run_sample`).
-/

import Alternation.Proofs.Random.Sampling

namespace Alternation
namespace Random

variable {σ : Type} [RandomSource σ]

/-- So many positions are drawn that are taken, and then one that is not. -/
inductive Redraws (n : ℕ) (pos : 0 < n) (taken : List ℕ) : ℕ → σ → ℕ → σ → Prop
  | free {s s' : σ} {v : Fin n} (drawn : (RandomSource.uniform32 n pos).run s = (v, s'))
      (hfree : v.val ∉ taken) : Redraws n pos taken 0 s v s'
  | again {redraws : ℕ} {s s' s'' : σ} {v : Fin n} {w : ℕ}
      (drawn : (RandomSource.uniform32 n pos).run s = (v, s')) (htaken : v.val ∈ taken)
      (rest : Redraws n pos taken redraws s' w s'') : Redraws n pos taken (redraws + 1) s w s''

/-- Positions are drawn one by one, each of them anew at most `most` times, and come on top
of those that are taken, which are in reverse order. -/
inductive Rejects (most n : ℕ) : ℕ → List ℕ → σ → List ℕ → σ → Prop
  | done (taken : List ℕ) (s : σ) : Rejects most n 0 taken s taken.reverse s
  | next {k redraws v : ℕ} {taken l : List ℕ} {s s' s'' : σ} (pos : 0 < n)
      (drawn : Redraws n pos taken redraws s v s') (hmost : redraws ≤ most)
      (rest : Rejects most n k (v :: taken) s' l s'') : Rejects most n (k + 1) taken s l s''

/-- A run of the method in which every redrawing stops, after at most `most` redraws. -/
def Method.Draws (most : ℕ) : Method → (n k : ℕ) → σ → List ℕ → σ → Prop
  | .rejection, n, k, s, l, s' => Rejects most n k [] s l s'
  | .inPlace, n, k, s, l, s' => (sampleInPlace n k).run s = (l, s')
  | .floydInsert, n, k, s, l, s' => (sampleFloydInsert n k).run s = (l, s')
  | .floydShuffle, n, k, s, l, s' => (sampleFloydShuffle n k).run s = (l, s')

/-! ## What is drawn -/

/-- What comes of redrawing is a position that is not taken. -/
theorem Redraws.lt_and_not_mem {n redraws v : ℕ} {pos : 0 < n} {taken : List ℕ} {s s' : σ}
    (h : Redraws n pos taken redraws s v s') : v < n ∧ v ∉ taken := by
  induction h with
  | @free _ _ v _ hfree => exact ⟨v.isLt, hfree⟩
  | again _ _ _ ih => exact ih

/-- **Positions that are drawn until they are free** make a sample larger. -/
theorem Rejects.isSample {most n m k : ℕ} {taken l : List ℕ} {s s' : σ}
    (h : Rejects most n k taken s l s') (htaken : IsSample n m taken) : IsSample n (m + k) l := by
  induction h generalizing m with
  | done taken _ => exact htaken.perm (List.reverse_perm taken)
  | @next k _ _ _ _ _ _ _ _ drawn _ _ ih =>
    obtain ⟨hlt, hfree⟩ := drawn.lt_and_not_mem
    rw [show m + (k + 1) = m + 1 + k by omega]
    exact ih (htaken.cons (Nat.le_refl n) hlt hfree)

/-- **A run that stops is a sample,** by whichever method. -/
theorem Method.Draws.isSample {most n k : ℕ} {method : Method} {l : List ℕ} {s s' : σ}
    (h : method.Draws most n k s l s') (hk : k ≤ n) : IsSample n k l := by
  have hresult : ∀ {m : StateM σ (List ℕ)}, Always (IsSample n k) m → m.run s = (l, s') →
      IsSample n k l := by
    intro m hm hrun
    have hsample := hm s
    rwa [hrun] at hsample
  cases method with
  | inPlace => exact hresult (always_sampleInPlace hk) h
  | floydInsert => exact hresult (always_sampleFloydInsert hk) h
  | floydShuffle => exact hresult (always_sampleFloydShuffle hk) h
  | rejection =>
    have hsample := Rejects.isSample h (isSample_nil n)
    rwa [Nat.zero_add] at hsample

/-! ## Within the budget -/

/-- A draw that is taken is made anew as long as the budget lasts. -/
theorem run_drawUntaken_succ {n : ℕ} {pos : 0 < n} {s s' : σ} {v : Fin n}
    (h : (RandomSource.uniform32 n pos).run s = (v, s')) (taken : List ℕ) (budget : ℕ) :
    (drawUntaken n pos taken (budget + 1)).run s =
      if v.val ∈ taken then (drawUntaken n pos taken budget).run s' else (v.val, s') := by
  have hrun : (drawUntaken n pos taken (budget + 1)).run s =
      (if ((RandomSource.uniform32 n pos).run s).1.val ∈ taken then drawUntaken n pos taken budget
        else pure ((RandomSource.uniform32 n pos).run s).1.val : StateM σ ℕ).run
          ((RandomSource.uniform32 n pos).run s).2 := rfl
  rw [hrun, h]
  split <;> rfl

/-- Redrawing that stops within the budget is what the method does. -/
theorem Redraws.run_drawUntaken {n redraws v budget : ℕ} {pos : 0 < n} {taken : List ℕ} {s s' : σ}
    (h : Redraws n pos taken redraws s v s') (hbudget : redraws < budget) :
    (drawUntaken n pos taken budget).run s = (v, s') := by
  induction h generalizing budget with
  | free drawn hfree =>
    obtain ⟨budget, rfl⟩ := Nat.exists_eq_add_one.2 hbudget
    rw [run_drawUntaken_succ drawn, if_neg hfree]
  | again drawn htaken _ ih =>
    obtain ⟨budget, rfl⟩ := Nat.exists_eq_add_one.2 (Nat.zero_lt_of_lt hbudget)
    rw [run_drawUntaken_succ drawn, if_pos htaken]
    exact ih (by omega)

/-- A run of rejections that stop within the budget is what the method does. -/
theorem Rejects.run_rejectFrom {most n k : ℕ} {taken l : List ℕ} {s s' : σ}
    (h : Rejects most n k taken s l s') (hmost : most < redrawBudget) (pos : 0 < n) :
    (rejectFrom n pos k taken).run s = (l, s') := by
  induction h with
  | done => rfl
  | @next k _ _ taken _ s _ _ pos' drawn hredraws _ ih =>
    have hrun : (rejectFrom n pos (k + 1) taken).run s =
        (rejectFrom n pos k (((drawUntaken n pos taken redrawBudget).run s).1 :: taken)).run
          ((drawUntaken n pos taken redrawBudget).run s).2 := rfl
    rw [hrun, drawn.run_drawUntaken (by omega)]
    exact ih

/-- From no position taken, that is a run of the whole method. -/
theorem Rejects.run_sampleRejection {most n k : ℕ} {l : List ℕ} {s s' : σ}
    (h : Rejects most n k [] s l s') (hmost : most < redrawBudget) :
    (sampleRejection n k).run s = (l, s') := by
  unfold sampleRejection
  split
  · rename_i pos
    exact h.run_rejectFrom hmost pos
  · rename_i hpos
    cases h with
    | done => rfl
    | next pos => exact absurd pos hpos

/-- **A run within the budget** is what the program does. -/
theorem Method.Draws.run_sample {most n k : ℕ} {method : Method} {l : List ℕ} {s s' : σ}
    (h : method.Draws most n k s l s') (hmost : most < redrawBudget) :
    (method.sample n k).run s = (l, s') := by
  cases method with
  | inPlace => exact h
  | floydInsert => exact h
  | floydShuffle => exact h
  | rejection => exact Rejects.run_sampleRejection h hmost

end Random
end Alternation
