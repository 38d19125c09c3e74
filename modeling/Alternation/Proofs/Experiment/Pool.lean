/-
# Drawing from a pool

`SPEC_FULL` §4.4: `sample_items` draws uniformly without replacement, and a number
larger than the pool is `InsufficientMaterials`.

Too many items are refused before anything is drawn.  Else the items that come out stand at
different positions of the pool, as many as were asked for, whatever is drawn and by
whichever method, as long as redrawing stops; and if all items of the pool are asked for,
they come out as a permutation of it (`sampled_from_pool`).
-/

import Alternation.Proofs.Experiment.Draw
import Alternation.Proofs.Random.Redraw
import Alternation.Proofs.Random.Script

namespace Alternation

/-- As many different positions as there are come in some order. -/
theorem Random.IsSample.perm_range {n : ℕ} {l : List ℕ} (h : IsSample n n l) :
    l.Perm (List.range n) := by
  have hsubset : l ⊆ List.range n := fun x hx => List.mem_range.2 (h.lt x hx)
  refine (List.subperm_of_subset h.nodup hsubset).perm_of_length_le ?_
  rw [List.length_range, h.length_eq]

section

variable {σ α : Type} [RandomSource σ] {pool chosen : List α} {positions : List ℕ}

/-- Looking up all positions gives the pool. -/
theorem filterMap_getElem?_range (pool : List α) :
    (List.range pool.length).filterMap (pool[·]?) = pool := by
  induction pool with
  | nil => rfl
  | cons x pool ih =>
    rw [List.length_cons, List.range_succ_eq_map, List.filterMap_cons_some List.getElem?_cons_zero,
      List.filterMap_map]
    exact congrArg (x :: ·) ih

/-- What is picked is what is looked up at the positions. -/
theorem Picks.eq_filterMap (h : Picks pool positions chosen) :
    chosen = positions.filterMap (pool[·]?) := by
  induction h with
  | nil => rfl
  | cons hx _ ih => rw [List.filterMap_cons_some hx, ← ih]

/-- **All items of a pool** are a permutation of it. -/
theorem Picks.perm (h : Picks pool positions chosen)
    (hsample : Random.IsSample pool.length pool.length positions) : chosen.Perm pool := by
  have hperm := hsample.perm_range.filterMap (pool[·]?)
  rwa [filterMap_getElem?_range, ← h.eq_filterMap] at hperm

/-- So many items are chosen from different positions of the pool. -/
structure Drawn (pool : List α) (n : ℕ) (positions : List ℕ) (chosen : List α) : Prop where
  sample : Random.IsSample pool.length n positions
  picks : Picks pool positions chosen
  perm : n = pool.length → chosen.Perm pool

/-- The items at the positions of a sample. -/
theorem drawn_of_isSample {n : ℕ} (h : Random.IsSample pool.length n positions) :
    Drawn pool n positions (positions.filterMap (pool.toArray[·]?)) where
  sample := h
  picks := picks_filterMap h.lt
  perm hn := (picks_filterMap h.lt).perm (hn ▸ h)

/-- **A sample of a pool:** more items than there are is an error, and nothing is drawn.
Otherwise items come out that stand at different positions, as many as were asked for; so
do those that any method would choose when redrawing stops, and of the method that the
numbers call for these are the ones, if nothing is redrawn beyond the budget. -/
theorem sampled_from_pool (pool : List α) (n : ℕ) (label : String) (s : σ) :
    (pool.length < n →
      (sampleItems pool n label).run.run s =
        (.error (.insufficientMaterials label n pool.length), s)) ∧
    (n ≤ pool.length →
      (∃ positions chosen s', Drawn pool n positions chosen ∧
        Yields (sampleItems pool n label) s chosen s') ∧
      ∀ (method : Random.Method) (most : ℕ) (positions : List ℕ) (s' : σ),
        method.Draws most pool.length n s positions s' →
          ∃ chosen, Drawn pool n positions chosen ∧
            (method = .choose pool.length n → most < Random.redrawBudget →
              Yields (sampleItems pool n label) s chosen s')) := by
  refine ⟨fun hshort => run_sampleItems_of_short hshort label s, fun hn => ?_⟩
  have hrun := run_sampleItems_of_enough hn label s
  constructor
  · exact ⟨_, _, _, drawn_of_isSample (Random.always_sampleIndices hn s), hrun⟩
  · intro method most positions s' hdraws
    refine ⟨_, drawn_of_isSample (hdraws.isSample hn), fun hmethod hmost => ?_⟩
    -- The method that is chosen makes the same draws in the program.
    have hindices : (Random.sampleIndices pool.length n).run s = (positions, s') := by
      rw [Random.sampleIndices, ← hmethod]
      exact hdraws.run_sample hmost
    rwa [hindices] at hrun

end

/-- All three insects by Floyd's method, two of them by rejection with one redraw, and four. -/
theorem sampled_from_pool_of_insects :
    (Random.Method.floydInsert.Draws 0 3 3 (⟨[0, 0, 2]⟩ : Random.Script) [1, 0, 2] ⟨[]⟩ ∧
      ∃ chosen, chosen.Perm ["ants", "bees", "wasps"] ∧
        Yields (sampleItems ["ants", "bees", "wasps"] 3 "insects")
          (⟨[0, 0, 2]⟩ : Random.Script) chosen ⟨[]⟩) ∧
    (Random.Method.rejection.Draws 1 3 2 (⟨[1, 1, 2]⟩ : Random.Script) [1, 2] ⟨[]⟩ ∧
      ∃ chosen, Drawn ["ants", "bees", "wasps"] 2 [1, 2] chosen) ∧
    (["ants", "bees", "wasps"].length < 4 ∧
      (sampleItems ["ants", "bees", "wasps"] 4 "insects").run.run (⟨[]⟩ : Random.Script) =
        (.error (.insufficientMaterials "insects" 4 3), ⟨[]⟩)) := by
  have hfloyd : Random.Method.floydInsert.Draws 0 3 3 (⟨[0, 0, 2]⟩ : Random.Script) [1, 0, 2]
      ⟨[]⟩ := rfl
  have hreject : Random.Method.rejection.Draws 1 3 2 (⟨[1, 1, 2]⟩ : Random.Script) [1, 2] ⟨[]⟩ :=
    .next (by decide) (.free rfl (by decide)) (by decide)
      (.next (by decide) (.again rfl (by decide) (.free rfl (by decide))) (by decide)
        (.done _ _))
  refine ⟨⟨hfloyd, ?_⟩, ⟨hreject, ?_⟩, by decide, ?_⟩
  · obtain ⟨-, henough⟩ := sampled_from_pool ["ants", "bees", "wasps"] 3 "insects"
      (⟨[0, 0, 2]⟩ : Random.Script)
    obtain ⟨chosen, hdrawn, hyields⟩ := (henough (by decide)).2 _ _ _ _ hfloyd
    exact ⟨chosen, hdrawn.perm rfl, hyields (by decide) (by decide)⟩
  · obtain ⟨-, henough⟩ := sampled_from_pool ["ants", "bees", "wasps"] 2 "insects"
      (⟨[1, 1, 2]⟩ : Random.Script)
    obtain ⟨chosen, hdrawn, -⟩ := (henough (by decide)).2 _ _ _ _ hreject
    exact ⟨chosen, hdrawn⟩
  · exact (sampled_from_pool ["ants", "bees", "wasps"] 4 "insects" (⟨[]⟩ : Random.Script)).1
      (by decide)

end Alternation
