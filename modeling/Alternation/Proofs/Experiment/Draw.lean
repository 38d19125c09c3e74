/-
# Where drawn items stand

`SPEC_FULL` §4.4 and §4.5: what `sample_items` and `sample_conditions` draw.

`Picks items positions chosen` says where in a list the chosen elements stand.  Two
items may be equal in every field, so that a draw takes no item twice is said of the
positions.

* Drawn items stand at different positions, as many as were asked for
  (`picks_of_sampleItems`).
* Too few items are an error at once, and nothing is drawn (`run_sampleItems_of_short`);
  from enough of them a sample of positions is drawn and no more
  (`run_sampleItems_of_enough`).
* Drawn conditions are conditions of the space (`conditions_of_sample`).
-/

import Alternation.Experiment.Draw
import Alternation.Proofs.Random.Sampling
import Mathlib.Data.List.NodupEquivFin

namespace Alternation

/-! ## Positions -/

section

variable {α : Type} {items items' chosen chosen' : List α} {positions positions' : List Nat}

/-- The chosen elements, in order, are those at the positions. -/
def Picks (items : List α) (positions : List Nat) (chosen : List α) : Prop :=
  List.Forall₂ (fun i x => items[i]? = some x) positions chosen

/-- Picks may be put one behind the other. -/
theorem Picks.append (h : Picks items positions chosen) (h' : Picks items positions' chosen') :
    Picks items (positions ++ positions') (chosen ++ chosen') :=
  List.rel_append h h'

/-- At each of the positions an item is picked. -/
theorem Picks.exists_of_mem (h : Picks items positions chosen) {i : Nat} (hi : i ∈ positions) :
    ∃ x ∈ chosen, items[i]? = some x := by
  induction h with
  | nil => exact nomatch hi
  | cons hx _ ih =>
    rcases List.mem_cons.1 hi with rfl | hi
    · exact ⟨_, List.mem_cons_self .., hx⟩
    · obtain ⟨x, hmem, hget⟩ := ih hi
      exact ⟨x, List.mem_cons_of_mem _ hmem, hget⟩

/-- What is picked is among the items. -/
theorem Picks.subset (h : Picks items positions chosen) : chosen ⊆ items := by
  intro x hx
  induction h with
  | nil => exact nomatch hx
  | cons hy _ ih =>
    rcases List.mem_cons.1 hx with rfl | hx
    · exact List.mem_of_getElem? hy
    · exact ih hx

/-- What holds of each chosen element and its result holds of the position and the result. -/
theorem Picks.forall₂ {β : Type} {R : α → β → Prop} {results : List β}
    (h : Picks items positions chosen) (hR : List.Forall₂ R chosen results) :
    List.Forall₂ (fun i y => ∃ x ∈ chosen, items[i]? = some x ∧ R x y) positions results := by
  induction h generalizing results with
  | nil =>
    cases hR
    exact .nil
  | cons hx _ ih =>
    cases hR with
    | cons hy hrest =>
      refine .cons ⟨_, List.mem_cons_self .., hx, hy⟩ ((ih hrest).imp ?_)
      rintro i y ⟨x, hmem, hget, hxy⟩
      exact ⟨x, List.mem_cons_of_mem _ hmem, hget, hxy⟩

/-- What stands in a part of a list stands in the list, in the same order. -/
theorem Picks.of_sublist (h : Picks items positions chosen) (hsub : items.Sublist items') :
    ∃ f : ℕ ↪o ℕ, Picks items' (positions.map f) chosen := by
  obtain ⟨f, hf⟩ := List.sublist_iff_exists_orderEmbedding_getElem?_eq.1 hsub
  refine ⟨f, List.forall₂_map_left_iff.2 (h.imp fun i x hx => ?_)⟩
  rw [← hf, hx]

/-- Looking up positions in range picks what stands there. -/
theorem picks_filterMap (h : ∀ i ∈ positions, i < items.length) :
    Picks items positions (positions.filterMap (items.toArray[·]?)) := by
  induction positions with
  | nil => exact .nil
  | cons i positions ih =>
    have hi := List.getElem?_eq_getElem (h i (List.mem_cons_self ..))
    rw [List.filterMap_cons, List.getElem?_toArray, hi]
    exact .cons hi (ih fun j hj => h j (List.mem_cons_of_mem _ hj))

end

/-! ## Items and conditions -/

section

variable {σ α : Type} [RandomSource σ]

/-- **Too few items:** nothing is drawn, and the error says how many there are. -/
theorem run_sampleItems_of_short {items : List α} {n : Nat} (h : items.length < n) (pool : String)
    (s : σ) :
    (sampleItems items n pool).run.run s =
      (.error (.insufficientMaterials pool n items.length), s) := by
  unfold sampleItems
  rw [if_pos h]
  rfl

/-- **Enough items:** a sample of positions is drawn, and nothing else. -/
theorem run_sampleItems_of_enough {items : List α} {n : Nat} (h : n ≤ items.length)
    (pool : String) (s : σ) :
    (sampleItems items n pool).run.run s =
      (.ok (((Random.sampleIndices items.length n).run s).1.filterMap (items.toArray[·]?)),
        ((Random.sampleIndices items.length n).run s).2) := by
  unfold sampleItems
  rw [if_neg (Nat.not_lt.2 h)]
  rfl

/-- **Drawn items stand at different positions.** -/
theorem picks_of_sampleItems {items chosen : List α} {n : Nat} {pool : String} {s s' : σ}
    (h : Yields (sampleItems items n pool) s chosen s') :
    chosen.length = n ∧ ∃ positions : List Nat, positions.Nodup ∧ Picks items positions chosen := by
  unfold sampleItems at h
  split at h
  · exact (yields_throw_iff.1 h).elim
  · rename_i hle
    simp only [yields_bind_iff, yields_lift_iff, yields_pure_iff] at h
    obtain ⟨positions, s'', hrun, rfl, -⟩ := h
    have hsample := Random.always_sampleIndices (σ := σ) (Nat.le_of_not_lt hle) s
    rw [hrun] at hsample
    have hpicks := picks_filterMap hsample.lt
    exact ⟨hpicks.length_eq.symm.trans hsample.length_eq, positions, hsample.nodup, hpicks⟩

/-- As many conditions are drawn as are asked for, all from the space. -/
theorem always_drawConditions (space : List Condition) (pos : 0 < space.length) (n : Nat) :
    Always (fun drawn => drawn.length = n ∧ drawn ⊆ space)
      (drawConditions space pos n : StateM σ (List Condition)) := by
  induction n with
  | zero => exact always_pure ⟨rfl, List.nil_subset _⟩
  | succ n ih =>
    refine (always_true _).bind fun i _ => ih.bind fun rest hrest => always_pure ⟨?_, ?_⟩
    · rw [List.length_cons, hrest.1]
    · exact List.cons_subset.2 ⟨List.get_mem _ _, hrest.2⟩

/-- **Drawn conditions** are conditions of the space, as many as were asked for. -/
theorem conditions_of_sample {space conditions : List Condition} {n : Nat} {s s' : σ}
    (h : Yields (sampleConditions space n) s conditions s') :
    conditions.length = n ∧ conditions ⊆ space := by
  unfold sampleConditions at h
  split at h
  · rename_i pos
    have hdrawn := always_drawConditions (σ := σ) space pos n s
    rw [yields_lift_iff.1 h] at hdrawn
    exact hdrawn
  · exact (yields_throw_iff.1 h).elim

end
end Alternation
