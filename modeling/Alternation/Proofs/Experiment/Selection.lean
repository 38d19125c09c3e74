/-
# Selection is fair

`SPEC_FULL` §4.4 and §4.5: items uniformly without replacement, conditions uniformly
with replacement, paired positionally.

`drawPairs` draws items, and a condition for each of them: it is what the rendering
of experimental trials starts with (`Experiment.renderExperimental_eq`).  Off a tape
of draws,

* each ordered choice of places in the pool is drawn in exactly one way, and
* each list of conditions in as many ways as the counts of its conditions in the
  space, multiplied together (`encard_takes_drawConditions`),

whatever items the conditions are for (`encard_takes_drawPairs`).  So all ordered
choices of items are equally likely, and a condition that is listed twice is twice as
likely as one that is listed once.
-/

import Alternation.Experiment.Basic
import Alternation.Proofs.Experiment.Draw
import Alternation.Proofs.Random.Fair
import Mathlib.Data.Fintype.Fin
import Mathlib.Data.Set.Card

namespace Alternation

section

variable {σ α β : Type} [RandomSource σ]

/-- Draws items of a pool, and a condition for each. -/
def drawPairs (items : List α) (count : Nat) (pool : String) (space : List Condition) :
    Drawing σ (List α × List Condition) := do
  let chosen ← sampleItems items count pool
  let conditions ← sampleConditions space chosen.length
  return (chosen, conditions)

/-- Experimental trials are rendered from drawn pairs. -/
theorem Experiment.renderExperimental_eq (corpus : NameCorpus) (e : Experiment)
    (set : MaterialsSet) :
    (e.renderExperimental corpus set : Drawing σ (List Trial)) = (do
      let drawn ← drawPairs (e.kind.usable set) e.experimentalTrials set.name e.kind.space
      (drawn.1.zip drawn.2).mapM fun p => (e.kind.build corpus p.1 p.2 set.name).fresh) := by
  simp only [renderExperimental, drawPairs, bind_assoc, pure_bind]

/-- Drawing from a pool that is mapped is mapping what is drawn. -/
theorem sampleItems_map (f : α → β) (items : List α) (count : Nat) (pool : String) :
    (sampleItems (items.map f) count pool : Drawing σ (List β)) =
      List.map f <$> sampleItems items count pool := by
  unfold sampleItems
  rw [List.length_map]
  split
  · rfl
  · simp only [map_bind, map_pure, List.map_filterMap, List.getElem?_toArray, List.getElem?_map]

/-- Which items are drawn depends on their places alone. -/
theorem drawPairs_map (f : α → β) (items : List α) (count : Nat) (pool : String)
    (space : List Condition) :
    (drawPairs (items.map f) count pool space : Drawing σ (List β × List Condition)) =
      (fun drawn => (drawn.1.map f, drawn.2)) <$> drawPairs items count pool space := by
  unfold drawPairs
  rw [sampleItems_map]
  simp only [map_bind, map_pure, bind_map_left, List.length_map]

/-- Where there is enough to draw from, positions are drawn first and then as many
conditions. -/
theorem run_drawPairs {items : List α} {count : Nat} (pool : String) {space : List Condition}
    (hcount : count ≤ items.length) (pos : 0 < space.length) :
    (drawPairs items count pool space : Drawing σ (List α × List Condition)).run = (do
      let positions ← Random.sampleIndices items.length count
      let conditions ← drawConditions space pos count
      return .ok (positions.filterMap (items.toArray[·]?), conditions)) := by
  have hrun : (drawPairs items count pool space : Drawing σ (List α × List Condition)).run = (do
      let positions ← Random.sampleIndices items.length count
      let chosen := positions.filterMap (items.toArray[·]?)
      let conditions ← drawConditions space pos chosen.length
      return .ok (chosen, conditions)) := by
    unfold drawPairs sampleItems sampleConditions
    rw [if_neg (Nat.not_lt.2 hcount)]
    simp only [dif_pos pos]
    rfl
  rw [hrun]
  refine (Random.always_sampleIndices hcount).bind_congr fun positions hpositions => ?_
  have hpicks : Picks items positions (positions.filterMap (items.toArray[·]?)) :=
    picks_filterMap hpositions.lt
  have hlength := hpicks.length_eq.symm.trans hpositions.length_eq
  dsimp only
  rw [hlength]

end

/-! ## Conditions -/

open Alternation.Random (Takes Asks IsSample)

/-- An element stands in as many places as it is counted. -/
theorem encard_get_eq {α : Type} [DecidableEq α] (l : List α) (a : α) :
    {i : Fin l.length | l.get i = a}.encard = (l.count a : ℕ∞) := by
  have hcard : (Finset.univ.filter fun i : Fin l.length => l.get i = a).card = l.count a :=
    Fin.card_filter_univ_eq_vector_get_eq_count a ⟨l, rfl⟩
  rw [← hcard, ← Set.encard_coe_eq_coe_finsetCard, Finset.coe_filter_univ]

/-- Each condition asks for a number below the size of the space. -/
theorem asks_drawConditions {space : List Condition} (pos : 0 < space.length) (n : Nat) :
    Asks (drawConditions space pos n) (List.replicate n space.length) := by
  induction n with
  | zero => exact Random.asks_pure []
  | succ n ih =>
    exact (Random.asks_below _ _).bind fun i => ih.map (space.get i :: ·)

/-- The draws for a list of conditions are one for the first and those for the others. -/
theorem takes_drawConditions_succ_iff {space : List Condition} {pos : 0 < space.length} {n : Nat}
    {draws : List Nat} {c : Condition} {conditions : List Condition} :
    Takes (drawConditions space pos (n + 1)) draws (c :: conditions) ↔
      ∃ (i : Fin space.length) (rest : List Nat), draws = i.val :: rest ∧ space.get i = c ∧
        Takes (drawConditions space pos n) rest conditions := by
  have hrest := asks_drawConditions pos n
  have htail : ∀ (i : Fin space.length) rest,
      Takes (do return space.get i :: (← drawConditions space pos n)) rest (c :: conditions) ↔
        space.get i = c ∧ Takes (drawConditions space pos n) rest conditions := by
    intro i rest
    rw [hrest.takes_map_iff]
    constructor
    · rintro ⟨drawn, hdrawn, hcons⟩
      obtain ⟨hc, rfl⟩ := List.cons.inj hcons
      exact ⟨hc, hdrawn⟩
    · rintro ⟨rfl, hdrawn⟩
      exact ⟨conditions, hdrawn, rfl⟩
  refine (Random.takes_below_bind_iff fun i => hrest.map (space.get i :: ·)).trans ?_
  simp only [htail]

/-- **Conditions are drawn independently:** a list of them comes of as many lists of
draws as the counts of its conditions in the space make, multiplied together. -/
theorem encard_takes_drawConditions {space : List Condition} (pos : 0 < space.length)
    (conditions : List Condition) :
    {draws | Takes (drawConditions space pos conditions.length) draws conditions}.encard =
      ((conditions.map space.count).prod : ℕ) := by
  induction conditions with
  | nil =>
    have hnil : {draws | Takes (drawConditions space pos ([] : List Condition).length) draws []} =
        {[]} := by
      ext draws
      exact Random.takes_pure_iff.trans (and_iff_left rfl)
    rw [hnil, Set.encard_singleton]
    rfl
  | cons c conditions ih =>
    have hcons : {draws | Takes (drawConditions space pos (c :: conditions).length) draws
          (c :: conditions)} =
        (fun p : Fin space.length × List Nat => p.1.val :: p.2) ''
          ({i | space.get i = c} ×ˢ
            {rest | Takes (drawConditions space pos conditions.length) rest conditions}) := by
      ext draws
      simp only [Set.mem_ofPred_eq, List.length_cons, takes_drawConditions_succ_iff, Set.mem_image,
        Set.mem_prod, Prod.exists]
      constructor
      · rintro ⟨i, rest, rfl, hc, hrest⟩
        exact ⟨i, rest, ⟨hc, hrest⟩, rfl⟩
      · rintro ⟨i, rest, ⟨hc, hrest⟩, rfl⟩
        exact ⟨i, rest, rfl, hc, hrest⟩
    have hinj : Function.Injective (fun p : Fin space.length × List Nat => p.1.val :: p.2) := by
      rintro ⟨i, rest⟩ ⟨i', rest'⟩ h
      obtain ⟨hi, hrest⟩ := List.cons.inj h
      exact Prod.ext (Fin.ext hi) hrest
    rw [hcons, hinj.encard_image, Set.encard_prod, encard_get_eq, ih, List.map_cons,
      List.prod_cons, Nat.cast_mul]

/-! ## Items and conditions -/

/-- The places of drawn items in the pool, when each carries its own. -/
theorem map_snd_filterMap_zipIdx {α : Type} {items : List α} {positions : List Nat}
    (h : ∀ i ∈ positions, i < items.length) :
    (positions.filterMap (items.zipIdx.toArray[·]?)).map Prod.snd = positions := by
  induction positions with
  | nil => rfl
  | cons i positions ih =>
    have hi := h i (List.mem_cons_self ..)
    have hget : items.zipIdx.toArray[i]? = some (items[i], i) := by
      rw [List.getElem?_toArray, List.getElem?_zipIdx, List.getElem?_eq_getElem hi,
        Option.map_some, Nat.zero_add]
    rw [List.filterMap_cons, hget, List.map_cons,
      ih fun j hj => h j (List.mem_cons_of_mem _ hj)]

section

variable {α : Type} {items : List α} {count : Nat} {pool : String} {space : List Condition}
  {draws positions : List Nat} {conditions : List Condition}

/-- Pairs ask for the bounds of the items, in some order, and then for those of the
conditions. -/
theorem exists_asks_drawPairs (pool : String) (hcount : count ≤ items.length)
    (hmethod : count < 50 ∨ Random.Method.choose items.length count = .inPlace)
    (pos : 0 < space.length) :
    ∃ bounds : List Nat,
      bounds.Perm (List.range' (items.length - count + 1) count ++
        List.replicate count space.length) ∧
      Asks (drawPairs items count pool space).run bounds := by
  obtain ⟨bounds, hperm, hindices⟩ := Random.asks_sampleIndices hcount hmethod
  refine ⟨bounds ++ List.replicate count space.length, hperm.append_right _, ?_⟩
  rw [run_drawPairs pool hcount pos]
  exact hindices.bind fun positions => (asks_drawConditions pos count).map fun conditions =>
    Except.ok (ε := RenderError) (positions.filterMap (items.toArray[·]?), conditions)

/-- Where there is enough to draw from, drawing does not fail. -/
theorem always_run_drawPairs (hcount : count ≤ items.length) (pos : 0 < space.length) :
    Always (fun result => ∃ drawn, result = .ok drawn)
      ((drawPairs items count pool space).run :
        StateM Random.Tape (Except RenderError (List α × List Condition))) := by
  rw [run_drawPairs pool hcount pos]
  exact (always_true _).bind fun _ _ => (always_true _).bind fun _ _ => always_pure ⟨_, rfl⟩

/-- The draws that choose items at these places, and these conditions for them. -/
theorem takes_drawPairs_iff (hcount : count ≤ items.length)
    (hmethod : count < 50 ∨ Random.Method.choose items.length count = .inPlace)
    (pos : 0 < space.length) :
    (∃ chosen, chosen.map Prod.snd = positions ∧
        Takes (drawPairs items.zipIdx count pool space).run draws (.ok (chosen, conditions))) ↔
      ∃ taken rest, draws = taken ++ rest ∧
        Takes (Random.sampleIndices items.length count) taken positions ∧
        Takes (drawConditions space pos count) rest conditions := by
  obtain ⟨bounds, -, hindices⟩ := Random.asks_sampleIndices hcount hmethod
  have hdrawing := asks_drawConditions pos count
  have hzip : count ≤ items.zipIdx.length := by rwa [List.length_zipIdx]
  rw [run_drawPairs pool hzip pos, List.length_zipIdx]
  simp only [hindices.takes_bind_iff fun drawn => hdrawing.map fun conditions =>
      Except.ok (ε := RenderError) (drawn.filterMap (items.zipIdx.toArray[·]?), conditions),
    hdrawing.takes_map_iff]
  constructor
  · rintro ⟨chosen, rfl, taken, rest, drawn, rfl, hdrawn, conditions', hconditions, hok⟩
    obtain ⟨rfl, rfl⟩ := Prod.mk.inj (Except.ok.inj hok)
    have hsample := hdrawn.of_always (Random.always_sampleIndices hcount)
    rw [map_snd_filterMap_zipIdx hsample.lt]
    exact ⟨taken, rest, rfl, hdrawn, hconditions⟩
  · rintro ⟨taken, rest, rfl, hpositions, hconditions⟩
    have hsample := hpositions.of_always (Random.always_sampleIndices hcount)
    exact ⟨_, map_snd_filterMap_zipIdx hsample.lt, taken, rest, positions, rfl, hpositions,
      conditions, hconditions, rfl⟩

end

/-- **Selection is fair.**  Which items are drawn depends on their places alone, so let
each item of the pool carry its place.  Whatever has been drawn, the next draw has the
same bound, and all the bounds together are those of as many ordered choices of places,
and of lists of conditions, as there are.  Each choice of different places, in any
order, is drawn together with each list of conditions in as many ways as the counts of
the conditions in the space, multiplied together. -/
theorem encard_takes_drawPairs {α : Type} (items : List α) (pool : String)
    {space : List Condition} {count : Nat} (hcount : count ≤ items.length)
    (hmethod : count < 50 ∨ Random.Method.choose items.length count = .inPlace)
    (hspace : space ≠ []) :
    (∀ {σ : Type} [RandomSource σ],
      (drawPairs items count pool space : Drawing σ (List α × List Condition)) =
        (fun drawn => (drawn.1.map Prod.fst, drawn.2)) <$>
          drawPairs items.zipIdx count pool space) ∧
    (∃ bounds : List Nat,
      bounds.Perm (List.range' (items.length - count + 1) count ++
        List.replicate count space.length) ∧
      ∀ draws, (∃ drawn, Takes (drawPairs items.zipIdx count pool space).run draws (.ok drawn)) ↔
        List.Forall₂ (· < ·) draws bounds) ∧
    ∀ (positions : List Nat) (conditions : List Condition),
      positions.Nodup → positions.length = count → (∀ i ∈ positions, i < items.length) →
      conditions.length = count →
        {draws | ∃ chosen, chosen.map Prod.snd = positions ∧
          Takes (drawPairs items.zipIdx count pool space).run draws
            (.ok (chosen, conditions))}.encard = ((conditions.map space.count).prod : ℕ) := by
  have pos : 0 < space.length := List.length_pos_iff.2 hspace
  refine ⟨fun {σ} _ => ?_, ?_, fun positions conditions hnodup hlength hlt hconditions => ?_⟩
  · rw [← drawPairs_map, List.zipIdx_map_fst]
  · have hlength : items.zipIdx.length = items.length := List.length_zipIdx
    rw [← hlength] at hcount hmethod ⊢
    obtain ⟨bounds, hperm, hasks⟩ := exists_asks_drawPairs pool hcount hmethod pos
    refine ⟨bounds, hperm, fun draws => ?_⟩
    rw [← hasks.exists_takes_iff]
    constructor
    · rintro ⟨drawn, hdrawn⟩
      exact ⟨_, hdrawn⟩
    · rintro ⟨result, hresult⟩
      obtain ⟨drawn, rfl⟩ := hresult.of_always (always_run_drawPairs hcount pos)
      exact ⟨drawn, hresult⟩
  · obtain ⟨taken, htaken, honly⟩ :=
      Random.existsUnique_takes_sampleIndices hcount hmethod ⟨hnodup, hlength, hlt⟩
    have himage : {draws | ∃ chosen, chosen.map Prod.snd = positions ∧
          Takes (drawPairs items.zipIdx count pool space).run draws (.ok (chosen, conditions))} =
        (taken ++ ·) '' {rest | Takes (drawConditions space pos conditions.length) rest
          conditions} := by
      ext draws
      simp only [Set.mem_ofPred_eq, Set.mem_image, takes_drawPairs_iff hcount hmethod pos,
        hconditions]
      constructor
      · rintro ⟨taken', rest, rfl, htaken', hrest⟩
        rw [honly taken' htaken']
        exact ⟨rest, hrest, rfl⟩
      · rintro ⟨rest, hrest, rfl⟩
        exact ⟨taken, rest, rfl, htaken, hrest⟩
    rw [himage, (List.append_right_injective taken).encard_image,
      encard_takes_drawConditions pos conditions]

/-- Of three items the third and the first, in a condition that is listed twice and one
that is listed once: two lists of draws choose these. -/
theorem encard_takes_drawPairs_of_three :
    {draws | ∃ chosen, chosen.map Prod.snd = [2, 0] ∧
      Takes (drawPairs ["a", "b", "a"].zipIdx 2 "letters"
        [.ofDigits [0], .ofDigits [1], .ofDigits [0]]).run draws
          (.ok (chosen, [.ofDigits [0], .ofDigits [1]]))}.encard = (2 : ℕ) :=
  (encard_takes_drawPairs ["a", "b", "a"] "letters" (by decide) (.inl (by decide))
    (List.cons_ne_nil _ _)).2.2 [2, 0] [.ofDigits [0], .ofDigits [1]] (by decide) rfl
    (by decide) rfl

end Alternation
