/-
# Balanced fillers

`SPEC_FULL` §4.6, filler construction: balanced classes split `⌊n/2⌋` / `n - ⌊n/2⌋`, and
too few items of a class are `InsufficientMaterials`.

Balanced fillers are drawn half from each of two rating classes, and the odd one from the
second.  Both classes are drawn before any filler is rendered.  So

* if a class has too few items, the error names the first such class, and no filler has
  been rendered: nothing has been drawn but the items of the class before it
  (`Fillers.run_of_first_short`, `Fillers.run_of_second_short`);
* if neither has, there is no want of items, whatever else goes wrong in a filler
  (`Fillers.raises_of_enough`);
* the fillers of a successful draw carry the label of the first class and then that of the
  second, and each carries the class of its own item (`Fillers.Halves.map_label`).

`Fillers.balanced_of_classes` says all of that of every two classes.
-/

import Alternation.Proofs.Experiment.Criterion

namespace Alternation
namespace Fillers

section

variable {σ : Type} [RandomSource σ] {corpus : NameCorpus} {first second : String}
  {format : BalancedFormat} {set : MaterialsSet} {count : Nat}

/-! ## A class that falls short -/

/-- Too few items of a class are an error that names the class and both numbers; nothing is
drawn. -/
theorem run_sampleRated_of_short {rating : String} {n : Nat}
    (h : (rated set.items rating).length < n) (s : σ) :
    (sampleRated set rating n).run.run s =
      (.error (.insufficientMaterials (set.name ++ " (" ++ rating ++ ")") n
        (rated set.items rating).length), s) := by
  unfold sampleRated
  rw [run_bind, run_sampleItems_of_short h]

/-- With enough items of a class, as many are drawn as are asked for. -/
theorem run_sampleRated_of_enough {rating : String} {n : Nat}
    (h : n ≤ (rated set.items rating).length) (s : σ) :
    ∃ drawn, (sampleRated set rating n).run.run s =
      (.ok drawn, ((Random.sampleIndices (rated set.items rating).length n).run s).2) := by
  unfold sampleRated
  rw [run_bind, run_sampleItems_of_enough h]
  exact ⟨_, rfl⟩

/-- **The first class falls short:** nothing is drawn. -/
theorem run_of_first_short (h : (rated set.items first).length < count / 2) (s : σ) :
    ((balanced first second format).build corpus set count).run.run s =
      (.error (.insufficientMaterials (set.name ++ " (" ++ first ++ ")") (count / 2)
        (rated set.items first).length), s) := by
  unfold build
  rw [run_bind, run_sampleRated_of_short h]

/-- **The second class falls short:** the items of the first have been drawn, and nothing
else. -/
theorem run_of_second_short (h : count / 2 ≤ (rated set.items first).length)
    (h' : (rated set.items second).length < count - count / 2) (s : σ) :
    ((balanced first second format).build corpus set count).run.run s =
      (.error (.insufficientMaterials (set.name ++ " (" ++ second ++ ")") (count - count / 2)
          (rated set.items second).length),
        ((Random.sampleIndices (rated set.items first).length (count / 2)).run s).2) := by
  obtain ⟨drawn, hdrawn⟩ := run_sampleRated_of_enough h s
  unfold build
  rw [run_bind, hdrawn]
  dsimp only
  rw [run_bind, run_sampleRated_of_short h']

/-- **Neither class falls short:** whatever goes wrong, there is no want of items. -/
theorem raises_of_enough (h : count / 2 ≤ (rated set.items first).length)
    (h' : count - count / 2 ≤ (rated set.items second).length) :
    Raises (fun error => ∀ pool requested available,
        error ≠ .insufficientMaterials pool requested available)
      ((balanced first second format).build corpus set count : Drawing σ (List Trial)) := by
  have hrated (rating : String) (n : Nat) (hn : n ≤ (rated set.items rating).length) :
      Raises (fun error => ∀ pool requested available,
          error ≠ .insufficientMaterials pool requested available)
        (sampleRated set rating n : Drawing σ (List (Item × String))) :=
    (raises_sampleItems fun hshort => absurd hn (Nat.not_le.2 hshort)).bind
      fun _ _ _ _ => raises_pure _
  exact (hrated first _ h).bind fun _ _ _ _ => (hrated second _ h').bind fun _ _ _ _ =>
    raises_mapM fun p _ => (Recipe.balanced format p.2).raises_fresh p.1 set.name

/-! ## The labels of the fillers -/

/-- A balanced filler names its class. -/
theorem conditionId_of_buildBalanced {item : Item} {rating materialsId : String} {trial : Trial}
    {s s' : Scene σ}
    (h : Yields (buildBalanced corpus format item rating materialsId) s trial s') :
    trial.conditionId = .filler [.text rating] := by
  simp only [buildBalanced, yields_bind_iff, yields_pure_iff] at h
  obtain ⟨text, _, -, presentation, _, -, itemId, _, -, rfl, -⟩ := h
  rfl

/-- The filler has the item's identifier and names the class that the item gives itself. -/
def LabelledBy (item : Item) (trial : Trial) : Prop :=
  item.id? = some trial.itemId ∧
    trial.conditionId = .filler [.text ((item.text? "rating").getD "")]

/-- A balanced filler is labelled by its item. -/
theorem labelledBy_of_fresh {item : Item} {trial : Trial} {s s' : σ}
    (h : Yields (((balanced first second format).recipe item).build corpus item set.name).fresh s
      trial s') :
    LabelledBy item trial := by
  obtain ⟨bindings, hbuild⟩ := yields_fresh_iff.1 h
  exact ⟨(Recipe.labels_of_fresh h).itemId, conditionId_of_buildBalanced hbuild⟩

/-- Fillers name the classes of their items, in order. -/
theorem map_conditionId_of_labelledBy {items : List Item} {trials : List Trial}
    (h : List.Forall₂ LabelledBy items trials) :
    trials.map (·.conditionId) =
      items.map fun item => .filler [.text ((item.text? "rating").getD "")] := by
  induction h with
  | nil => rfl
  | cons hlabelled _ ih => rw [List.map_cons, List.map_cons, hlabelled.2, ih]

/-- The label of each of the items of a class. -/
theorem map_label_of_rated {items : List Item} {rating : String}
    (h : ∀ item ∈ items, item.text? "rating" = some rating) :
    items.map (fun item => ConditionId.filler [.text ((item.text? "rating").getD "")]) =
      List.replicate items.length (.filler [.text rating]) :=
  List.map_eq_replicate_iff.2 fun item hitem => by rw [h item hitem]; rfl

/-- The labels of the two halves are the two classes, each as often as it was asked for. -/
theorem Halves.map_label {items₁ items₂ : List Item}
    (halves : Halves first second set count items₁ items₂) :
    (items₁ ++ items₂).map (fun item =>
        ConditionId.filler [.text ((item.text? "rating").getD "")]) =
      List.replicate (count / 2) (.filler [.text first]) ++
        List.replicate (count - count / 2) (.filler [.text second]) := by
  rw [List.map_append, map_label_of_rated halves.rated_first, halves.length_first,
    map_label_of_rated halves.rated_second, halves.length_second]

/-- Every item of the halves is of one of the classes. -/
theorem Halves.exists_rating {items₁ items₂ : List Item}
    (halves : Halves first second set count items₁ items₂) {item : Item}
    (h : item ∈ items₁ ++ items₂) : ∃ rating, item.text? "rating" = some rating := by
  rcases List.mem_append.1 h with h | h
  · exact ⟨first, halves.rated_first item h⟩
  · exact ⟨second, halves.rated_second item h⟩

end

/-- **How balanced fillers are drawn** from two different classes, whatever the corpus and
the random source.  Half of the count, rounded down, is of the first class, and the rest of
the second.

* They fail for want of items exactly if a class has too few.  The error names the first
  such class, with the number that was asked for and the number that there is, and nothing
  has been drawn but the items of the class before it.
* If they are rendered, the labels are those of the first class and then those of the
  second, and the fillers stand for different positions of the set, each for an item that
  has its identifier and is of the class that it names. -/
theorem balanced_of_classes {σ : Type} [RandomSource σ] {first second : String}
    (hne : first ≠ second) (format : BalancedFormat) (count : Nat) (set : MaterialsSet)
    (corpus : NameCorpus) (s : σ) :
    ((∃ pool requested available,
        (((balanced first second format).build corpus set count).run.run s).1 =
          .error (.insufficientMaterials pool requested available)) ↔
      (rated set.items first).length < count / 2 ∨
        (rated set.items second).length < count - count / 2) ∧
    ((rated set.items first).length < count / 2 →
      ((balanced first second format).build corpus set count).run.run s =
        (.error (.insufficientMaterials (set.name ++ " (" ++ first ++ ")") (count / 2)
          (rated set.items first).length), s)) ∧
    (count / 2 ≤ (rated set.items first).length →
      (rated set.items second).length < count - count / 2 →
      ((balanced first second format).build corpus set count).run.run s =
        (.error (.insufficientMaterials (set.name ++ " (" ++ second ++ ")") (count - count / 2)
            (rated set.items second).length),
          ((Random.sampleIndices (rated set.items first).length (count / 2)).run s).2)) ∧
    ∀ trials s', Yields ((balanced first second format).build corpus set count) s trials s' →
      trials.map (·.conditionId) = List.replicate (count / 2) (.filler [.text first]) ++
        List.replicate (count - count / 2) (.filler [.text second]) ∧
      ∃ positions : List Nat, positions.Nodup ∧ List.Forall₂ (fun i trial => ∃ item rating,
        set.items[i]? = some item ∧ item.id? = some trial.itemId ∧
        item.text? "rating" = some rating ∧ trial.conditionId = .filler [.text rating])
          positions trials := by
  refine ⟨⟨?_, ?_⟩, fun h => run_of_first_short h s, fun h h' => run_of_second_short h h' s, ?_⟩
  · rintro ⟨pool, requested, available, hfails⟩
    by_contra henough
    rw [not_or, Nat.not_lt, Nat.not_lt] at henough
    exact raises_of_enough henough.1 henough.2 s _ hfails _ _ _ rfl
  · rintro hshort
    by_cases hfirst : (rated set.items first).length < count / 2
    · exact ⟨_, _, _, congrArg Prod.fst (run_of_first_short hfirst s)⟩
    · have hsecond := hshort.resolve_left hfirst
      exact ⟨_, _, _, congrArg Prod.fst (run_of_second_short (Nat.not_lt.1 hfirst) hsecond s)⟩
  · intro trials s' h
    obtain ⟨items₁, items₂, halves, s₁, hrun⟩ := halves_of_balanced h
    obtain ⟨positions, hnodup, hpicks⟩ := halves.positions
    have hlabels : List.Forall₂ LabelledBy (items₁ ++ items₂) trials :=
      hrun.forall₂ fun _ _ _ _ hfresh => labelledBy_of_fresh hfresh
    refine ⟨(map_conditionId_of_labelledBy hlabels).trans halves.map_label, positions, hnodup hne,
      (hpicks.forall₂ hlabels).imp ?_⟩
    rintro i trial ⟨item, hitem, hget, hid, hcondition⟩
    obtain ⟨rating, hrating⟩ := halves.exists_rating hitem
    rw [hrating] at hcondition
    exact ⟨item, rating, hget, hid, hrating, hcondition⟩

/-- One low item and one high one: enough for two fillers, one high item too few for
three, and one low item too few for four. -/
theorem balanced_of_classes_of_cats :
    "low" ≠ "high" ∧
    (∃ (trials : List Trial) (source : Random.Script),
      Yields ((balanced "low" "high" .acceptability).build .tomAndAnn
        MaterialsBundle.paintAndCats.fillers 2) ⟨[]⟩ trials source ∧
      trials.map (·.presentation.sentence) = [some "Cats sleep.", some "Tom sleeps."] ∧
      trials.map (·.conditionId) = [.filler [.text "low"], .filler [.text "high"]]) ∧
    ((balanced "low" "high" .acceptability).build .tomAndAnn
        MaterialsBundle.paintAndCats.fillers 3).run.run (⟨[5]⟩ : Random.Script) =
      (.error (.insufficientMaterials "cats (high)" 2 1), ⟨[]⟩) ∧
    ((balanced "low" "high" .acceptability).build .tomAndAnn
        MaterialsBundle.paintAndCats.fillers 4).run.run (⟨[5]⟩ : Random.Script) =
      (.error (.insufficientMaterials "cats (low)" 2 1), ⟨[5]⟩) := by
  have hne : "low" ≠ "high" := by decide
  have hrun : (((balanced "low" "high" .acceptability).build .tomAndAnn
      MaterialsBundle.paintAndCats.fillers 2).run.run (⟨[]⟩ : Random.Script)).1.map
        (fun trials => trials.map (·.presentation.sentence)) =
          .ok [some "Cats sleep.", some "Tom sleeps."] := by decide +kernel
  have hlow : (rated MaterialsBundle.paintAndCats.fillers.items "low").length = 1 := by
    simp [rated, MaterialsBundle.paintAndCats, MaterialsBundle.paintAndCats.text?_rated]
  have hhigh : (rated MaterialsBundle.paintAndCats.fillers.items "high").length = 1 := by
    simp [rated, MaterialsBundle.paintAndCats, MaterialsBundle.paintAndCats.text?_rated]
  obtain ⟨trials, source, hyields, hsentences⟩ := exists_yields hrun
  obtain ⟨-, -, -, hlabels⟩ := balanced_of_classes hne .acceptability 2
    MaterialsBundle.paintAndCats.fillers .tomAndAnn (⟨[]⟩ : Random.Script)
  obtain ⟨-, -, hsecond, -⟩ := balanced_of_classes hne .acceptability 3
    MaterialsBundle.paintAndCats.fillers .tomAndAnn (⟨[5]⟩ : Random.Script)
  obtain ⟨-, hfirst, -⟩ := balanced_of_classes hne .acceptability 4
    MaterialsBundle.paintAndCats.fillers .tomAndAnn (⟨[5]⟩ : Random.Script)
  rw [hlow, hhigh] at hsecond
  rw [hlow] at hfirst
  exact ⟨hne, ⟨trials, source, hyields, hsentences, (hlabels _ _ hyields).1⟩,
    hsecond (by decide) (by decide), hfirst (by decide)⟩

end Fillers
end Alternation
