/-
# Marks for exclusion

`SPEC_FULL` §3 and `README`, *Materials*: an item with `exclude` is skipped;
`filter_items` does so, and no `build_fillers` does.

An item that its author has marked for exclusion is rendered in no experimental trial,
for it is not usable.  Fillers take no notice of the marks: they are drawn from all items
of a set, or from those of a rating class.  Marking fillers, or removing their marks,
changes neither what is drawn nor what is rendered (`Fillers.build_remarked`).

So no session shows an item that is marked if no item is marked that its fillers are
drawn from, and any session with fillers can be had from a set whose fillers are all
marked (`Experiment.exclusion_of_assemble`).
-/

import Alternation.Experiment.Registry
import Alternation.Proofs.Experiment.Lead
import Alternation.Proofs.Experiment.Selection

namespace Alternation

/-! ## Changing marks -/

/-- An item before and after its mark for exclusion was changed. -/
structure Remark where
  before : Item
  after : Item
  same : ∀ field, field ≠ "exclude" → after.get? field = before.get? field

/-- The item is marked. -/
def Remark.mark (item : Item) : Remark where
  before := item
  after := item.set "exclude" (.bool true)
  same := fun _ h => by rw [Item.get?_set, if_neg h]

namespace Remark

variable (r : Remark)

/-- A mark does not change the text of any other field. -/
theorem text?_eq {field : String} (h : field ≠ "exclude") :
    r.after.text? field = r.before.text? field := by
  rw [Item.text?, Item.text?, r.same field h]

/-- A fault is reported alike: the label of an item does not show its mark. -/
theorem fault_eq (field : String) (fault : FieldFault) :
    r.after.fault field fault = r.before.fault field fault := by
  rw [Item.fault, Item.fault, Item.label, Item.label, Item.id?, Item.id?, r.same "id" (by decide)]

/-- A mark does not change any other value. -/
theorem requireValue_eq {field : String} (h : field ≠ "exclude") :
    r.after.requireValue field = r.before.requireValue field := by
  rw [Item.requireValue, Item.requireValue, r.same field h, fault_eq]

/-- A mark does not change any other required text. -/
theorem requireText_eq {field : String} (h : field ≠ "exclude") :
    r.after.requireText field = r.before.requireText field := by
  rw [Item.requireText, Item.requireText, r.same field h, fault_eq, fault_eq]

/-- A mark does not change the identifier. -/
theorem requireId_eq : r.after.requireId = r.before.requireId := r.requireValue_eq (by decide)

section

variable {σ : Type} [RandomSource σ] (corpus : NameCorpus)

/-- A mark does not change what is made of another field. -/
theorem process_eq {field : String} (h : field ≠ "exclude") :
    (Rendering.process corpus r.after field : Rendering σ String) =
      Rendering.process corpus r.before field := by
  rw [Rendering.process, Rendering.process, r.requireText_eq h]

/-- A balanced filler is presented alike, marked or not. -/
theorem presentBalanced_eq (text : String) (format : BalancedFormat) :
    (Fillers.presentBalanced corpus r.after text format : Rendering σ Presentation) =
      Fillers.presentBalanced corpus r.before text format := by
  cases format <;>
    simp [Fillers.presentBalanced, r.process_eq corpus, r.requireText_eq]

/-- A completion is presented alike, marked or not. -/
theorem presentCompletion_eq (lead good bad : String) (join : CompletionJoin) :
    (Fillers.presentCompletion corpus r.after lead good bad join : Rendering σ Presentation) =
      Fillers.presentCompletion corpus r.before lead good bad join := by
  cases join <;> simp [Fillers.presentCompletion, r.process_eq corpus]

/-- A balanced filler is built alike, marked or not. -/
theorem buildBalanced_eq (format : BalancedFormat) (rating materialsId : String) :
    (Fillers.buildBalanced corpus format r.after rating materialsId : Rendering σ Trial) =
      Fillers.buildBalanced corpus format r.before rating materialsId := by
  simp [Fillers.buildBalanced, r.process_eq corpus, r.presentBalanced_eq, r.requireId_eq]

/-- A completion is built alike, marked or not. -/
theorem buildCompletion_eq (join : CompletionJoin) (materialsId : String) :
    (Fillers.buildCompletion corpus join r.after materialsId : Rendering σ Trial) =
      Fillers.buildCompletion corpus join r.before materialsId := by
  simp [Fillers.buildCompletion, r.process_eq corpus, r.presentCompletion_eq, r.requireId_eq,
    r.requireValue_eq]

/-- A pair of options is built alike, marked or not. -/
theorem buildOptions_eq (materialsId : String) :
    (Fillers.buildOptions corpus r.after materialsId : Rendering σ Trial) =
      Fillers.buildOptions corpus r.before materialsId := by
  simp [Fillers.buildOptions, r.process_eq corpus, r.requireId_eq, r.requireValue_eq]

end
end Remark

/-! ## Fillers -/

namespace Fillers

variable {σ : Type} [RandomSource σ]

/-- A rating class has the same rows whatever their marks. -/
theorem rated_map_after (remarks : List Remark) (rating : String) :
    ∃ ofClass : List Remark, rated (remarks.map Remark.after) rating = ofClass.map Remark.after ∧
      rated (remarks.map Remark.before) rating = ofClass.map Remark.before := by
  refine ⟨remarks.filter fun r => r.before.text? "rating" = some rating, ?_, ?_⟩
  · rw [rated, List.filter_map]
    congr 1
    refine List.filter_congr fun r _ => ?_
    rw [Function.comp_apply, r.text?_eq (by decide)]
  · rw [rated, List.filter_map]
    rfl

/-- **Marks make no difference to fillers:** the same are drawn and rendered. -/
theorem build_remarked (kind : Fillers) (corpus : NameCorpus) (name : String)
    (remarks : List Remark) (count : Nat) :
    (kind.build corpus ⟨name, remarks.map Remark.after⟩ count : Drawing σ (List Trial)) =
      kind.build corpus ⟨name, remarks.map Remark.before⟩ count := by
  cases kind with
  | balanced first second format =>
    obtain ⟨ofFirst, hfirst, hfirst'⟩ := rated_map_after remarks first
    obtain ⟨ofSecond, hsecond, hsecond'⟩ := rated_map_after remarks second
    simp only [build, sampleRated, hfirst, hfirst', hsecond, hsecond', sampleItems_map,
      bind_map_left, bind_assoc, pure_bind, List.map_map, List.mapM_append, List.mapM_map,
      Function.comp_def, Remark.buildBalanced_eq]
  | completion join =>
    simp only [build, sampleItems_map, bind_map_left, List.mapM_map, Function.comp_def,
      Remark.buildCompletion_eq]
  | options =>
    simp only [build, sampleItems_map, bind_map_left, List.mapM_map, Function.comp_def,
      Remark.buildOptions_eq]

end Fillers

/-! ## Sessions -/

/-- A usable item is not marked. -/
theorem Item.isExcluded_of_isUsable {item : Item} {required flags : List String}
    (h : item.isUsable required flags = true) : item.isExcluded = false := by
  simp only [isUsable, Bool.and_eq_true, Bool.not_eq_true'] at h
  exact h.1.1

/-- No item that an experiment draws from is marked. -/
theorem TrialKind.isExcluded_of_mem_usable {kind : TrialKind} {set : MaterialsSet} {item : Item}
    (h : item ∈ kind.usable set) : item.isExcluded = false :=
  Item.isExcluded_of_isUsable (List.mem_filter.1 h).2

/-- **Who takes notice of marks for exclusion.**  The trials of a session are a
permutation of experimental trials, for none of which a marked item was drawn, and of
fillers.  No marked item was drawn for these either if none is marked that they are drawn
from; but whatever is marked, and whatever is not, in the set of the fillers, the same
session comes of the same stream. -/
theorem Experiment.exclusion_of_assemble {σ : Type} [RandomSource σ] {corpus : NameCorpus}
    {e : Experiment} {materials : MaterialsBundle} {materialsId : String} {source source' : σ}
    {session : TrialSet}
    (h : Yields (e.assemble corpus materials materialsId) source session source') :
    ∃ (experimental fillers : List Trial) (middle last : σ) (items : List Item)
        (conditions : List Condition) (fillerItems : List Item),
      session.trials.Perm (experimental ++ fillers) ∧
      e.Paired corpus materials.experimental source items conditions experimental middle ∧
      e.fillers.Rendered corpus materials.fillers e.fillerTrials fillerItems fillers last ∧
      (∀ item ∈ items, item.isExcluded = false) ∧
      ((∀ item ∈ materials.fillers.items, e.fillers.Eligible item → item.isExcluded = false) →
        ∀ item ∈ fillerItems, item.isExcluded = false) ∧
      ∀ remarks : List Remark, remarks.map Remark.before = materials.fillers.items →
        Yields (e.assemble corpus
            ⟨materials.experimental, materials.fillers.name, remarks.map Remark.after⟩ materialsId)
          source session source' := by
  obtain ⟨experimental, fillers, shuffled, middle, last, hexperimental, hfillers, hshuffled, rfl⟩ :=
    yields_assemble_iff.1 h
  obtain ⟨items, conditions, hpaired⟩ := paired_of_yields hexperimental
  obtain ⟨fillerItems, hrendered⟩ := Fillers.rendered_of_yields hfillers
  have hperm := Random.always_shuffle (experimental ++ fillers) last
  rw [hshuffled] at hperm
  obtain ⟨positions, -, hpicks⟩ := hpaired.positions
  obtain ⟨fillerPositions, -, hfillerPicks⟩ := hrendered.positions
  refine ⟨experimental, fillers, middle, last, items, conditions, fillerItems,
    (leadFirst_perm _ _).trans hperm, hpaired, hrendered, fun item hitem => ?_,
    fun hnone item hitem => ?_, fun remarks hremarks => ?_⟩
  · exact TrialKind.isExcluded_of_mem_usable (hpicks.subset hitem)
  · exact hnone item (hfillerPicks.subset hitem) (hrendered.eligible item hitem)
  · refine yields_assemble_iff.2 ⟨experimental, fillers, shuffled, middle, last, hexperimental,
      ?_, hshuffled, rfl⟩
    rw [Fillers.build_remarked, hremarks]
    exact hfillers

/-- Both fillers are marked, and both are shown: no usable item was drawn for them. -/
theorem Experiment.exclusion_of_assemble_paintAndCats :
    ∃ (session : TrialSet) (source : Random.Script) (items : List Item),
      Yields (Experiment.oneSlider.assemble .tomAndAnn ⟨MaterialsBundle.paintAndCats.experimental,
        "cats", MaterialsBundle.paintAndCats.fillers.items.map fun item =>
          item.set "exclude" (.bool true)⟩ "paint,cats") ⟨[1, 1, 1]⟩ session source ∧
      session.trials.map (·.presentation.sentence) =
        [some "Ann sprayed water on the lawn.", some "Cats sleep.", some "Tom sleeps."] ∧
      items.length = 1 ∧ ∀ item ∈ items, item.isExcluded = false := by
  obtain ⟨session, source, hyields, hsentences⟩ := exists_yields Experiment.run_oneSlider
  obtain ⟨_, _, _, _, items, _, _, -, hpaired, -, hitems, -, hmarks⟩ :=
    Experiment.exclusion_of_assemble hyields
  have hmarked := hmarks (MaterialsBundle.paintAndCats.fillers.items.map Remark.mark) (by
    rw [List.map_map]
    exact List.map_id _)
  rw [List.map_map] at hmarked
  exact ⟨session, source, items, hmarked, hsentences, hpaired.length_items, hitems⟩

/-- Two fillers to choose from, the second one marked for exclusion. -/
def MaterialsBundle.catsAndDogs : MaterialsBundle where
  experimental := ⟨"paint", []⟩
  fillers := ⟨"cats", [agreement 1 "cats sleep" "cats sleeps", withdrawn]⟩
where
  /-- A sentence whose verb agrees, and one whose verb does not. -/
  agreement (id : Int64) (good bad : String) : Item := ⟨.ofList
    [("id", .int id), ("good_sentence", .text good), ("bad_sentence", .text bad),
      ("manipulation", .text "agreement"), ("bad_ungrammatical", .bool true)]⟩
  /-- The filler that is marked. -/
  withdrawn : Item := (agreement 2 "dogs bark" "dogs barks").set "exclude" (.bool true)
  /-- What is shown of it. -/
  trial : Trial := {
    materialsId := some "cats"
    itemId := .int 2
    conditionId := .filler [.text "agreement", .bool true]
    lexicon := none
    presentation := { options := some (.goodBad ⟨"Dogs bark.", "Dogs barks."⟩) } }

/-- A filler and nothing else. -/
def Experiment.oneChoice : Experiment :=
  { Design.sprayLoadWeight with totalTrials := 1, experimentalTrials := 0, name := "one_choice" }

/-- **A marked item is shown:** the only trial of a session is rendered from it. -/
theorem Experiment.marked_filler_is_shown : ∃ (session : TrialSet) (trial : Trial),
    Yields (Experiment.oneChoice.assemble .tomAndAnn .catsAndDogs "paint,cats") ⟨[1]⟩ session
      (⟨[]⟩ : Random.Script) ∧
    session.trials = [trial] ∧
    MaterialsBundle.catsAndDogs.withdrawn ∈ MaterialsBundle.catsAndDogs.fillers.items ∧
    MaterialsBundle.catsAndDogs.withdrawn.isExcluded = true ∧
    Yields (Recipe.options.build .tomAndAnn MaterialsBundle.catsAndDogs.withdrawn "cats").fresh
      ⟨[]⟩ trial (⟨[]⟩ : Random.Script) ∧
    trial.sentenceTexts = ["Dogs bark.", "Dogs barks."] := by
  have hsession : (Experiment.oneChoice.assemble .tomAndAnn .catsAndDogs "paint,cats").run.run
      (⟨[1]⟩ : Random.Script) =
        (.ok ⟨"one_choice", "paint,cats", [MaterialsBundle.catsAndDogs.trial]⟩, ⟨[]⟩) := by
    with_unfolding_all rfl
  have htrial : (Recipe.options.build .tomAndAnn MaterialsBundle.catsAndDogs.withdrawn
      "cats").fresh.run.run (⟨[]⟩ : Random.Script) =
        (.ok MaterialsBundle.catsAndDogs.trial, ⟨[]⟩) := by
    with_unfolding_all rfl
  have hmarked : MaterialsBundle.catsAndDogs.withdrawn.isExcluded = true := by decide +kernel
  exact ⟨_, _, hsession, rfl, List.mem_cons_of_mem _ (List.mem_singleton_self _), hmarked, htrial,
    rfl⟩

end Alternation
