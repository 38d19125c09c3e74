/-
# Recipes

`SPEC_FULL` §3, *Trial*: the `item_id` and `condition_id` that every builder gives its
trials.

A `Recipe` is a way to render one trial from one item: an experimental trial of a
kind in a condition, or a filler.  Whatever the recipe, a trial that is rendered
carries the identifier of its item, it is a filler just if the recipe is one of a
filler, and an experimental trial carries its condition (`Recipe.labels_of_yields`).
-/

import Alternation.Proofs.Experiment.Presentation

namespace Alternation

/-- A way to render one trial. -/
inductive Recipe where
  | experimental (kind : TrialKind) (condition : Condition)
  | balanced (format : BalancedFormat) (rating : String)
  | completion (join : CompletionJoin)
  | options
deriving DecidableEq, Repr

namespace Recipe

/-- The recipe renders a filler. -/
def isFiller : Recipe → Bool
  | experimental _ _ => false
  | balanced _ _ => true
  | completion _ => true
  | options => true

section

variable {σ : Type} [RandomSource σ] (corpus : NameCorpus)

/-- Renders the trial of an item. -/
def build (recipe : Recipe) (item : Item) (materialsId : String) : Rendering σ Trial :=
  match recipe with
  | experimental kind condition => kind.build corpus item condition materialsId
  | balanced format rating => Fillers.buildBalanced corpus format item rating materialsId
  | completion join => Fillers.buildCompletion corpus join item materialsId
  | options => Fillers.buildOptions corpus item materialsId

end

/-- The trial names the item, and tells whether it is a filler. -/
structure Labels (recipe : Recipe) (item : Item) (trial : Trial) : Prop where
  itemId : item.id? = some trial.itemId
  isFiller : trial.isFiller = recipe.isFiller
  conditionId : ∀ kind condition, recipe = .experimental kind condition →
    trial.conditionId = .experimental condition

variable {σ : Type} [RandomSource σ] {corpus : NameCorpus} {item : Item} {materialsId : String}
  {trial : Trial} {s s' : Scene σ}

/-- A required identifier is the identifier of the item. -/
theorem id?_of_requireId {value : Value} (h : item.requireId = .ok value) :
    item.id? = some value := by
  unfold Item.requireId Item.requireValue at h
  split at h
  · rename_i hget
    rw [Item.id?, hget, Except.ok.inj h]
  · exact nomatch h

/-- A swarm trial is labelled by its item and condition. -/
theorem labels_of_swarm {frame : Swarm.Frame} {task : Swarm.Task} {space : List Condition}
    {condition : Condition}
    (h : Yields (Swarm.build corpus frame task item condition materialsId) s trial s') :
    Labels (.experimental (.swarm frame task space) condition) item trial := by
  obtain ⟨lexicon, presentation, itemId, -, -, hid, rfl⟩ := Swarm.yields_build_iff.1 h
  exact ⟨id?_of_requireId hid, rfl, fun _ _ he => by rw [(Recipe.experimental.inj he).2]⟩

/-- A spray-load trial is labelled by its item and condition. -/
theorem labels_of_sprayLoad {task : SprayLoad.Task} {space : List Condition}
    {condition : Condition}
    (h : Yields (SprayLoad.build corpus task item condition materialsId) s trial s') :
    Labels (.experimental (.sprayLoad task space) condition) item trial := by
  obtain ⟨lexicon, presentation, itemId, -, -, hid, rfl⟩ := SprayLoad.yields_build_iff.1 h
  exact ⟨id?_of_requireId hid, rfl, fun _ _ he => by rw [(Recipe.experimental.inj he).2]⟩

/-- A balanced filler is labelled by its item and class. -/
theorem labels_of_balanced {format : BalancedFormat} {rating : String}
    (h : Yields (Fillers.buildBalanced corpus format item rating materialsId) s trial s') :
    Labels (.balanced format rating) item trial := by
  simp only [Fillers.buildBalanced, yields_bind_iff, yields_pure_iff, yields_check_iff] at h
  obtain ⟨text, _, -, presentation, _, -, itemId, _, ⟨hid, -⟩, rfl, -⟩ := h
  exact ⟨id?_of_requireId hid, rfl, nofun⟩

/-- A completion is labelled by its item. -/
theorem labels_of_completion {join : CompletionJoin}
    (h : Yields (Fillers.buildCompletion corpus join item materialsId) s trial s') :
    Labels (.completion join) item trial := by
  simp only [Fillers.buildCompletion, yields_bind_iff, yields_pure_iff, yields_check_iff] at h
  obtain ⟨lead, _, -, good, _, -, bad, _, -, presentation, _, -, itemId, _, ⟨hid, -⟩,
    manipulation, _, -, rfl, -⟩ := h
  exact ⟨id?_of_requireId hid, rfl, nofun⟩

/-- A pair of options is labelled by its item. -/
theorem labels_of_options
    (h : Yields (Fillers.buildOptions corpus item materialsId) s trial s') :
    Labels .options item trial := by
  simp only [Fillers.buildOptions, yields_bind_iff, yields_pure_iff, yields_check_iff] at h
  obtain ⟨good, _, -, bad, _, -, itemId, _, ⟨hid, -⟩, manipulation, _, -, ungrammatical, _, -,
    rfl, -⟩ := h
  exact ⟨id?_of_requireId hid, rfl, nofun⟩

/-- **Every trial names its item and its condition.** -/
theorem labels_of_yields {recipe : Recipe}
    (h : Yields (recipe.build corpus item materialsId) s trial s') :
    recipe.Labels item trial := by
  cases recipe with
  | experimental kind condition =>
    cases kind with
    | swarm frame task space => exact labels_of_swarm h
    | sprayLoad task space => exact labels_of_sprayLoad h
  | balanced format rating => exact labels_of_balanced h
  | completion join => exact labels_of_completion h
  | options => exact labels_of_options h

/-- The same of a trial that is rendered afresh. -/
theorem labels_of_fresh {recipe : Recipe} {t t' : σ}
    (h : Yields (recipe.build corpus item materialsId).fresh t trial t') :
    recipe.Labels item trial := by
  obtain ⟨bindings, hbuild⟩ := yields_fresh_iff.1 h
  exact labels_of_yields hbuild

end Recipe
end Alternation
