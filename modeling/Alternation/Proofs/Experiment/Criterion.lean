/-
# When a standard experiment succeeds

`SPEC_FULL` §4.4 and §7: which items that pass `filter_items` can be rendered, for every
experiment of `standard`.

Each standard experiment couples a frame or a task, lists of fields, and a space of
conditions.  They fit together: every condition of the space sets the slots that are read
(`Design.serves_of_standard`), and every usable item has the flags that are read.  So

* a usable item that meets the demand of a condition is rendered in it, unless the names
  are used up, and one that does not is never rendered, the error telling what is wrong
  with the item (`TrialKind.explained_of_usable`), and
* no error of a session ever says that a condition is wrong, or that there is none,
  whatever the materials (`Experiment.raises_assemble`).

Both are said of every standard experiment in `Experiment.criterion_of_standard`.
-/

import Alternation.Experiment.Registry
import Alternation.Proofs.Experiment.Casting
import Alternation.Proofs.Experiment.Demand
import Alternation.Proofs.Experiment.Draw
import Alternation.Proofs.Experiment.Session

namespace Alternation

/-! ## Usable items -/

/-- A usable item has the flags. -/
theorem Item.met_flags_of_isUsable {item : Item} {required flags : List String}
    (h : item.isUsable required flags = true) : Demand.Met { present := flags } item := by
  obtain ⟨-, hflags⟩ := Bool.and_eq_true_iff.1 h
  have hpresent := List.all_eq_true.1 hflags
  exact { Demand.met_empty item with present := hpresent }

/-- Usable items are usable. -/
theorem isUsable_of_mem_usableItems {items : List Item} {item : Item} {required flags : List String}
    (h : item ∈ usableItems items required flags) : item.isUsable required flags = true :=
  (List.mem_filter.1 h).2

/-- **How a usable item fares** in a condition. -/
theorem TrialKind.explained_of_usable {σ : Type} [RandomSource σ] {corpus : NameCorpus}
    {kind : TrialKind} {items : List Item} {item : Item}
    (hitem : item ∈ usableItems items kind.requiredFields kind.flagFields) (c : Condition)
    (materialsId : String) (source : σ) :
    Explained item (kind.Serves c) ((kind.demand c).Met item)
      ((kind.build corpus item c materialsId).fresh.run.run source).1 := by
  have hflags : Demand.Met { present := kind.flagFields } item :=
    Item.met_flags_of_isUsable (isUsable_of_mem_usableItems hitem)
  have hbuild : Hinges corpus item (kind.Serves c)
      ((({ present := kind.flagFields } : Demand) ++ kind.demand c).Met item)
      (kind.build corpus item c materialsId : Rendering σ Trial) :=
    (Recipe.experimental kind c).hinges_build materialsId
  exact (hbuild.explained_fresh source).congr
    (Demand.met_append_iff.trans (and_iff_right hflags))

/-! ## Sessions -/

/-- The error says that a condition is wrong, or that there is none to draw. -/
def RenderError.OfCondition : RenderError → Prop
  | conditionSlot _ _ => True
  | emptyConditionSpace => True
  | malformedField _ _ _ => False
  | insufficientMaterials _ _ _ => False
  | unknownSubtype _ _ => False
  | namesExhausted _ => False

/-- An error that blames the item does not blame a condition. -/
theorem RenderError.Blames.not_ofCondition {item : Item} {e : RenderError} (h : e.Blames item) :
    ¬ e.OfCondition := by
  cases e with
  | malformedField _ _ _ | unknownSubtype _ _ => exact id
  | insufficientMaterials _ _ _ | namesExhausted _ | conditionSlot _ _ | emptyConditionSpace =>
    exact h.elim

section

variable {σ : Type} {corpus : NameCorpus} {P : RenderError → Prop}

/-- The errors that rendering a trial can have. -/
theorem Hinges.raises_fresh {α : Type} {item : Item} {served met : Prop} {m : Rendering σ α}
    (hm : Hinges corpus item served met m) (hnames : P (.namesExhausted Bindings.maxDraws))
    (hitem : ∀ e : RenderError, e.Blames item → P e)
    (hslot : ¬ served → ∀ c index, P (.conditionSlot c index)) : Raises P m.fresh := by
  intro source e he
  have hend := hm.explained_fresh source
  rw [he] at hend
  cases hend with
  | names => exact hnames
  | item blames _ => exact hitem e blames
  | slot hnot => exact hslot hnot _ _

variable [RandomSource σ]

/-- Rendering a trial never fails for want of items. -/
theorem Recipe.raises_fresh (recipe : Recipe) (item : Item) (materialsId : String) :
    Raises (fun error => ∀ pool requested available,
        error ≠ .insufficientMaterials pool requested available)
      ((recipe.build corpus item materialsId).fresh : Drawing σ Trial) := by
  refine Hinges.raises_fresh (recipe.hinges_build materialsId) nofun ?_ fun _ _ _ => nofun
  rintro _ blames pool requested available rfl
  exact blames

/-- Drawing items fails only if there are too few. -/
theorem raises_sampleItems {α : Type} {items : List α} {n : Nat} {pool : String}
    (hshort : items.length < n → P (.insufficientMaterials pool n items.length)) :
    Raises P (sampleItems items n pool : Drawing σ (List α)) := by
  unfold sampleItems
  split
  · rename_i hlt
    exact raises_throw (hshort hlt)
  · exact (raises_lift _).bind fun _ _ _ _ => raises_pure _

/-- Drawing conditions fails only if there is none. -/
theorem raises_sampleConditions {space : List Condition} (hspace : space = [] → P .emptyConditionSpace)
    (n : Nat) : Raises P (sampleConditions space n : Drawing σ (List Condition)) := by
  unfold sampleConditions
  split
  · exact raises_lift _
  · rename_i hpos
    exact raises_throw (hspace (List.length_eq_zero_iff.1 (Nat.eq_zero_of_not_pos hpos)))

/-- An error of the experimental trials is one of drawing items or conditions, or one of
rendering a usable item in a condition of the space. -/
theorem Experiment.raises_renderExperimental {e : Experiment} {set : MaterialsSet}
    (hshort : (e.kind.usable set).length < e.experimentalTrials →
      P (.insufficientMaterials set.name e.experimentalTrials (e.kind.usable set).length))
    (hspace : e.kind.space = [] → P .emptyConditionSpace)
    (htrial : ∀ item ∈ e.kind.usable set, ∀ c ∈ e.kind.space,
      Raises P ((e.kind.build corpus item c set.name).fresh : Drawing σ Trial)) :
    Raises P (e.renderExperimental corpus set : Drawing σ (List Trial)) := by
  refine (raises_sampleItems hshort).bind fun _ items _ hitems =>
    (raises_sampleConditions hspace _).bind fun _ conditions _ hconditions =>
      raises_mapM fun p hp => ?_
  obtain ⟨-, positions, -, hpicks⟩ := picks_of_sampleItems hitems
  obtain ⟨hitem, hcondition⟩ := List.of_mem_zip hp
  exact htrial _ (hpicks.subset hitem) _ ((conditions_of_sample hconditions).2 hcondition)

/-- An error of the fillers never says that a condition is wrong: they have none. -/
theorem Fillers.raises_build (kind : Fillers) (set : MaterialsSet) (count : Nat) :
    Raises (¬ ·.OfCondition) (kind.build corpus set count : Drawing σ (List Trial)) := by
  have hfiller (recipe : Recipe) (hserves : recipe.Serves) (item : Item) :
      Raises (¬ ·.OfCondition)
        ((recipe.build corpus item set.name).fresh : Drawing σ Trial) :=
    (recipe.hinges_build set.name).raises_fresh id (fun _ h => h.not_ofCondition)
      fun h => absurd hserves h
  have hrated (rating : String) (n : Nat) :
      Raises (¬ ·.OfCondition) (sampleRated set rating n : Drawing σ (List (Item × String))) :=
    (raises_sampleItems fun _ => id).bind fun _ _ _ _ => raises_pure _
  cases kind with
  | balanced first second format =>
    exact (hrated first _).bind fun _ _ _ _ => (hrated second _).bind fun _ _ _ _ =>
      raises_mapM fun p _ => hfiller (.balanced format p.2) trivial p.1
  | completion join =>
    exact (raises_sampleItems fun _ => id).bind fun _ _ _ _ =>
      raises_mapM fun item _ => hfiller (.completion join) trivial item
  | options =>
    exact (raises_sampleItems fun _ => id).bind fun _ _ _ _ =>
      raises_mapM fun item _ => hfiller .options trivial item

/-- **A session never finds fault with a condition**, if every condition of the space
sets the slots that are read, and there is one. -/
theorem Experiment.raises_assemble {e : Experiment} (hspace : e.kind.space ≠ [])
    (hserves : ∀ c ∈ e.kind.space, e.kind.Serves c) (materials : MaterialsBundle)
    (materialsId : String) :
    Raises (¬ ·.OfCondition) (e.assemble corpus materials materialsId : Drawing σ TrialSet) := by
  have htrial : ∀ item ∈ e.kind.usable materials.experimental, ∀ c ∈ e.kind.space,
      Raises (¬ ·.OfCondition)
        ((e.kind.build corpus item c materials.experimental.name).fresh : Drawing σ Trial) :=
    fun item _ c hc => ((Recipe.experimental e.kind c).hinges_build _).raises_fresh id
      (fun _ h => h.not_ofCondition) fun h => absurd (hserves c hc) h
  exact (Experiment.raises_renderExperimental (fun _ => id) (fun h => absurd h hspace) htrial).bind
    fun _ _ _ _ => Raises.bind (Fillers.raises_build e.fillers materials.fillers e.fillerTrials)
      fun _ _ _ _ => (raises_lift _).bind fun _ _ _ _ => raises_pure _

end

/-! ## Standard experiments -/

/-- **The standard designs fit together:** every condition sets the slots that are read. -/
theorem Design.serves_of_standard : ∀ d ∈ Design.standard,
    d.2.kind.space ≠ [] ∧ ∀ c ∈ d.2.kind.space, d.2.kind.Serves c := by
  decide

/-- A registered standard experiment is of a standard design. -/
theorem Registry.exists_design_of_create? {name : String} {e : Experiment}
    (h : Registry.standard.create? name = some e) :
    ∃ design, (name, design) ∈ Design.standard ∧ e = design.named name := by
  obtain ⟨design, hget, rfl⟩ := Option.map_eq_some_iff.1 h
  have hentries : Registry.standard.designs.entries = Design.standard := by rfl
  obtain ⟨before, after, hsplit, -⟩ := List.lookup_eq_some_iff.1 hget
  refine ⟨design, ?_, rfl⟩
  rw [← hentries, hsplit]
  exact List.mem_append_right _ (List.mem_cons_self ..)

/-- **The criterion of success.**  In a standard experiment, whatever the corpus and the
random source, a usable item that meets the demand of a condition of the space is rendered
in it, unless the names are used up; a usable item that does not meet it is not rendered,
and the error says what is wrong with the item, or that the names are used up.  And
whatever the materials, no error of a session says that a condition is wrong or that there
is none. -/
theorem Experiment.criterion_of_standard {σ : Type} [RandomSource σ] {name : String}
    {e : Experiment} (he : Registry.standard.create? name = some e) (corpus : NameCorpus) :
    (∀ items, ∀ item ∈ usableItems items e.kind.requiredFields e.kind.flagFields,
      ∀ c ∈ e.kind.space, ∀ materialsId (source : σ),
        ((e.kind.demand c).Met item →
          (∃ trial, ((e.kind.build corpus item c materialsId).fresh.run.run source).1 =
            .ok trial) ∨
          ((e.kind.build corpus item c materialsId).fresh.run.run source).1 =
            .error (.namesExhausted Bindings.maxDraws)) ∧
        (¬ (e.kind.demand c).Met item →
          ∃ error, ((e.kind.build corpus item c materialsId).fresh.run.run source).1 =
            .error error ∧ (error.Blames item ∨ error = .namesExhausted Bindings.maxDraws))) ∧
    ∀ materials materialsId (source : σ) error,
      ((e.assemble corpus materials materialsId).run.run source).1 = .error error →
        error ≠ .emptyConditionSpace ∧ ∀ c index, error ≠ .conditionSlot c index := by
  obtain ⟨design, hdesign, rfl⟩ := Registry.exists_design_of_create? he
  obtain ⟨hspace, hserves⟩ := Design.serves_of_standard _ hdesign
  refine ⟨fun items item hitem c hc materialsId source => ?_,
    fun materials materialsId source error herror => ?_⟩
  · have hend : Explained item (design.kind.Serves c) ((design.kind.demand c).Met item)
        ((design.kind.build corpus item c materialsId).fresh.run.run source).1 :=
      TrialKind.explained_of_usable hitem c materialsId source
    exact ⟨hend.of_met (hserves c hc), hend.of_not_met (hserves c hc)⟩
  · have hnot : ¬ error.OfCondition :=
      raises_assemble hspace hserves materials materialsId source error herror
    constructor
    · rintro rfl
      exact hnot trivial
    · rintro c index rfl
      exact hnot trivial

/-- Bees whose verb asks for something that goes with nobody. -/
def Item.illegibleVerb : Item := Recipe.bees.set "V" (.text "%PERSON1_OBJ%")

/-- Bees are rendered with the clause that does not alternate; bees whose verb asks for
something that goes with nobody are not, and without any bees there is no session. -/
theorem Experiment.criterion_of_standard_of_bees :
    ((∃ trial, ((Design.swarmNonalternating.kind.build .tomAndAnn Recipe.bees (.ofDigits [1, 2])
        "bees").fresh.run.run (⟨[1, 0, 0, 0]⟩ : Random.Script)).1 = .ok trial) ∨
      ((Design.swarmNonalternating.kind.build .tomAndAnn Recipe.bees (.ofDigits [1, 2])
        "bees").fresh.run.run (⟨[1, 0, 0, 0]⟩ : Random.Script)).1 =
          .error (.namesExhausted Bindings.maxDraws)) ∧
    (∃ error, ((Design.swarmNonalternating.kind.build .tomAndAnn Item.illegibleVerb
        (.ofDigits [1, 2]) "bees").fresh.run.run (⟨[1, 0, 0, 0]⟩ : Random.Script)).1 =
          .error error ∧
      (error.Blames Item.illegibleVerb ∨ error = .namesExhausted Bindings.maxDraws)) ∧
    ∃ error, (((Design.swarmNonalternating.named
        "09_comprehension_swarm-full-nonalternating-control").assemble .tomAndAnn
          ⟨⟨"bees", []⟩, ⟨"cats", []⟩⟩ "bees,cats").run.run (⟨[]⟩ : Random.Script)).1 =
        .error error ∧ error ≠ .emptyConditionSpace ∧ ∀ c index, error ≠ .conditionSlot c index := by
  have he : Registry.standard.create? "09_comprehension_swarm-full-nonalternating-control" =
      some (Design.swarmNonalternating.named
        "09_comprehension_swarm-full-nonalternating-control") := by decide +kernel
  have hc : Condition.ofDigits [1, 2] ∈ Design.swarmNonalternating.kind.space := by decide
  have hitem : Recipe.bees ∈ usableItems [Recipe.bees]
      Design.swarmNonalternating.kind.requiredFields Design.swarmNonalternating.kind.flagFields :=
    List.mem_filter.2 ⟨List.mem_singleton.2 rfl, by decide +kernel⟩
  have hitem' : Item.illegibleVerb ∈ usableItems [Item.illegibleVerb]
      Design.swarmNonalternating.kind.requiredFields Design.swarmNonalternating.kind.flagFields :=
    List.mem_filter.2 ⟨List.mem_singleton.2 rfl, by decide +kernel⟩
  have hmet : decide ((Design.swarmNonalternating.kind.demand (.ofDigits [1, 2])).Met
      Recipe.bees) = true := by decide +kernel
  have hunmet : decide ((Design.swarmNonalternating.kind.demand (.ofDigits [1, 2])).Met
      Item.illegibleVerb) = false := by decide +kernel
  obtain ⟨hrendered, hsession⟩ :=
    Experiment.criterion_of_standard (σ := Random.Script) he .tomAndAnn
  refine ⟨(hrendered _ _ hitem _ hc "bees" _).1 (of_decide_eq_true hmet),
    (hrendered _ _ hitem' _ hc "bees" _).2 (of_decide_eq_false hunmet), ?_⟩
  have hfails : (((Design.swarmNonalternating.named
      "09_comprehension_swarm-full-nonalternating-control").assemble .tomAndAnn
        ⟨⟨"bees", []⟩, ⟨"cats", []⟩⟩ "bees,cats").run.run (⟨[]⟩ : Random.Script)).1 =
      .error (.insufficientMaterials "bees" 18 0) := rfl
  exact ⟨_, hfails, hsession _ _ _ _ hfails⟩

/-- Paint for the wall, on a scale that asks for something that goes with nobody. -/
def Item.illegibleScale : Item :=
  (MaterialsBundle.paintAndCats.sprayed 1 "paint" "wall").set "scale type" (.text "%PERSON1_OBJ%")

/-- A scale that is taken as it is written is no text to render: where there is no slider,
a scale that asks for something that goes with nobody does no harm. -/
theorem Experiment.rendered_of_illegible_scale :
    Registry.standard.create? "06_production_spray-load-weight" =
      some (Design.sprayLoadWeight.named "06_production_spray-load-weight") ∧
    Item.illegibleScale ∈ usableItems [Item.illegibleScale]
      Design.sprayLoadWeight.kind.requiredFields Design.sprayLoadWeight.kind.flagFields ∧
    ⟨[none, some 0, some 0]⟩ ∈ Design.sprayLoadWeight.kind.space ∧
    "scale type" ∈ (Design.sprayLoadWeight.kind.demand ⟨[none, some 0, some 0]⟩).written ∧
    Item.illegibleScale.text? "scale type" = some "%PERSON1_OBJ%" ∧
    .person ⟨"1", some "OBJ"⟩ ∈ Segment.parse "%PERSON1_OBJ%" ∧
    ¬ Placeholder.Known ⟨"1", some "OBJ"⟩ ∧
    ∃ (trial : Trial) (source : Random.Script),
      Yields (Design.sprayLoadWeight.kind.build .tomAndAnn Item.illegibleScale
        ⟨[none, some 0, some 0]⟩ "paint").fresh ⟨[]⟩ trial source := by
  have hitem : Item.illegibleScale ∈ usableItems [Item.illegibleScale]
      Design.sprayLoadWeight.kind.requiredFields Design.sprayLoadWeight.kind.flagFields :=
    List.mem_filter.2 ⟨List.mem_singleton.2 rfl, by decide +kernel⟩
  have hparse : Segment.parse "%PERSON1_OBJ%" = [.person ⟨"1", some "OBJ"⟩] := by decide +kernel
  have hrun : ((Design.sprayLoadWeight.kind.build .tomAndAnn Item.illegibleScale
      ⟨[none, some 0, some 0]⟩ "paint").fresh.run.run (⟨[]⟩ : Random.Script)).1.map
        Trial.isFiller = .ok false := by decide +kernel
  obtain ⟨trial, source, hyields, -⟩ := exists_yields hrun
  refine ⟨by decide +kernel, hitem, by decide, by decide, by decide +kernel, ?_, by decide, trial,
    source, hyields⟩
  rw [hparse]
  exact List.mem_singleton.2 rfl

end Alternation
