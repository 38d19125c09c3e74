/-
# What a session consists of

`SPEC_FULL` §4.6, Trial Set Assembler: `build_experimental_trials`, `build_fillers`, and
`assemble_trial_set`, which shuffles once.

If the trials of a session are rendered, they are a permutation of experimental
trials and fillers (`Experiment.session_of_assemble`).

* `Experiment.Paired`: the experimental trials, one for each drawn item and the
  condition drawn with it.
* `Fillers.Rendered`: the fillers, drawn from the stream that the experimental trials
  leave.

Nothing is lost or doubled by drawing, since drawn items stand at different positions,
nor by shuffling and moving the lead trial, which permute (`leadFirst_perm`).
-/

import Alternation.Proofs.Experiment.Draw
import Alternation.Proofs.Experiment.Recipe
import Alternation.Proofs.Render.Resolve
import Mathlib.Data.List.Perm.Basic

namespace Alternation

section

variable {σ : Type} [RandomSource σ] {corpus : NameCorpus} {set : MaterialsSet} {s s' : σ}
  {trials : List Trial}

/-! ## Experimental trials -/

/-- Trials of drawn items in drawn conditions, from the first draw to the last. -/
structure Experiment.Paired (e : Experiment) (corpus : NameCorpus) (set : MaterialsSet) (s : σ)
    (items : List Item) (conditions : List Condition) (trials : List Trial) (s' : σ) : Prop where
  /-- The items are drawn, then the conditions, and then each trial is rendered. -/
  run : ∃ s₁ s₂,
    Yields (sampleItems (e.kind.usable set) e.experimentalTrials set.name) s items s₁ ∧
    Yields (sampleConditions e.kind.space items.length) s₁ conditions s₂ ∧
    YieldsEach (fun p => (e.kind.build corpus p.1 p.2 set.name).fresh) (items.zip conditions) s₂
      trials s'
  /-- The items stand at different positions of the usable ones. -/
  positions : ∃ positions : List Nat, positions.Nodup ∧ Picks (e.kind.usable set) positions items
  length_items : items.length = e.experimentalTrials
  length_conditions : conditions.length = e.experimentalTrials
  length_trials : trials.length = e.experimentalTrials
  conditions_subset : conditions ⊆ e.kind.space
  /-- Each trial names its item and its condition. -/
  labels : List.Forall₂
    (fun p trial => p.1.id? = some trial.itemId ∧ trial.conditionId = .experimental p.2)
    (items.zip conditions) trials
  isFiller : ∀ trial ∈ trials, trial.isFiller = false

/-- Experimental trials that are rendered pair drawn items with drawn conditions. -/
theorem Experiment.paired_of_yields {e : Experiment}
    (h : Yields (e.renderExperimental corpus set) s trials s') :
    ∃ items conditions, e.Paired corpus set s items conditions trials s' := by
  unfold Experiment.renderExperimental at h
  obtain ⟨items, s₁, hitems, h⟩ := yields_bind_iff.1 h
  obtain ⟨conditions, s₂, hconditions, h⟩ := yields_bind_iff.1 h
  have hrun := yields_mapM_iff.1 h
  obtain ⟨hlength, hpositions⟩ := picks_of_sampleItems hitems
  obtain ⟨hlength', hsubset⟩ := conditions_of_sample hconditions
  have hlabels : ∀ (p : Item × Condition) (t : σ) trial t',
      Yields (e.kind.build corpus p.1 p.2 set.name).fresh t trial t' →
        (Recipe.experimental e.kind p.2).Labels p.1 trial :=
    fun _ _ _ _ hp => Recipe.labels_of_fresh hp
  exact ⟨items, conditions, {
    run := ⟨s₁, s₂, hitems, hconditions, hrun⟩
    positions := hpositions
    length_items := hlength
    length_conditions := hlength'.trans hlength
    length_trials := by
      rw [hrun.length_eq, List.length_zip, hlength', Nat.min_self, hlength]
    conditions_subset := hsubset
    labels := hrun.forall₂ fun p t trial t' hp =>
      ⟨(hlabels p t trial t' hp).itemId, (hlabels p t trial t' hp).conditionId _ _ rfl⟩
    isFiller := hrun.forall_mem fun p t trial t' hp => (hlabels p t trial t' hp).isFiller }⟩

/-! ## Fillers -/

namespace Fillers

/-- The recipe of an item's filler; a balanced filler names its rating class. -/
def recipe (kind : Fillers) (item : Item) : Recipe :=
  match kind with
  | balanced _ _ format => .balanced format ((item.text? "rating").getD "")
  | completion join => .completion join
  | options => .options

/-- The item is one that fillers of the kind are drawn from. -/
def Eligible (kind : Fillers) (item : Item) : Prop :=
  match kind with
  | balanced first second _ =>
    item.text? "rating" = some first ∨ item.text? "rating" = some second
  | completion _ => True
  | options => True

/-- No item is in two of the classes that are drawn from. -/
def ClassesDiffer : Fillers → Prop
  | balanced first second _ => first ≠ second
  | completion _ => True
  | options => True

/-- The recipe of a filler is one. -/
theorem isFiller_recipe (kind : Fillers) (item : Item) : (kind.recipe item).isFiller = true := by
  cases kind <;> rfl

/-- Fillers of items that are drawn from a set. -/
structure Rendered (kind : Fillers) (corpus : NameCorpus) (set : MaterialsSet) (count : Nat)
    (items : List Item) (trials : List Trial) (s' : σ) : Prop where
  /-- Each filler is rendered from its item, from the stream that the one before left. -/
  run : ∃ s₁, YieldsEach (fun item => ((kind.recipe item).build corpus item set.name).fresh) items
    s₁ trials s'
  /-- The items stand at different positions of the set. -/
  positions : ∃ positions : List Nat, (kind.ClassesDiffer → positions.Nodup) ∧
    Picks set.items positions items
  eligible : ∀ item ∈ items, kind.Eligible item
  length_trials : trials.length = count
  isFiller : ∀ trial ∈ trials, trial.isFiller = true

/-- A run over drawn items renders fillers. -/
theorem rendered_of_yieldsEach {kind : Fillers} {items : List Item} {count : Nat}
    {positions : List Nat} {s₁ : σ}
    (hrun : YieldsEach (fun item => ((kind.recipe item).build corpus item set.name).fresh) items
      s₁ trials s')
    (hlength : items.length = count) (heligible : ∀ item ∈ items, kind.Eligible item)
    (hnodup : kind.ClassesDiffer → positions.Nodup) (hpicks : Picks set.items positions items) :
    kind.Rendered corpus set count items trials s' where
  run := ⟨s₁, hrun⟩
  positions := ⟨positions, hnodup, hpicks⟩
  eligible := heligible
  length_trials := hrun.length_eq.trans hlength
  isFiller := hrun.forall_mem fun item _ _ _ h =>
    (Recipe.labels_of_fresh h).isFiller.trans (isFiller_recipe kind item)

/-- The items of a class name it. -/
theorem rated_of_mem {items : List Item} {rating : String} {item : Item}
    (h : item ∈ rated items rating) : item.text? "rating" = some rating :=
  of_decide_eq_true (List.mem_filter.1 h).2

/-- Items drawn from a rating class, each with the class. -/
theorem picks_of_sampleRated {rating : String} {n : Nat} {drawn : List (Item × String)}
    (h : Yields (sampleRated set rating n) s drawn s') :
    ∃ items : List Item, drawn = items.map (fun item => (item, rating)) ∧ items.length = n ∧
      (∀ item ∈ items, item.text? "rating" = some rating) ∧
      ∃ positions : List Nat, positions.Nodup ∧ Picks set.items positions items := by
  unfold sampleRated at h
  obtain ⟨items, s₁, hitems, h⟩ := yields_bind_iff.1 h
  obtain ⟨hlength, positions, hnodup, hpicks⟩ := picks_of_sampleItems hitems
  obtain ⟨f, hpicks'⟩ := hpicks.of_sublist List.filter_sublist
  exact ⟨items, (yields_pure_iff.1 h).1, hlength, fun item hitem => rated_of_mem (hpicks.subset hitem),
    positions.map f, hnodup.map f.injective, hpicks'⟩

/-- Positions of items of different classes are different. -/
theorem nodup_append_of_rated {items : List Item} {first second : String}
    (hne : first ≠ second) {items₁ items₂ : List Item} {positions₁ positions₂ : List Nat}
    (hpicks₁ : Picks items positions₁ items₁) (hpicks₂ : Picks items positions₂ items₂)
    (hrated₁ : ∀ item ∈ items₁, item.text? "rating" = some first)
    (hrated₂ : ∀ item ∈ items₂, item.text? "rating" = some second)
    (hnodup₁ : positions₁.Nodup) (hnodup₂ : positions₂.Nodup) :
    (positions₁ ++ positions₂).Nodup := by
  refine List.nodup_append.2 ⟨hnodup₁, hnodup₂, ?_⟩
  rintro i hi _ hj rfl
  obtain ⟨item₁, hitem₁, hget₁⟩ := hpicks₁.exists_of_mem hi
  obtain ⟨item₂, hitem₂, hget₂⟩ := hpicks₂.exists_of_mem hj
  obtain rfl := Option.some.inj (hget₁.symm.trans hget₂)
  exact hne (Option.some.inj ((hrated₁ _ hitem₁).symm.trans (hrated₂ _ hitem₂)))

/-- An item of a rating class is rendered with its class. -/
theorem build_recipe_of_rated {first second rating : String} {format : BalancedFormat}
    {item : Item} {materialsId : String} (h : item.text? "rating" = some rating) :
    ((balanced first second format).recipe item).build corpus item materialsId =
      (buildBalanced corpus format item rating materialsId : Rendering σ Trial) := by
  rw [recipe, h]
  rfl

/-- Items drawn half from each of two rating classes, one class after the other. -/
structure Halves (first second : String) (set : MaterialsSet) (count : Nat)
    (items₁ items₂ : List Item) : Prop where
  length_first : items₁.length = count / 2
  length_second : items₂.length = count - count / 2
  rated_first : ∀ item ∈ items₁, item.text? "rating" = some first
  rated_second : ∀ item ∈ items₂, item.text? "rating" = some second
  /-- The items stand at different positions of the set. -/
  positions : ∃ positions : List Nat, (first ≠ second → positions.Nodup) ∧
    Picks set.items positions (items₁ ++ items₂)

/-- Balanced fillers are rendered from two halves, the first class first. -/
theorem halves_of_balanced {first second : String} {format : BalancedFormat} {count : Nat}
    (h : Yields ((balanced first second format).build corpus set count) s trials s') :
    ∃ items₁ items₂, Halves first second set count items₁ items₂ ∧ ∃ s₁,
      YieldsEach (fun item =>
        (((balanced first second format).recipe item).build corpus item set.name).fresh)
        (items₁ ++ items₂) s₁ trials s' := by
  unfold build at h
  obtain ⟨drawn₁, s₁, hdrawn₁, h⟩ := yields_bind_iff.1 h
  obtain ⟨drawn₂, s₂, hdrawn₂, h⟩ := yields_bind_iff.1 h
  obtain ⟨items₁, rfl, hlength₁, hrated₁, positions₁, hnodup₁, hpicks₁⟩ :=
    picks_of_sampleRated hdrawn₁
  obtain ⟨items₂, rfl, hlength₂, hrated₂, positions₂, hnodup₂, hpicks₂⟩ :=
    picks_of_sampleRated hdrawn₂
  have hitems : ((items₁.map fun item => (item, first)) ++
      items₂.map fun item => (item, second)).map Prod.fst = items₁ ++ items₂ := by
    simp [Function.comp_def]
  have hrun := (yields_mapM_iff.1 h).map
    (g := fun item =>
      (((balanced first second format).recipe item).build corpus item set.name).fresh)
    Prod.fst (by
      intro p hp
      rcases List.mem_append.1 hp with hp | hp
      · obtain ⟨item, hitem, rfl⟩ := List.mem_map.1 hp
        rw [build_recipe_of_rated (hrated₁ item hitem)]
      · obtain ⟨item, hitem, rfl⟩ := List.mem_map.1 hp
        rw [build_recipe_of_rated (hrated₂ item hitem)])
  rw [hitems] at hrun
  have hnodup (hne : first ≠ second) : (positions₁ ++ positions₂).Nodup :=
    nodup_append_of_rated hne hpicks₁ hpicks₂ hrated₁ hrated₂ hnodup₁ hnodup₂
  exact ⟨items₁, items₂, {
    length_first := hlength₁
    length_second := hlength₂
    rated_first := hrated₁
    rated_second := hrated₂
    positions := ⟨positions₁ ++ positions₂, hnodup, hpicks₁.append hpicks₂⟩ }, s₂, hrun⟩

/-- Both rating classes together make up the count. -/
theorem rendered_of_balanced {first second : String} {format : BalancedFormat} {count : Nat}
    (h : Yields ((balanced first second format).build corpus set count) s trials s') :
    ∃ items, (balanced first second format).Rendered corpus set count items trials s' := by
  obtain ⟨items₁, items₂, halves, s₁, hrun⟩ := halves_of_balanced h
  obtain ⟨positions, hnodup, hpicks⟩ := halves.positions
  refine ⟨items₁ ++ items₂, rendered_of_yieldsEach hrun ?_ ?_ hnodup hpicks⟩
  · rw [List.length_append, halves.length_first, halves.length_second]
    omega
  · intro item hitem
    exact (List.mem_append.1 hitem).imp (halves.rated_first item) (halves.rated_second item)

/-- **Fillers are rendered from different items,** as many as were asked for. -/
theorem rendered_of_yields {kind : Fillers} {count : Nat}
    (h : Yields (kind.build corpus set count) s trials s') :
    ∃ items, kind.Rendered corpus set count items trials s' := by
  cases kind with
  | balanced first second format => exact rendered_of_balanced h
  | completion join =>
    unfold build at h
    obtain ⟨items, s₁, hitems, h⟩ := yields_bind_iff.1 h
    obtain ⟨hlength, positions, hnodup, hpicks⟩ := picks_of_sampleItems hitems
    exact ⟨items, rendered_of_yieldsEach (yields_mapM_iff.1 h) hlength (fun _ _ => trivial)
      (fun _ => hnodup) hpicks⟩
  | options =>
    unfold build at h
    obtain ⟨items, s₁, hitems, h⟩ := yields_bind_iff.1 h
    obtain ⟨hlength, positions, hnodup, hpicks⟩ := picks_of_sampleItems hitems
    exact ⟨items, rendered_of_yieldsEach (yields_mapM_iff.1 h) hlength (fun _ _ => trivial)
      (fun _ => hnodup) hpicks⟩

end Fillers

end

/-! ## Trial sets -/

/-- Moving the lead to the front permutes. -/
theorem leadFirst_perm (measure : Option Measure) (trials : List Trial) :
    (leadFirst measure trials).Perm trials := by
  unfold leadFirst
  split
  · exact .refl _
  · split
    · rename_i i hfind
      obtain ⟨hi, -⟩ := List.findIdx?_eq_some_iff_getElem.1 hfind
      rw [List.getElem?_eq_getElem hi]
      exact List.getElem_cons_eraseIdx_perm hi
    · exact .refl _

/-- **A session** is a permutation of experimental trials, rendered from the stream,
and of fillers, rendered from the stream that those leave. -/
theorem Experiment.session_of_assemble {σ : Type} [RandomSource σ] {corpus : NameCorpus}
    {e : Experiment} {materials : MaterialsBundle} {materialsId : String} {source source' : σ}
    {session : TrialSet}
    (h : Yields (e.assemble corpus materials materialsId) source session source') :
    ∃ experimental fillers middle last items conditions fillerItems,
      Yields (e.renderExperimental corpus materials.experimental) source experimental middle ∧
      Yields (e.fillers.build corpus materials.fillers (e.totalTrials - e.experimentalTrials))
        middle fillers last ∧
      session.trials.Perm (experimental ++ fillers) ∧
      e.Paired corpus materials.experimental source items conditions experimental middle ∧
      e.fillers.Rendered corpus materials.fillers (e.totalTrials - e.experimentalTrials)
        fillerItems fillers last := by
  unfold Experiment.assemble at h
  obtain ⟨experimental, middle, hexperimental, h⟩ := yields_bind_iff.1 h
  obtain ⟨fillers, last, hfillers, h⟩ := yields_bind_iff.1 h
  obtain ⟨shuffled, s', hshuffled, h⟩ := yields_bind_iff.1 h
  obtain ⟨rfl, -⟩ := yields_pure_iff.1 h
  have hperm := Random.always_shuffle (experimental ++ fillers) last
  rw [yields_lift_iff.1 hshuffled] at hperm
  obtain ⟨items, conditions, hpaired⟩ := Experiment.paired_of_yields hexperimental
  obtain ⟨fillerItems, hrendered⟩ := Fillers.rendered_of_yields hfillers
  exact ⟨experimental, fillers, middle, last, items, conditions, fillerItems, hexperimental,
    hfillers, (leadFirst_perm _ _).trans hperm, hpaired, hrendered⟩

/-- Two items to spray, and a filler of each of two classes. -/
def MaterialsBundle.paintAndCats : MaterialsBundle where
  experimental := ⟨"paint", [sprayed 1 "paint" "wall", sprayed 2 "water" "lawn"]⟩
  fillers := ⟨"cats", [rated 3 "low" "cats sleep", rated 4 "high" "%PERSON1% sleeps"]⟩
where
  /-- Somebody sprays the theme on the location. -/
  sprayed (id : Int64) (theme location : String) : Item := ⟨.ofList <|
    [("id", .int id), ("T plural?", .null), ("L plural?", .null)] ++
    [("S", "%PERSON1%"), ("T", theme), ("T heavy", theme), ("V", "spray"), ("V pres", "sprays"),
      ("V past simp", "sprayed"), ("L", "the " ++ location), ("L heavy", "the " ++ location),
      ("P", "on"), ("scale type", "cover")].map fun e => (e.1, .text e.2)⟩
  /-- A sentence of a rating class. -/
  rated (id : Int64) (rating sentence : String) : Item :=
    ⟨.ofList [("id", .int id), ("rating", .text rating), ("sentence", .text sentence)]⟩

/-- One trial with a slider, which leads, and two fillers. -/
def Experiment.oneSlider : Experiment where
  name := "one_slider"
  totalTrials := 3
  experimentalTrials := 1
  kind := .sprayLoad (.constructionMeaning false) [.ofDigits [0, 0, 0], .ofDigits [1, 0, 0]]
  fillers := .balanced "low" "high" .acceptability
  leadMeasure := some .slider

/-- A sentence of a rating class is of the class it was made for. -/
theorem MaterialsBundle.paintAndCats.text?_rated (id : Int64) (rating sentence : String) :
    (rated id rating sentence).text? "rating" = some rating := rfl

/-- The second item is drawn, in the second condition, and both of the fillers. -/
theorem Experiment.run_oneSlider :
    ((Experiment.oneSlider.assemble .tomAndAnn .paintAndCats "paint,cats").run.run
      (⟨[1, 1, 1]⟩ : Random.Script)).1.map
        (fun session => session.trials.map (·.presentation.sentence)) = .ok
      [some "Ann sprayed water on the lawn.", some "Cats sleep.", some "Tom sleeps."] := by
  decide +kernel

/-- The session with a slider: its one experimental trial and its two fillers. -/
theorem Experiment.session_of_assemble_oneSlider :
    ∃ (session : TrialSet) (source : Random.Script) (experimental fillers : List Trial),
      Yields (Experiment.oneSlider.assemble .tomAndAnn .paintAndCats "paint,cats") ⟨[1, 1, 1]⟩
        session source ∧
      session.trials.map (·.presentation.sentence) =
        [some "Ann sprayed water on the lawn.", some "Cats sleep.", some "Tom sleeps."] ∧
      session.trials.Perm (experimental ++ fillers) ∧
      experimental.length = 1 ∧ fillers.length = 2 := by
  obtain ⟨session, source, hyields, hsentences⟩ := exists_yields Experiment.run_oneSlider
  obtain ⟨experimental, fillers, _, _, _, _, _, -, -, hperm, hpaired, hrendered⟩ :=
    Experiment.session_of_assemble hyields
  exact ⟨session, source, experimental, fillers, hyields, hsentences, hperm,
    hpaired.length_trials, hrendered.length_trials⟩

end Alternation
