/-
# The JSON of a built trial loses nothing

`SPEC_FULL` §3 and §10.4: what `build_trial` and `build_fillers` make can be read off
its JSON.

Every trial that is rendered is flat: a filler has no lexical slots, what is shown of an
experimental trial has no conjunction, and only the spray-load alternation shows sentences
for each key.  Its values are those of its item, apart from the rating of a balanced filler
(`Recipe.lossless_of_yields`).  So its object has no name twice, tells whether the trial is a
filler, and tells the trial (`Recipe.toJson_loses_nothing`).
-/

import Alternation.Proofs.Render.Resolve
import Alternation.Proofs.Trial.Json

namespace Alternation

namespace Recipe

/-- The trial can be told from its JSON, if all floats of its item are finite. -/
structure Lossless (item : Item) (trial : Trial) : Prop where
  flat : trial.Flat
  isFinite : item.IsFinite → trial.IsFinite

section

variable {σ : Type} [RandomSource σ] {corpus : NameCorpus} {item : Item} {materialsId : String}
  {trial : Trial} {s s' : Scene σ}

/-- A value of a finite item is finite. -/
theorem isFinite_of_requireValue {field : String} {v : Value} (hitem : item.IsFinite)
    (h : item.requireValue field = .ok v) : v.IsFinite := by
  unfold Item.requireValue at h
  split at h
  · rename_i hget
    exact hitem field v (by rw [hget, Except.ok.inj h])
  · exact nomatch h

/-! ## Experimental trials -/

/-- A trial of the swarm alternation loses nothing. -/
theorem lossless_of_swarm {frame : Swarm.Frame} {task : Swarm.Task} {condition : Condition}
    (h : Yields (Swarm.build corpus frame task item condition materialsId) s trial s') :
    Lossless item trial := by
  obtain ⟨lexicon, presentation, itemId, -, hpresent, hid, rfl⟩ := Swarm.yields_build_iff.1 h
  obtain ⟨lead, critical, -, -, rfl⟩ := Swarm.present_eq_ok_iff.1 hpresent
  refine ⟨⟨fun _ => ?_, fun sentences hsentences => ?_⟩,
    fun hitem => ⟨isFinite_of_requireValue hitem hid, nofun⟩⟩
  · cases task <;> rfl
  · cases task <;> cases hsentences <;> trivial

/-- All sentences have the keys of the alternation. -/
theorem keyed_allSentences (lexicon : SprayLoadLexicon) :
    (Sentences.byCondition (SprayLoad.allSentences lexicon)).Keyed := rfl

/-- A trial of the spray-load alternation loses nothing. -/
theorem lossless_of_sprayLoad {task : SprayLoad.Task} {condition : Condition}
    (h : Yields (SprayLoad.build corpus task item condition materialsId) s trial s') :
    Lossless item trial := by
  obtain ⟨lexicon, presentation, itemId, -, hpresent, hid, rfl⟩ := SprayLoad.yields_build_iff.1 h
  have hkeyed := keyed_allSentences lexicon
  refine ⟨?_, fun hitem => ⟨isFinite_of_requireValue hitem hid, nofun⟩⟩
  cases task with
  | constructionMeaning images =>
    obtain ⟨choice, labels, -, -, rfl⟩ := SprayLoad.present_rating_iff.1 hpresent
    exact ⟨fun _ => rfl, fun _ hsentences => Option.some.inj hsentences ▸ hkeyed⟩
  | weight =>
    obtain ⟨locationHeavy, themeHeavy, -, -, rfl⟩ := SprayLoad.present_weight_iff.1 hpresent
    exact ⟨fun _ => rfl, fun _ hsentences => Option.some.inj hsentences ▸ hkeyed⟩

/-! ## Fillers -/

/-- No balanced filler shows sentences under keys of its own. -/
theorem keyed_of_presentBalanced {format : BalancedFormat} {text : String}
    {presentation : Presentation}
    (h : Yields (Fillers.presentBalanced corpus item text format) s presentation s') :
    ∀ sentences ∈ presentation.sentences, sentences.Keyed := by
  cases format with
  | prompted =>
    simp only [Fillers.presentBalanced, yields_bind_iff, yields_pure_iff] at h
    obtain ⟨prompt, _, -, rfl, -⟩ := h
    exact nofun
  | promptedSequence =>
    simp only [Fillers.presentBalanced, yields_bind_iff, yields_pure_iff] at h
    obtain ⟨prompt, _, -, rfl, -⟩ := h
    rintro _ ⟨⟩
    trivial
  | acceptability =>
    obtain ⟨rfl, -⟩ := yields_pure_iff.1 h
    exact nofun
  | slider =>
    simp only [Fillers.presentBalanced, yields_bind_iff, yields_pure_iff] at h
    obtain ⟨greatest, _, -, scaleType, _, -, prompt, _, -, rfl, -⟩ := h
    exact nofun

/-- A balanced filler loses nothing. -/
theorem lossless_of_balanced {format : BalancedFormat} {rating : String}
    (h : Yields (Fillers.buildBalanced corpus format item rating materialsId) s trial s') :
    Lossless item trial := by
  simp only [Fillers.buildBalanced, yields_bind_iff, yields_pure_iff, yields_check_iff] at h
  obtain ⟨text, _, -, presentation, _, hpresent, itemId, _, ⟨hid, -⟩, rfl, -⟩ := h
  refine ⟨.of_filler rfl (keyed_of_presentBalanced hpresent),
    fun hitem => ⟨isFinite_of_requireValue hitem hid, ?_⟩⟩
  rintro classes ⟨⟩
  exact List.forall_mem_singleton.2 trivial

/-- No completion shows sentences under keys of its own. -/
theorem keyed_of_presentCompletion {join : CompletionJoin} {lead good bad : String}
    {presentation : Presentation}
    (h : Yields (Fillers.presentCompletion corpus item lead good bad join) s presentation s') :
    ∀ sentences ∈ presentation.sentences, sentences.Keyed := by
  cases join with
  | conjoined =>
    simp only [Fillers.presentCompletion, yields_bind_iff, yields_pure_iff] at h
    obtain ⟨conj, _, -, rfl, -⟩ := h
    rintro _ ⟨⟩
    trivial
  | sentences =>
    obtain ⟨rfl, -⟩ := yields_pure_iff.1 h
    rintro _ ⟨⟩
    trivial

/-- A completion loses nothing. -/
theorem lossless_of_completion {join : CompletionJoin}
    (h : Yields (Fillers.buildCompletion corpus join item materialsId) s trial s') :
    Lossless item trial := by
  simp only [Fillers.buildCompletion, yields_bind_iff, yields_pure_iff, yields_check_iff] at h
  obtain ⟨lead, _, -, good, _, -, bad, _, -, presentation, _, hpresent, itemId, _, ⟨hid, -⟩,
    manipulation, _, ⟨hmanipulation, -⟩, rfl, -⟩ := h
  refine ⟨.of_filler rfl (keyed_of_presentCompletion hpresent),
    fun hitem => ⟨isFinite_of_requireValue hitem hid, ?_⟩⟩
  rintro classes ⟨⟩
  exact List.forall_mem_singleton.2 (isFinite_of_requireValue hitem hmanipulation)

/-- A pair of options loses nothing. -/
theorem lossless_of_options
    (h : Yields (Fillers.buildOptions corpus item materialsId) s trial s') :
    Lossless item trial := by
  simp only [Fillers.buildOptions, yields_bind_iff, yields_pure_iff, yields_check_iff] at h
  obtain ⟨good, _, -, bad, _, -, itemId, _, ⟨hid, -⟩, manipulation, _, ⟨hmanipulation, -⟩,
    ungrammatical, _, ⟨hungrammatical, -⟩, rfl, -⟩ := h
  refine ⟨.of_filler rfl fun _ hmem => absurd hmem (Option.not_mem_none _),
    fun hitem => ⟨isFinite_of_requireValue hitem hid, ?_⟩⟩
  rintro classes ⟨⟩
  exact List.forall_mem_cons.2 ⟨isFinite_of_requireValue hitem hmanipulation,
    List.forall_mem_singleton.2 (isFinite_of_requireValue hitem hungrammatical)⟩

/-- **Every trial that is rendered** can be told from its JSON. -/
theorem lossless_of_yields {recipe : Recipe}
    (h : Yields (recipe.build corpus item materialsId) s trial s') : Lossless item trial := by
  cases recipe with
  | experimental kind condition =>
    cases kind with
    | swarm frame task space => exact lossless_of_swarm h
    | sprayLoad task space => exact lossless_of_sprayLoad h
  | balanced format rating => exact lossless_of_balanced h
  | completion join => exact lossless_of_completion h
  | options => exact lossless_of_options h

end

/-- **The JSON of a built trial loses nothing.**  Whatever a trial is rendered from, its
object has no name twice, and its `condition_id` starts with the text `filler` just if the
trial is a filler.  Two trials of which the same text is written are one, and so are two
in whose objects the same is found under each name.

Texts tell floats only if these are finite.  Those of materials that are read are. -/
theorem toJson_loses_nothing {σ σ' : Type} [RandomSource σ] [RandomSource σ']
    {corpus corpus' : NameCorpus} {recipe recipe' : Recipe} {item item' : Item}
    {materialsId materialsId' : String} {trial trial' : Trial} {s₁ s₂ : Scene σ}
    {s₁' s₂' : Scene σ'} (hitem : item.IsFinite) (hitem' : item'.IsFinite)
    (h : Yields (recipe.build corpus item materialsId) s₁ trial s₂)
    (h' : Yields (recipe'.build corpus' item' materialsId') s₁' trial' s₂') :
    (trial.members.map Prod.fst).Nodup ∧
    (trial.isFiller = true ↔
      ∃ rest, trial.toJson.get? "condition_id" = some (.arr (.str "filler" :: rest))) ∧
    (trial.toJson.compact = trial'.toJson.compact → trial = trial') ∧
    ((∀ key, trial.toJson.get? key = trial'.toJson.get? key) → trial = trial') ∧
    ∀ (text : String) (set : MaterialsSet), MaterialsSet.parse? text = some set →
      ∀ read ∈ set.items, read.IsFinite := by
  have hlossless := lossless_of_yields h
  have hlossless' := lossless_of_yields h'
  exact ⟨hlossless.flat.nodup_members, hlossless.flat.isFiller_iff,
    hlossless.flat.eq_of_compact hlossless'.flat (hlossless.isFinite hitem)
      (hlossless'.isFinite hitem'),
    hlossless.flat.eq_of_lookup hlossless'.flat,
    fun _ _ hread => MaterialsSet.isFinite_of_parse hread⟩

/-- A completion with a conjunction. -/
def rain (id : Value) : Item where
  fields := .ofList
    [("id", id), ("prefix", .text "it rains"), ("good_completion", .text "they stay"),
      ("bad_completion", .text "they stays"), ("conj", .text "so"),
      ("manipulation", .text "agreement")]

/-- The completion is built, whatever value its identifier has. -/
theorem yields_rain (id : Value) : ∃ (trial : Trial) (scene : Scene Random.Script),
    Yields ((completion .conjoined).build .tomAndAnn (rain id) "weather") ⟨.empty, ⟨[]⟩⟩ trial
      scene ∧
    trial.isFiller = true ∧ trial.itemId = id ∧ trial.members.map Prod.fst =
      ["materials_id", "item_id", "condition_id", "sentences", "conjunction"] := by
  have hrun : (((completion .conjoined).build .tomAndAnn (rain id) "weather").run.run
      (⟨.empty, ⟨[]⟩⟩ : Scene Random.Script)).1.map
        (fun trial => (trial.isFiller, trial.itemId, trial.members.map Prod.fst)) = .ok (true, id,
          ["materials_id", "item_id", "condition_id", "sentences", "conjunction"]) := by
    with_unfolding_all rfl
  obtain ⟨trial, scene, hyields, hvalue⟩ := exists_yields hrun
  obtain ⟨hfiller, hvalue⟩ := Prod.mk.inj hvalue
  obtain ⟨hid, hkeys⟩ := Prod.mk.inj hvalue
  exact ⟨trial, scene, hyields, hfiller, hid, hkeys⟩

/-- Two completions of which one has a whole number for its identifier, and the other the
float of the same value, are not written alike. -/
theorem toJson_loses_nothing_of_rain :
    ∃ (trial trial' : Trial) (scene scene' : Scene Random.Script),
      Yields ((completion .conjoined).build .tomAndAnn (rain (.int 2)) "weather") ⟨.empty, ⟨[]⟩⟩
        trial scene ∧
      Yields ((completion .conjoined).build .tomAndAnn (rain (.float 2)) "weather")
        ⟨.empty, ⟨[]⟩⟩ trial' scene' ∧
      (trial.members.map Prod.fst).Nodup ∧
      (∃ rest, trial.toJson.get? "condition_id" = some (.arr (.str "filler" :: rest))) ∧
      trial.toJson.compact ≠ trial'.toJson.compact ∧
      ∃ key, trial.toJson.get? key ≠ trial'.toJson.get? key := by
  have hwhole : (rain (.int 2)).IsFinite := Item.isFinite_ofList (by decide)
  have hfloat : (rain (.float 2)).IsFinite := Item.isFinite_ofList (by decide)
  obtain ⟨trial, scene, hyields, hfiller, hid, -⟩ := yields_rain (.int 2)
  obtain ⟨trial', scene', hyields', -, hid', -⟩ := yields_rain (.float 2)
  obtain ⟨hnodup, hcondition, htext, hmembers, -⟩ :=
    toJson_loses_nothing hwhole hfloat hyields hyields'
  have hne : trial ≠ trial' := by
    rintro rfl
    exact nomatch hid.symm.trans hid'
  exact ⟨trial, trial', scene, scene', hyields, hyields', hnodup, hcondition.1 hfiller,
    fun h => hne (htext h), not_forall.1 fun h => hne (hmembers h)⟩

end Recipe
end Alternation
