/-
# Minimal pairs

`SPEC_FULL` §4.6, step 4: the sentences are selected by the fixed meanings of the slots,
and nothing else is.

Two conditions that agree in slot 0 are a minimal pair: from the same bindings and the
same random source, the lexical slots are read to the same end, whether that is a result
or a failure (`Swarm.endsAlike_readLexicon`), and two trials differ at most in the name
of their condition and in the critical sentence (`Swarm.MinimalPair`).  What a
manipulation leaves alone is thus not confounded with the names that are drawn.

In the spray-load alternation nothing that is read depends on the condition at all, so
any two conditions are a pair (`SprayLoad.MinimalPair`).
-/

import Alternation.Proofs.Experiment.Casting
import Alternation.Proofs.Experiment.Presentation
import Alternation.Proofs.Experiment.Session

namespace Alternation

/-! ## Computations that end alike -/

section

variable {ε σ α β : Type}

/-- From every state, both succeed with the same result or both fail, and they leave
the same state; the errors may differ. -/
def EndsAlike (m m' : ExceptT ε (StateM σ) α) : Prop :=
  ∀ s, (m.run.run s).1.toOption = (m'.run.run s).1.toOption ∧ (m.run.run s).2 = (m'.run.run s).2

/-- A computation ends as it does itself. -/
theorem EndsAlike.refl (m : ExceptT ε (StateM σ) α) : EndsAlike m m := fun _ => ⟨rfl, rfl⟩

/-- Parts that end alike make sequences that end alike. -/
theorem EndsAlike.bind {m m' : ExceptT ε (StateM σ) α} {f f' : α → ExceptT ε (StateM σ) β}
    (hm : EndsAlike m m') (hf : ∀ a, EndsAlike (f a) (f' a)) : EndsAlike (m >>= f) (m' >>= f') := by
  intro s
  have h := hm s
  rw [run_bind, run_bind]
  rcases hx : m.run.run s with ⟨e | a, t⟩ <;> rcases hx' : m'.run.run s with ⟨e' | a', t'⟩ <;>
    rw [hx, hx'] at h <;> obtain ⟨hresult, rfl⟩ := h
  · exact ⟨rfl, rfl⟩
  · exact nomatch hresult
  · exact nomatch hresult
  · obtain rfl : a = a' := Option.some.inj hresult
    exact hf a _

/-- Computations that end alike and succeed come to one result. -/
theorem EndsAlike.eq_of_yields {m m' : ExceptT ε (StateM σ) α} (h : EndsAlike m m') {s t t' : σ}
    {a a' : α} (hm : Yields m s a t) (hm' : Yields m' s a' t') : a' = a ∧ t' = t := by
  obtain ⟨hresult, hstate⟩ := h s
  rw [hm, hm'] at hresult hstate
  exact ⟨(Option.some.inj hresult).symm, hstate.symm⟩

/-- Checks with one result end alike. -/
theorem endsAlike_check {r r' : Except RenderError α} (h : r.toOption = r'.toOption) :
    EndsAlike (Rendering.check r : Rendering σ α) (Rendering.check r') :=
  fun _ => ⟨h, rfl⟩

end

namespace Condition

variable {c c' : Condition} {index : Nat}

/-- A flag is read from its slot alone. -/
theorem toOption_requireFlag (h : c.get? index = c'.get? index) :
    (c.requireFlag index).toOption = (c'.requireFlag index).toOption := by
  rw [requireFlag_eq, requireFlag_eq, h]
  split <;> rfl

/-- A flag is the same in conditions with the same slot. -/
theorem requireFlag_of_eq (h : c.get? index = c'.get? index) {flag : Bool}
    (hc : c.requireFlag index = .ok flag) : c'.requireFlag index = .ok flag := by
  have hoption := toOption_requireFlag h
  rw [hc] at hoption
  cases hc' : c'.requireFlag index with
  | ok flag' =>
    rw [hc'] at hoption
    rw [Option.some.inj hoption]
  | error e =>
    rw [hc'] at hoption
    exact nomatch hoption

end Condition

/-! ## The swarm alternation -/

namespace Swarm

section

variable {σ : Type} [RandomSource σ] {corpus : NameCorpus} {item : Item} {c c' : Condition}

/-- **Reading the slots** depends on slot 0 of the condition alone. -/
theorem endsAlike_readLexicon (h : c.get? 0 = c'.get? 0) (frame : Frame) :
    EndsAlike (readLexicon corpus item frame c : Rendering σ SwarmLexicon)
      (readLexicon corpus item frame c') := by
  refine (EndsAlike.refl _).bind fun slots => EndsAlike.bind ?_ fun clauses => EndsAlike.refl _
  cases frame with
  | topic => exact EndsAlike.refl _
  | given nonalternating =>
    exact (EndsAlike.refl _).bind fun pronouns => (EndsAlike.refl _).bind fun clauses =>
      (endsAlike_check (Condition.toOption_requireFlag h)).bind fun agentGiven => EndsAlike.refl _

/-- What leads is the same for conditions with the same slot 0. -/
theorem selectLead_of_eq (h : c.get? 0 = c'.get? 0) {lexicon : SwarmLexicon} {lead : String}
    (hlead : selectLead lexicon c = .ok lead) : selectLead lexicon c' = .ok lead := by
  obtain ⟨flag, hflag, hpick⟩ := ok_bind_iff.1 hlead
  exact ok_bind_iff.2 ⟨flag, Condition.requireFlag_of_eq h hflag, hpick⟩

end

/-- Trials that differ at most in their conditions and in the critical sentence that
slot 1 selects. -/
structure MinimalPair (task : Task) (c c' : Condition) (t t' : Trial) : Prop where
  materialsId : t'.materialsId = t.materialsId
  itemId : t'.itemId = t.itemId
  conditionId : t.conditionId = .experimental c ∧ t'.conditionId = .experimental c'
  lexicon : t'.lexicon = t.lexicon
  prompt : t'.presentation.prompt = t.presentation.prompt
  /-- Continuations are shown alike. -/
  continuations : task = .topicality ∨ task = .givenness → t'.presentation = t.presentation
  /-- The clause before the critical one is the same, and nothing but the critical clause
  makes a difference to what is shown. -/
  critical : ∃ lexicon lead critical critical', t.lexicon = some (.swarm lexicon) ∧
    (task.showsLead = true →
      selectLead lexicon c = .ok lead ∧ selectLead lexicon c' = .ok lead) ∧
    (task.showsCritical = true → selectCritical lexicon.critical c = .ok critical ∧
      selectCritical lexicon.critical c' = .ok critical') ∧
    t.presentation = shown task lexicon lead critical ∧
    t'.presentation = shown task lexicon lead critical'

/-- The prompt does not show the clauses. -/
theorem prompt_shown (task : Task) (lexicon : SwarmLexicon) (lead lead' critical critical' : String) :
    (shown task lexicon lead critical).prompt = (shown task lexicon lead' critical').prompt := by
  cases task <;> rfl

/-- Where both continuations are offered, the critical clause makes no difference to what is
shown. -/
theorem shown_of_continuation {task : Task} (h : task = .topicality ∨ task = .givenness)
    (lexicon : SwarmLexicon) (lead critical critical' : String) :
    shown task lexicon lead critical = shown task lexicon lead critical' := by
  rcases h with rfl | rfl <;> rfl

/-- A task that does not show the clause before the critical one shows the same whatever
that clause is. -/
theorem shown_of_not_showsLead {task : Task} (h : task.showsLead = false)
    (lexicon : SwarmLexicon) (lead lead' critical : String) :
    shown task lexicon lead critical = shown task lexicon lead' critical := by
  cases task with
  | constructionMeaning | acceptability => rfl
  | topicality | givenness | fullComprehension | prefixedAcceptability => exact nomatch h

/-- What is shown in two conditions that agree in slot 0. -/
theorem exists_shown_of_present {task : Task} {lexicon : SwarmLexicon} {c c' : Condition}
    (h : c.get? 0 = c'.get? 0) {p p' : Presentation} (hp : present task lexicon c = .ok p)
    (hp' : present task lexicon c' = .ok p') :
    ∃ lead critical critical',
      (task.showsLead = true →
        selectLead lexicon c = .ok lead ∧ selectLead lexicon c' = .ok lead) ∧
      (task.showsCritical = true → selectCritical lexicon.critical c = .ok critical ∧
        selectCritical lexicon.critical c' = .ok critical') ∧
      p = shown task lexicon lead critical ∧ p' = shown task lexicon lead critical' := by
  obtain ⟨lead, critical, hlead, hcritical, rfl⟩ := present_eq_ok_iff.1 hp
  obtain ⟨lead', critical', hlead', hcritical', rfl⟩ := present_eq_ok_iff.1 hp'
  refine ⟨lead, critical, critical', fun hshows => ⟨hlead hshows, ?_⟩,
    fun hshows => ⟨hcritical hshows, hcritical' hshows⟩, rfl, ?_⟩
  · exact selectLead_of_eq h (hlead hshows)
  · cases hshows : task.showsLead with
    | true =>
      have heq := (selectLead_of_eq h (hlead hshows)).symm.trans (hlead' hshows)
      rw [Except.ok.inj heq]
    | false =>
      exact shown_of_not_showsLead hshows ..

/-- **Two trials of one item and one slot 0** of the swarm alternation are a minimal pair. -/
theorem minimalPair_of_yields {σ : Type} [RandomSource σ] {corpus : NameCorpus} {frame : Frame}
    {task : Task} {item : Item} {c c' : Condition} {materialsId : String} {scene s s' : Scene σ}
    {t t' : Trial} (h : c.get? 0 = c'.get? 0)
    (ht : Yields (build corpus frame task item c materialsId) scene t s)
    (ht' : Yields (build corpus frame task item c' materialsId) scene t' s') :
    s' = s ∧ MinimalPair task c c' t t' := by
  obtain ⟨lexicon, p, itemId, hread, hp, hid, rfl⟩ := yields_build_iff.1 ht
  obtain ⟨lexicon', p', itemId', hread', hp', hid', rfl⟩ := yields_build_iff.1 ht'
  obtain ⟨rfl, rfl⟩ := (endsAlike_readLexicon h frame).eq_of_yields hread hread'
  obtain rfl := Except.ok.inj (hid.symm.trans hid')
  obtain ⟨lead, critical, critical', hlead, hcritical, rfl, rfl⟩ := exists_shown_of_present h hp hp'
  exact ⟨rfl, {
    materialsId := rfl
    itemId := rfl
    conditionId := ⟨rfl, rfl⟩
    lexicon := rfl
    prompt := prompt_shown ..
    continuations := fun htask => shown_of_continuation htask ..
    critical := ⟨_, lead, critical, critical', rfl, hlead, hcritical, rfl, rfl⟩ }⟩

end Swarm

/-! ## The spray-load alternation -/

namespace SprayLoad

/-- Trials that differ at most in their conditions, in the chosen sentence, and in the
sentences to choose from. -/
structure MinimalPair (c c' : Condition) (t t' : Trial) : Prop where
  materialsId : t'.materialsId = t.materialsId
  itemId : t'.itemId = t.itemId
  conditionId : t.conditionId = .experimental c ∧ t'.conditionId = .experimental c'
  lexicon : t'.lexicon = t.lexicon
  /-- The map of the eight sentences is that of the slots. -/
  sentences : ∃ lexicon, t.lexicon = some (.sprayLoad lexicon) ∧
    t.presentation.sentences = some (.byCondition (allSentences lexicon)) ∧
    t'.presentation.sentences = some (.byCondition (allSentences lexicon))
  prompt : t'.presentation.prompt = t.presentation.prompt
  sliderLabels : t'.presentation.sliderLabels = t.presentation.sliderLabels
  measure : t'.presentation.measure = t.presentation.measure
  /-- Nothing else differs. -/
  presentation : t'.presentation = { t.presentation with
    sentence := t'.presentation.sentence
    options := t'.presentation.options }

/-- **Any two trials of one item** of the spray-load alternation are a minimal pair. -/
theorem minimalPair_of_yields {σ : Type} [RandomSource σ] {corpus : NameCorpus} {task : Task}
    {item : Item} {c c' : Condition} {materialsId : String} {scene s s' : Scene σ} {t t' : Trial}
    (ht : Yields (build corpus task item c materialsId) scene t s)
    (ht' : Yields (build corpus task item c' materialsId) scene t' s') :
    s' = s ∧ MinimalPair c c' t t' := by
  obtain ⟨lexicon, p, itemId, hread, hp, hid, rfl⟩ := yields_build_iff.1 ht
  obtain ⟨lexicon', p', itemId', hread', hp', hid', rfl⟩ := yields_build_iff.1 ht'
  obtain ⟨rfl, rfl⟩ := (EndsAlike.refl _).eq_of_yields hread hread'
  obtain rfl := Except.ok.inj (hid.symm.trans hid')
  refine ⟨rfl, ?_⟩
  cases task with
  | constructionMeaning images =>
    obtain ⟨choice, labels, -, hlabels, rfl⟩ := present_rating_iff.1 hp
    obtain ⟨choice', labels', -, hlabels', rfl⟩ := present_rating_iff.1 hp'
    obtain rfl := Except.ok.inj (hlabels.symm.trans hlabels')
    exact ⟨rfl, rfl, ⟨rfl, rfl⟩, rfl, ⟨_, rfl, rfl, rfl⟩, rfl, rfl, rfl, rfl⟩
  | weight =>
    obtain ⟨locationHeavy, themeHeavy, -, -, rfl⟩ := present_weight_iff.1 hp
    obtain ⟨locationHeavy', themeHeavy', -, -, rfl⟩ := present_weight_iff.1 hp'
    exact ⟨rfl, rfl, ⟨rfl, rfl⟩, rfl, ⟨_, rfl, rfl, rfl⟩, rfl, rfl, rfl, rfl⟩

end SprayLoad

/-- **Minimal pairs.**  From the same bindings and the same random source, whatever the
item and the corpus:

* in the swarm alternation, two conditions that agree in slot 0 end the reading of the
  slots alike, and trials that are built for both differ at most in their conditions and
  in the critical sentence; in the topic frame, reading takes no notice of the condition;
* in the spray-load alternation, trials that are built for any two conditions differ at
  most in their conditions, in the chosen sentence, and in the sentences to choose from. -/
theorem minimalPairs_of_conditions {σ : Type} [RandomSource σ] (corpus : NameCorpus) (item : Item)
    (materialsId : String) (c c' : Condition) :
    (∀ frame, c.get? 0 = c'.get? 0 →
      EndsAlike (Swarm.readLexicon corpus item frame c : Rendering σ SwarmLexicon)
        (Swarm.readLexicon corpus item frame c')) ∧
    (∀ frame task (scene s s' : Scene σ) t t', c.get? 0 = c'.get? 0 →
      Yields (Swarm.build corpus frame task item c materialsId) scene t s →
      Yields (Swarm.build corpus frame task item c' materialsId) scene t' s' →
        s' = s ∧ Swarm.MinimalPair task c c' t t') ∧
    (Swarm.readLexicon corpus item .topic c : Rendering σ SwarmLexicon) =
      Swarm.readLexicon corpus item .topic c' ∧
    ∀ task (scene s s' : Scene σ) t t',
      Yields (SprayLoad.build corpus task item c materialsId) scene t s →
      Yields (SprayLoad.build corpus task item c' materialsId) scene t' s' →
        s' = s ∧ SprayLoad.MinimalPair c c' t t' :=
  ⟨fun frame h => Swarm.endsAlike_readLexicon h frame,
    fun _ _ _ _ _ _ _ h ht ht' => Swarm.minimalPair_of_yields h ht ht', rfl,
    fun _ _ _ _ _ _ ht ht' => SprayLoad.minimalPair_of_yields ht ht'⟩

/-- The bees that were heard swarm in one condition and sting in the other, in the same
garden of the same person, and water is sprayed on the lawn or the lawn with water. -/
theorem minimalPairs_of_conditions_of_bees :
    (∃ (t t' : Trial) (scene : Scene Random.Script),
      Yields (Swarm.build .tomAndAnn (.given true) .fullComprehension Recipe.bees
        (.ofDigits [1, 1]) "bees") ⟨.empty, ⟨[1, 0, 0, 0]⟩⟩ t scene ∧
      Yields (Swarm.build .tomAndAnn (.given true) .fullComprehension Recipe.bees
        (.ofDigits [1, 2]) "bees") ⟨.empty, ⟨[1, 0, 0, 0]⟩⟩ t' scene ∧
      t.sentenceTexts = ["Tom heard bees.", "They are swarming in his garden of Ann."] ∧
      t'.sentenceTexts = ["Tom heard bees.", "They are stinging Tom in his garden of Ann."] ∧
      t'.lexicon = t.lexicon) ∧
    ∃ (t t' : Trial) (scene : Scene Random.Script),
      Yields (SprayLoad.build .tomAndAnn (.constructionMeaning false)
        (MaterialsBundle.paintAndCats.sprayed 2 "water" "lawn") (.ofDigits [0, 0, 0]) "paint")
        ⟨.empty, ⟨[1]⟩⟩ t scene ∧
      Yields (SprayLoad.build .tomAndAnn (.constructionMeaning false)
        (MaterialsBundle.paintAndCats.sprayed 2 "water" "lawn") (.ofDigits [1, 0, 0]) "paint")
        ⟨.empty, ⟨[1]⟩⟩ t' scene ∧
      t.presentation.sentence = some "Ann sprayed the lawn with water." ∧
      t'.presentation.sentence = some "Ann sprayed water on the lawn." ∧
      t'.presentation.sentences = t.presentation.sentences := by
  constructor
  · have hrun : ((Swarm.build .tomAndAnn (.given true) .fullComprehension Recipe.bees
        (.ofDigits [1, 1]) "bees").run.run
          (⟨.empty, ⟨[1, 0, 0, 0]⟩⟩ : Scene Random.Script)).1.map Trial.sentenceTexts =
        .ok ["Tom heard bees.", "They are swarming in his garden of Ann."] := by decide +kernel
    have hrun' : ((Swarm.build .tomAndAnn (.given true) .fullComprehension Recipe.bees
        (.ofDigits [1, 2]) "bees").run.run
          (⟨.empty, ⟨[1, 0, 0, 0]⟩⟩ : Scene Random.Script)).1.map Trial.sentenceTexts =
        .ok ["Tom heard bees.", "They are stinging Tom in his garden of Ann."] := by decide +kernel
    obtain ⟨t, scene, ht, htexts⟩ := exists_yields hrun
    obtain ⟨t', scene', ht', htexts'⟩ := exists_yields hrun'
    obtain ⟨-, hpair, -, -⟩ := minimalPairs_of_conditions (σ := Random.Script) .tomAndAnn
      Recipe.bees "bees" (.ofDigits [1, 1]) (.ofDigits [1, 2])
    obtain ⟨rfl, pair⟩ := hpair _ _ _ _ _ _ _ rfl ht ht'
    exact ⟨t, t', _, ht, ht', htexts, htexts', pair.lexicon⟩
  · have hrun : ((SprayLoad.build .tomAndAnn (.constructionMeaning false)
        (MaterialsBundle.paintAndCats.sprayed 2 "water" "lawn") (.ofDigits [0, 0, 0])
          "paint").run.run (⟨.empty, ⟨[1]⟩⟩ : Scene Random.Script)).1.map
            (·.presentation.sentence) = .ok (some "Ann sprayed the lawn with water.") := by decide +kernel
    have hrun' : ((SprayLoad.build .tomAndAnn (.constructionMeaning false)
        (MaterialsBundle.paintAndCats.sprayed 2 "water" "lawn") (.ofDigits [1, 0, 0])
          "paint").run.run (⟨.empty, ⟨[1]⟩⟩ : Scene Random.Script)).1.map
            (·.presentation.sentence) = .ok (some "Ann sprayed water on the lawn.") := by decide +kernel
    obtain ⟨t, scene, ht, htext⟩ := exists_yields hrun
    obtain ⟨t', scene', ht', htext'⟩ := exists_yields hrun'
    obtain ⟨-, -, -, hpair⟩ := minimalPairs_of_conditions (σ := Random.Script) .tomAndAnn
      (MaterialsBundle.paintAndCats.sprayed 2 "water" "lawn") "paint" (.ofDigits [0, 0, 0])
      (.ofDigits [1, 0, 0])
    obtain ⟨rfl, pair⟩ := hpair _ _ _ _ _ _ ht ht'
    obtain ⟨_, -, hsentences, hsentences'⟩ := pair.sentences
    exact ⟨t, t', _, ht, ht', htext, htext', hsentences'.trans hsentences.symm⟩

end Alternation
