/-
# The trial that comes first

`SPEC_FULL` §4.6, Trial Set Assembler: the lead-trial override of `assemble_trial_set`.

An experiment may name the measure of the trial that comes first.  `Led measure shuffled
trials` says what that does to a shuffled list: the first trial that is no filler and
uses the measure goes to the front and all others keep their order, and without such a
trial everything stays as it is.

Every list has exactly one list that it is led to, and `leadFirst` finds it
(`leadFirst_eq_iff`), wherever the lead stands and however many fillers use the measure
before it.  A session is a shuffled list, led; after the shuffle nothing is drawn
(`Experiment.led_of_assemble`).
-/

import Alternation.Proofs.Experiment.Session

namespace Alternation

/-- The trial can come first: it is no filler, and it uses the measure that is named. -/
structure Trial.Leads (measure : Option Measure) (trial : Trial) : Prop where
  isFiller : trial.isFiller = false
  measure : ∃ m, measure = some m ∧ trial.presentation.measure = some m

/-- The first trial that can come first has come to the front, if there is one. -/
inductive Led (measure : Option Measure) : List Trial → List Trial → Prop
  /-- No trial can come first. -/
  | unchanged {shuffled : List Trial} (none : ∀ t ∈ shuffled, ¬ t.Leads measure) :
    Led measure shuffled shuffled
  /-- All but the lead keep their order. -/
  | front {before after : List Trial} {lead : Trial} (leads : lead.Leads measure)
    (first : ∀ t ∈ before, ¬ t.Leads measure) :
    Led measure (before ++ lead :: after) (lead :: (before ++ after))

section

variable {measure : Option Measure} {shuffled trials : List Trial}

/-- Whether a trial leads is decided as the assembly decides it. -/
theorem Trial.leads_some_iff {m : Measure} {t : Trial} :
    t.Leads (some m) ↔ (!t.isFiller && t.presentation.measure == some m) = true := by
  rw [Bool.and_eq_true, Bool.not_eq_true', beq_iff_eq]
  constructor
  · rintro ⟨hfiller, _, ⟨rfl⟩, hmeasure⟩
    exact ⟨hfiller, hmeasure⟩
  · rintro ⟨hfiller, hmeasure⟩
    exact ⟨hfiller, m, rfl, hmeasure⟩

/-- A trial before the one that leads stays between it and the others. -/
theorem Led.cons {t : Trial} (ht : ¬ t.Leads measure) (h : Led measure shuffled trials) :
    ∃ trials', Led measure (t :: shuffled) trials' := by
  cases h with
  | unchanged none => exact ⟨_, .unchanged (List.forall_mem_cons.2 ⟨ht, none⟩)⟩
  | @front before after lead leads first =>
    have hled : Led measure ((t :: before) ++ lead :: after) (lead :: ((t :: before) ++ after)) :=
      .front leads (List.forall_mem_cons.2 ⟨ht, first⟩)
    exact ⟨_, hled⟩

/-- Every list of trials can be led. -/
theorem exists_led (measure : Option Measure) (shuffled : List Trial) :
    ∃ trials, Led measure shuffled trials := by
  induction shuffled with
  | nil => exact ⟨[], .unchanged (fun _ h => nomatch h)⟩
  | cons t rest ih =>
    by_cases ht : t.Leads measure
    · have hled : Led measure ([] ++ t :: rest) (t :: ([] ++ rest)) :=
        .front ht (fun _ h => nomatch h)
      exact ⟨_, hled⟩
    · obtain ⟨trials, h⟩ := ih
      exact h.cons ht

/-- **Moving the lead to the front** leads the list, and in no other way. -/
theorem Led.leadFirst_eq (h : Led measure shuffled trials) : leadFirst measure shuffled = trials := by
  cases measure with
  | none =>
    cases h with
    | unchanged _ => rfl
    | front leads _ =>
      obtain ⟨_, hnone, -⟩ := leads.measure
      exact nomatch hnone
  | some m =>
    unfold leadFirst
    cases h with
    | unchanged none =>
      have hfind : shuffled.findIdx? (fun t => !t.isFiller && t.presentation.measure == some m) =
          Option.none :=
        List.findIdx?_eq_none_iff.2 fun t ht =>
          Bool.eq_false_iff.2 fun hlead => none t ht (Trial.leads_some_iff.2 hlead)
      simp only [hfind]
    | @front before after lead leads first =>
      have hfind : (before ++ lead :: after).findIdx?
          (fun t => !t.isFiller && t.presentation.measure == some m) = some before.length := by
        rw [List.findIdx?_append, List.findIdx?_eq_none_iff.2 fun t ht =>
          Bool.eq_false_iff.2 fun hlead => first t ht (Trial.leads_some_iff.2 hlead),
          List.findIdx?_cons, Trial.leads_some_iff.1 leads]
        simp
      simp [hfind, List.eraseIdx_append_of_length_le]

/-- **Moving the lead trial:** what becomes of a list is told by `Led`. -/
theorem leadFirst_eq_iff : leadFirst measure shuffled = trials ↔ Led measure shuffled trials := by
  constructor
  · rintro rfl
    obtain ⟨trials, h⟩ := exists_led measure shuffled
    rwa [h.leadFirst_eq]
  · exact Led.leadFirst_eq

end

namespace Experiment

variable {σ : Type} [RandomSource σ]

/-- **How a session comes about:** experimental trials, fillers, a shuffle, and the lead. -/
theorem yields_assemble_iff {corpus : NameCorpus} {e : Experiment} {materials : MaterialsBundle}
    {materialsId : String} {source source' : σ} {session : TrialSet} :
    Yields (e.assemble corpus materials materialsId) source session source' ↔
      ∃ experimental fillers shuffled middle last,
        Yields (e.renderExperimental corpus materials.experimental) source experimental middle ∧
        Yields (e.fillers.build corpus materials.fillers e.fillerTrials) middle fillers last ∧
        (Random.shuffle (experimental ++ fillers)).run last = (shuffled, source') ∧
        session = ⟨e.name, materialsId, leadFirst e.leadMeasure shuffled⟩ := by
  simp only [assemble, yields_bind_iff, yields_lift_iff, yields_pure_iff]
  constructor
  · rintro ⟨experimental, middle, hexperimental, fillers, last, hfillers, shuffled, _, hshuffled,
      rfl, rfl⟩
    exact ⟨experimental, fillers, shuffled, middle, last, hexperimental, hfillers, hshuffled, rfl⟩
  · rintro ⟨experimental, fillers, shuffled, middle, last, hexperimental, hfillers, hshuffled, rfl⟩
    exact ⟨experimental, middle, hexperimental, fillers, last, hfillers, shuffled, _, hshuffled,
      rfl, rfl⟩

/-- **The lead trial.**  Of the trials of any list, the first that is no filler and uses
the measure that the experiment names comes to the front, and the others keep their
order; without such a trial, and for an experiment that names no measure, the list stays
as it is.  A session is the shuffled list of its trials, led so, and the stream is left
where the shuffle left it. -/
theorem led_of_assemble (e : Experiment) (corpus : NameCorpus) (materials : MaterialsBundle)
    (materialsId : String) (source source' : σ) (session : TrialSet) :
    (∀ shuffled trials, leadFirst e.leadMeasure shuffled = trials ↔
      Led e.leadMeasure shuffled trials) ∧
    (Yields (e.assemble corpus materials materialsId) source session source' ↔
      ∃ experimental fillers shuffled middle last,
        Yields (e.renderExperimental corpus materials.experimental) source experimental middle ∧
        Yields (e.fillers.build corpus materials.fillers e.fillerTrials) middle fillers last ∧
        (Random.shuffle (experimental ++ fillers)).run last = (shuffled, source') ∧
        session.experiment = e.name ∧ session.materialsId = materialsId ∧
        Led e.leadMeasure shuffled session.trials) := by
  refine ⟨fun _ _ => leadFirst_eq_iff, yields_assemble_iff.trans ?_⟩
  simp only [← leadFirst_eq_iff]
  constructor
  · rintro ⟨experimental, fillers, shuffled, middle, last, hexperimental, hfillers, hshuffled, rfl⟩
    exact ⟨experimental, fillers, shuffled, middle, last, hexperimental, hfillers, hshuffled,
      rfl, rfl, rfl⟩
  · obtain ⟨name, id, trials⟩ := session
    rintro ⟨experimental, fillers, shuffled, middle, last, hexperimental, hfillers, hshuffled,
      rfl, rfl, rfl⟩
    exact ⟨experimental, fillers, shuffled, middle, last, hexperimental, hfillers, hshuffled, rfl⟩

end Experiment
end Alternation
