/-
# What a trial shows

`SPEC_FULL` §4.6, steps 4 to 6: `present` of `SwarmBuilder` and of `SprayLoadBuilder`.

A trial is built from its lexical slots: once these are read, nothing is drawn any more
(`Swarm.yields_build_iff`, `SprayLoad.yields_build_iff`).  What a participant sees is a
function of the slots and of the clauses that the condition selects:

* in the swarm alternation, of the clause that comes before the critical one and of the
  critical clause (`Swarm.present_eq_ok_iff`);
* in the spray-load alternation, of a choice of the object and of the weights
  (`SprayLoad.present_rating_iff`, `SprayLoad.present_weight_iff`), since there is a
  sentence for every choice (`SprayLoad.lookup_allSentences`).
-/

import Alternation.Experiment.Basic
import Alternation.Proofs.Run

namespace Alternation

/-! ## The swarm alternation -/

namespace Swarm

namespace Task

/-- The clause before the critical one is shown. -/
def showsLead : Task → Bool
  | constructionMeaning => false
  | acceptability => false
  | topicality => true
  | givenness => true
  | fullComprehension => true
  | prefixedAcceptability => true

/-- The critical clause that slot 1 selects is shown. -/
def showsCritical : Task → Bool
  | constructionMeaning => true
  | acceptability => true
  | topicality => false
  | givenness => false
  | fullComprehension => true
  | prefixedAcceptability => true

end Task

/-- What a participant sees of a clause and a critical clause after it. -/
def shown (task : Task) (lexicon : SwarmLexicon) (lead critical : String) : Presentation :=
  match task with
  | .constructionMeaning =>
    { sentence := some (Phrase.sentence critical), prompt := some (quantityPrompt lexicon) }
  | .acceptability => { sentence := some (Phrase.sentence critical) }
  | .topicality =>
    { sentences := some (.byRole (ByRole.map
        (fun clause => Phrase.sentence (lead ++ ", " ++ lexicon.conjunction ++ " " ++ clause))
        ⟨lexicon.critical.agent, lexicon.critical.location⟩)) }
  | .givenness =>
    { sentences := some (.byRole (ByRole.map
        (fun clause => Phrase.sentence lead ++ " " ++ Phrase.sentence clause)
        ⟨lexicon.critical.agent, lexicon.critical.location⟩)) }
  | .fullComprehension =>
    { sentences := some (.sequence [Phrase.sentence lead, Phrase.sentence critical])
      prompt := some (quantityPrompt lexicon) }
  | .prefixedAcceptability =>
    { sentence := some (Phrase.sentence lead ++ "\n" ++ Phrase.sentence critical)
      sentences := some (.sequence [Phrase.sentence lead, Phrase.sentence critical]) }

/-- **What a participant sees** of the clauses that the condition selects; a clause that
the task does not show need not be there to select. -/
theorem present_eq_ok_iff {task : Task} {lexicon : SwarmLexicon} {condition : Condition}
    {p : Presentation} :
    present task lexicon condition = .ok p ↔ ∃ lead critical,
      (task.showsLead = true → selectLead lexicon condition = .ok lead) ∧
      (task.showsCritical = true → selectCritical lexicon.critical condition = .ok critical) ∧
      p = shown task lexicon lead critical := by
  cases task <;>
    simp [present, setupAndCritical, shown, Task.showsLead, Task.showsCritical, ok_bind_iff,
      ByRole.map, pure, Except.pure, @eq_comm _ p]

/-- **A trial** is built from its lexical slots. -/
theorem yields_build_iff {σ : Type} [RandomSource σ] {corpus : NameCorpus} {frame : Frame}
    {task : Task} {item : Item} {condition : Condition} {materialsId : String} {s s' : Scene σ}
    {trial : Trial} :
    Yields (build corpus frame task item condition materialsId) s trial s' ↔
      ∃ lexicon presentation itemId, Yields (readLexicon corpus item frame condition) s lexicon s' ∧
        present task lexicon condition = .ok presentation ∧ item.requireId = .ok itemId ∧
        trial = ⟨some materialsId, itemId, .experimental condition, some (.swarm lexicon),
          presentation⟩ := by
  simp only [build, yields_bind_iff, yields_check_iff, yields_pure_iff]
  constructor
  · rintro ⟨lexicon, _, hlexicon, presentation, _, ⟨hpresent, rfl⟩, itemId, _, ⟨hid, rfl⟩, rfl, rfl⟩
    exact ⟨lexicon, presentation, itemId, hlexicon, hpresent, hid, rfl⟩
  · rintro ⟨lexicon, presentation, itemId, hlexicon, hpresent, hid, rfl⟩
    exact ⟨lexicon, _, hlexicon, presentation, _, ⟨hpresent, rfl⟩, itemId, _, ⟨hid, rfl⟩, rfl, rfl⟩

end Swarm

/-! ## The spray-load alternation -/

namespace SprayLoad

/-- **There is a sentence for every choice**, under its key. -/
theorem lookup_key (lexicon : SprayLoadLexicon) (choice : Choice) :
    (allSentences lexicon).lookup choice.key = some (sentenceOf lexicon choice) := by
  obtain ⟨themeObject, locationHeavy, themeHeavy⟩ := choice
  cases themeObject <;> cases locationHeavy <;> cases themeHeavy <;> rfl

/-- No sentence of a choice is looked up in vain. -/
theorem lookup_allSentences (lexicon : SprayLoadLexicon) (choice : Choice) (condition : Condition) :
    lookup (allSentences lexicon) choice condition = .ok (sentenceOf lexicon choice) := by
  rw [lookup, lookup_key]

/-- The trial asks for the choice of a picture. -/
def asksForImage (images : Bool) (lexicon : SprayLoadLexicon) : Bool :=
  images && !lexicon.images.isEmpty

/-- What a participant sees who rates how full or covered the location is. -/
def shownRating (images : Bool) (lexicon : SprayLoadLexicon) (labels : String × String)
    (choice : Choice) : Presentation where
  sentence := some (sentenceOf lexicon choice)
  sentences := some (.byCondition (allSentences lexicon))
  prompt := some (quantityPrompt lexicon ++ if asksForImage images lexicon then imagePrompt else "")
  sliderLabels := some labels
  measure := some (if asksForImage images lexicon then .forcedChoiceImages else .slider)

/-- What a participant sees who chooses the object. -/
def shownOptions (lexicon : SprayLoadLexicon) (locationHeavy themeHeavy : Bool) : Presentation where
  sentences := some (.byCondition (allSentences lexicon))
  options := some (.byConstruction (sentenceOf lexicon ⟨false, locationHeavy, themeHeavy⟩)
    (sentenceOf lexicon ⟨true, locationHeavy, themeHeavy⟩))

section

variable {item : Item} {lexicon : SprayLoadLexicon} {condition : Condition} {p : Presentation}

/-- A rating is shown just if the choice and the labels are there. -/
theorem present_rating_iff {images : Bool} :
    present (.constructionMeaning images) item lexicon condition = .ok p ↔ ∃ choice labels,
      Choice.ofCondition condition = .ok choice ∧ sliderLabels item lexicon = .ok labels ∧
      p = shownRating images lexicon labels choice := by
  constructor
  · intro h
    obtain ⟨choice, hchoice, h⟩ := ok_bind_iff.1 h
    obtain ⟨chosen, hchosen, h⟩ := ok_bind_iff.1 h
    obtain ⟨labels, hlabels, h⟩ := ok_bind_iff.1 h
    rw [lookup_allSentences] at hchosen
    obtain rfl := Except.ok.inj hchosen
    exact ⟨choice, labels, hchoice, hlabels, (Except.ok.inj h).symm⟩
  · rintro ⟨choice, labels, hchoice, hlabels, rfl⟩
    exact ok_bind_iff.2 ⟨choice, hchoice, ok_bind_iff.2
      ⟨_, lookup_allSentences .., ok_bind_iff.2 ⟨labels, hlabels, rfl⟩⟩⟩

/-- Two options are shown just if slots 1 and 2 are flags; slot 0 is not read. -/
theorem present_weight_iff :
    present .weight item lexicon condition = .ok p ↔ ∃ locationHeavy themeHeavy,
      condition.requireFlag 1 = .ok locationHeavy ∧ condition.requireFlag 2 = .ok themeHeavy ∧
      p = shownOptions lexicon locationHeavy themeHeavy := by
  constructor
  · intro h
    obtain ⟨locationHeavy, hlocation, h⟩ := ok_bind_iff.1 h
    obtain ⟨themeHeavy, htheme, h⟩ := ok_bind_iff.1 h
    obtain ⟨locationObject, hlocationObject, h⟩ := ok_bind_iff.1 h
    obtain ⟨themeObject, hthemeObject, h⟩ := ok_bind_iff.1 h
    rw [lookup_allSentences] at hlocationObject hthemeObject
    obtain rfl := Except.ok.inj hlocationObject
    obtain rfl := Except.ok.inj hthemeObject
    exact ⟨locationHeavy, themeHeavy, hlocation, htheme, (Except.ok.inj h).symm⟩
  · rintro ⟨locationHeavy, themeHeavy, hlocation, htheme, rfl⟩
    exact ok_bind_iff.2 ⟨locationHeavy, hlocation, ok_bind_iff.2 ⟨themeHeavy, htheme,
      ok_bind_iff.2 ⟨_, lookup_allSentences .., ok_bind_iff.2 ⟨_, lookup_allSentences .., rfl⟩⟩⟩⟩

end

/-- **A trial** is built from its lexical slots. -/
theorem yields_build_iff {σ : Type} [RandomSource σ] {corpus : NameCorpus} {task : Task}
    {item : Item} {condition : Condition} {materialsId : String} {s s' : Scene σ} {trial : Trial} :
    Yields (build corpus task item condition materialsId) s trial s' ↔
      ∃ lexicon presentation itemId, Yields (readLexicon corpus item) s lexicon s' ∧
        present task item lexicon condition = .ok presentation ∧ item.requireId = .ok itemId ∧
        trial = ⟨some materialsId, itemId, .experimental condition, some (.sprayLoad lexicon),
          presentation⟩ := by
  simp only [build, yields_bind_iff, yields_check_iff, yields_pure_iff]
  constructor
  · rintro ⟨lexicon, _, hlexicon, presentation, _, ⟨hpresent, rfl⟩, itemId, _, ⟨hid, rfl⟩, rfl, rfl⟩
    exact ⟨lexicon, presentation, itemId, hlexicon, hpresent, hid, rfl⟩
  · rintro ⟨lexicon, presentation, itemId, hlexicon, hpresent, hid, rfl⟩
    exact ⟨lexicon, _, hlexicon, presentation, _, ⟨hpresent, rfl⟩, itemId, _, ⟨hid, rfl⟩, rfl, rfl⟩

end SprayLoad
end Alternation
