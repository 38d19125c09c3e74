/-
# Everything a participant sees is a sentence

`SPEC_FULL` §8: non-empty capitalized punctuated sentences, for all of `sentence_texts`.

Trials put their texts together in a dozen ways, from cells that may be blank, closed
already, or surrounded by spaces.  Whatever the recipe, every text that a participant
sees is a sentence (`Recipe.sentence_of_mem_sentenceTexts`): `Phrase.sentence` is always
applied last, or to both sentences of a pair before they are put together.
-/

import Alternation.Proofs.Experiment.Presentation
import Alternation.Proofs.Experiment.Recipe
import Alternation.Proofs.Random.Script
import Alternation.Proofs.Text.Sentence

namespace Alternation

/-- Every text of the presentation is a sentence. -/
def Presentation.Sentential (p : Presentation) : Prop := ∀ text ∈ p.texts, Phrase.IsSentence text

/-- The three places that hold texts. -/
theorem Presentation.sentential_iff (p : Presentation) :
    p.Sentential ↔ (∀ text ∈ p.sentence, Phrase.IsSentence text) ∧
      (∀ collection ∈ p.sentences, ∀ text ∈ collection.texts, Phrase.IsSentence text) ∧
      ∀ options ∈ p.options, ∀ text ∈ options.texts, Phrase.IsSentence text := by
  obtain ⟨sentence, sentences, options, _, _, _, _⟩ := p
  cases sentence <;> cases sentences <;> cases options <;> simp [Sentential, texts, or_imp, forall_and]

/-! ## Experimental trials -/

namespace Swarm

/-- What a swarm trial shows are sentences. -/
theorem sentential_shown (task : Task) (lexicon : SwarmLexicon) (lead critical : String) :
    (shown task lexicon lead critical).Sentential := by
  have hlead := Phrase.isSentence_sentence lead
  have hcritical := Phrase.isSentence_sentence critical
  rw [Presentation.sentential_iff]
  cases task with
  | constructionMeaning => simpa [shown] using hcritical
  | acceptability => simpa [shown] using hcritical
  | topicality => simp [shown, Sentences.texts, ByRole.map, Phrase.isSentence_sentence]
  | givenness =>
    have hpair (clause : String) := hlead.glue (Phrase.isSentence_sentence clause) " "
    simpa [shown, Sentences.texts, ByRole.map] using ⟨hpair _, hpair _⟩
  | fullComprehension => simpa [shown, Sentences.texts] using ⟨hlead, hcritical⟩
  | prefixedAcceptability =>
    simpa [shown, Sentences.texts] using ⟨hlead.glue hcritical "\n", hlead, hcritical⟩

end Swarm

namespace SprayLoad

/-- Whatever the choice, a sentence of the spray-load alternation is one. -/
theorem isSentence_sentenceOf (lexicon : SprayLoadLexicon) (choice : Choice) :
    Phrase.IsSentence (sentenceOf lexicon choice) :=
  Phrase.isSentence_sentence _

/-- All eight sentences are sentences. -/
theorem isSentence_of_mem_allSentences (lexicon : SprayLoadLexicon) :
    ∀ text ∈ (allSentences lexicon).map Prod.snd, Phrase.IsSentence text := by
  intro text htext
  simp only [allSentences, List.map_map, List.mem_map] at htext
  obtain ⟨choice, -, rfl⟩ := htext
  exact isSentence_sentenceOf lexicon choice

/-- What a spray-load trial shows are sentences. -/
theorem sentential_present {task : Task} {item : Item} {lexicon : SprayLoadLexicon}
    {condition : Condition} {p : Presentation} (h : present task item lexicon condition = .ok p) :
    p.Sentential := by
  have hall := isSentence_of_mem_allSentences lexicon
  have hone := isSentence_sentenceOf lexicon
  rw [Presentation.sentential_iff]
  cases task with
  | constructionMeaning images =>
    obtain ⟨choice, labels, -, -, rfl⟩ := present_rating_iff.1 h
    simpa [shownRating, Sentences.texts] using ⟨hone choice, by simpa using hall⟩
  | weight =>
    obtain ⟨locationHeavy, themeHeavy, -, -, rfl⟩ := present_weight_iff.1 h
    simpa [shownOptions, Sentences.texts, SentenceOptions.texts] using
      ⟨by simpa using hall, hone _, hone _⟩

end SprayLoad

/-! ## Fillers -/

namespace Fillers

variable {σ : Type} [RandomSource σ] {corpus : NameCorpus} {item : Item} {s s' : Scene σ}
  {p : Presentation}

/-- What a balanced filler shows are sentences. -/
theorem sentential_presentBalanced {text : String} {format : BalancedFormat}
    (h : Yields (presentBalanced corpus item (Phrase.sentence text) format) s p s') :
    p.Sentential := by
  have htext := Phrase.isSentence_sentence text
  rw [Presentation.sentential_iff]
  cases format with
  | prompted =>
    simp only [presentBalanced, yields_bind_iff, yields_pure_iff] at h
    obtain ⟨prompt, _, -, rfl, -⟩ := h
    simpa using htext
  | promptedSequence =>
    simp only [presentBalanced, yields_bind_iff, yields_pure_iff] at h
    obtain ⟨prompt, _, -, rfl, -⟩ := h
    simpa [Sentences.texts] using htext
  | acceptability =>
    obtain ⟨rfl, -⟩ := yields_pure_iff.1 h
    simpa using htext
  | slider =>
    simp only [presentBalanced, yields_bind_iff, yields_pure_iff] at h
    obtain ⟨greatest, _, -, scaleType, _, -, prompt, _, -, rfl, -⟩ := h
    simpa using htext

/-- What a completion shows are sentences. -/
theorem sentential_presentCompletion {lead good bad : String} {join : CompletionJoin}
    (h : Yields (presentCompletion corpus item lead good bad join) s p s') : p.Sentential := by
  rw [Presentation.sentential_iff]
  cases join with
  | conjoined =>
    simp only [presentCompletion, yields_bind_iff, yields_pure_iff] at h
    obtain ⟨conj, _, -, rfl, -⟩ := h
    simp [Sentences.texts, Phrase.isSentence_sentence]
  | sentences =>
    obtain ⟨rfl, -⟩ := yields_pure_iff.1 h
    have hpair (completion : String) :=
      (Phrase.isSentence_sentence lead).glue (Phrase.isSentence_sentence completion) " "
    simpa [Sentences.texts] using ⟨hpair good, hpair bad⟩

end Fillers

/-! ## All recipes -/

namespace Recipe

section

variable {σ : Type} [RandomSource σ] {corpus : NameCorpus} {item : Item} {materialsId : String}
  {trial : Trial} {s s' : Scene σ}

/-- **What a trial shows are sentences,** whatever it was built by. -/
theorem sentential_of_yields {recipe : Recipe}
    (h : Yields (recipe.build corpus item materialsId) s trial s') :
    trial.presentation.Sentential := by
  cases recipe with
  | experimental kind condition =>
    cases kind with
    | swarm frame task space =>
      obtain ⟨lexicon, presentation, itemId, -, hpresent, -, rfl⟩ := Swarm.yields_build_iff.1 h
      obtain ⟨lead, critical, -, -, rfl⟩ := Swarm.present_eq_ok_iff.1 hpresent
      exact Swarm.sentential_shown task lexicon lead critical
    | sprayLoad task space =>
      obtain ⟨lexicon, presentation, itemId, -, hpresent, -, rfl⟩ := SprayLoad.yields_build_iff.1 h
      exact SprayLoad.sentential_present hpresent
  | balanced format rating =>
    obtain ⟨text, _, -, h⟩ := yields_bind_iff.1 h
    obtain ⟨presentation, _, hpresentation, h⟩ := yields_bind_iff.1 h
    simp only [yields_bind_iff, yields_pure_iff] at h
    obtain ⟨itemId, _, -, rfl, -⟩ := h
    exact Fillers.sentential_presentBalanced hpresentation
  | completion join =>
    simp only [build, Fillers.buildCompletion, yields_bind_iff, yields_pure_iff] at h
    obtain ⟨lead, _, -, good, _, -, bad, _, -, presentation, _, hpresentation, itemId, _, -,
      manipulation, _, -, rfl, -⟩ := h
    exact Fillers.sentential_presentCompletion hpresentation
  | options =>
    simp only [build, Fillers.buildOptions, yields_bind_iff, yields_pure_iff] at h
    obtain ⟨good, _, -, bad, _, -, itemId, _, -, manipulation, _, -, ungrammatical, _, -, rfl, -⟩ := h
    rw [Presentation.sentential_iff]
    simp [SentenceOptions.texts, Phrase.isSentence_sentence]

/-- **Everything a participant sees is a sentence,** whatever is rendered and from
whatever state: it is not empty, making a sentence of it changes nothing, nothing is to
be trimmed, its first character is a capital and its last one a mark that may end a
sentence. -/
theorem sentence_of_mem_sentenceTexts {recipe : Recipe}
    (h : Yields (recipe.build corpus item materialsId) s trial s') :
    ∀ text ∈ trial.sentenceTexts, text ≠ "" ∧ Phrase.sentence text = text ∧
      Text.trimmed text = text ∧ Phrase.capitalizeFirst text = text ∧
      (∃ first, text.toList.head? = some first ∧ Text.upper first = [first]) ∧
      ∃ last, text.toList.getLast? = some last ∧ (last = '.' ∨ last = '!' ∨ last = '?') := by
  intro text htext
  have hsentence := sentential_of_yields h text htext
  obtain ⟨first, hfirst, -, hupper⟩ := hsentence.starts
  obtain ⟨last, hlast, hterminal⟩ := hsentence.ends
  exact ⟨hsentence.tight.ne_empty, hsentence.sentence_eq, hsentence.tight.trimmed_eq,
    hsentence.capitalizeFirst_eq, ⟨first, hfirst, hupper⟩, last, hlast,
    (Phrase.isTerminal_iff last).1 hterminal⟩

end

/-- A prefix with a ligature between blanks, a completion that is closed already, and one
that is blank. -/
def fishSwim : Item where
  fields := .ofList
    [("id", .int 3), ("prefix", .text "\u00a0 ﬁsh swim \n"), ("good_completion", .text "do they? "),
      ("bad_completion", .text " \u3000"), ("manipulation", .null)]

/-- The blank completion is a full stop alone, after a blank. -/
theorem sentence_of_mem_sentenceTexts_of_fishSwim : ∃ (trial : Trial) (scene : Scene Random.Script),
    Yields ((Recipe.completion .sentences).build .builtin fishSwim "fish") ⟨.empty, ⟨[]⟩⟩ trial
      scene ∧
    trial.sentenceTexts = ["FIsh swim. Do they?", "FIsh swim. ."] ∧
    Phrase.sentence "FIsh swim. ." = "FIsh swim. ." := by
  have hrun : (((Recipe.completion .sentences).build .builtin fishSwim "fish").run.run
      (⟨.empty, ⟨[]⟩⟩ : Scene Random.Script)).1.map Trial.sentenceTexts =
        .ok ["FIsh swim. Do they?", "FIsh swim. ."] := by decide +kernel
  obtain ⟨trial, scene, hyields, htexts⟩ := exists_yields hrun
  obtain ⟨-, hsentence, -⟩ :=
    sentence_of_mem_sentenceTexts hyields "FIsh swim. ." (by rw [htexts]; simp)
  exact ⟨trial, scene, hyields, htexts, hsentence⟩

end Recipe
end Alternation
