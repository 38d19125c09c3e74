/-
# One cast for each trial

`SPEC_FULL` §3 and §8, referential consistency within a trial: every `build_trial` and
every filler's `render`.

`Recipe.Filled cast item trial` says that every text in a trial is the text of the
item's field that it comes from, with the placeholders replaced as the cast has it:
the slots, pronouns and clauses of an experimental trial, and the sentences, prompts,
completions and labels of a filler.  What a participant sees is put together from
these texts alone.

A trial that is rendered afresh has one sound cast that fills all its texts
(`Recipe.exists_cast_filled`), however many persons its fields mention and in whatever order.
Each reader has one lemma, which follows its program (`casts_readSlots`, …).
-/

import Alternation.Proofs.Experiment.Recipe
import Alternation.Proofs.Render.Casting

namespace Alternation

/-! ## The swarm alternation -/

namespace Swarm

/-- The slots that the clauses share. -/
def slotsOf (lexicon : SwarmLexicon) : Slots where
  agent := lexicon.agent
  location := lexicon.location
  verb := lexicon.verb
  agentPlural := lexicon.agentPlural
  locationPlural := lexicon.locationPlural
  locationDeterminer := lexicon.locationDeterminer
  preposition := lexicon.preposition
  promptPreposition := lexicon.promptPreposition
  conjunction := lexicon.conjunction

section

variable (cast : Cast) (item : Item)

/-- Every slot is filled from its field. -/
structure SlotsFilled (slots : Slots) : Prop where
  agent : cast.Fills item "A" slots.agent
  location : cast.Fills item "L" slots.location
  verb : cast.Fills item "V" slots.verb
  agentPlural : item.requireFlag "A countable?" = .ok slots.agentPlural
  locationPlural : item.requireFlag "L plural?" = .ok slots.locationPlural
  locationDeterminer : cast.Fills item "L det" slots.locationDeterminer
  preposition : cast.Fills item "P" slots.preposition
  promptPreposition : cast.Fills item "prompt P" slots.promptPreposition
  conjunction : cast.Fills item "conj" slots.conjunction

/-- Every pronoun is filled from its field. -/
structure PronounsFilled (pronouns : Pronouns) : Prop where
  agentSubject : cast.Fills item "given A pron subj" pronouns.agentSubject
  agentObject : cast.Fills item "given A pron obj" pronouns.agentObject
  locationSubject : cast.Fills item "given L pron subj" pronouns.locationSubject
  locationObject : cast.Fills item "given L pron obj" pronouns.locationObject

/-- The clause of each role is filled from its field. -/
structure RolesFilled (agentField locationField : String) (clauses : ByRole String) : Prop where
  agent : cast.Fills item agentField clauses.agent
  location : cast.Fills item locationField clauses.location

/-- The clause that does not alternate, from texts that are filled. -/
def NonalternatingFilled (slots : Slots) (pronouns : Pronouns) (agentGiven : Bool)
    (clause : String) : Prop :=
  ∃ predicate, cast.Fills item "non alternating given A" predicate ∧
    if agentGiven then
      ∃ particle, cast.Fills item "non alternating given A.P" particle ∧
        clause = Phrase.joinWords
          [pronouns.agentSubject, Phrase.copula slots.agentPlural, predicate, particle, slots.place]
    else
      ∃ determiner place, cast.FillsOptional item "non alternating given L.det" determiner ∧
        cast.Fills item "non alternating given L" place ∧
        clause = Phrase.joinWords
          [determiner, slots.agent, Phrase.copula slots.agentPlural, predicate, place]

/-- The clause that does not alternate is there if the frame has one. -/
def ControlFilled (nonalternating : Bool) (slots : Slots) (pronouns : Pronouns)
    (agentGiven : Bool) (control : Option String) : Prop :=
  if nonalternating then
    ∃ clause, control = some clause ∧
      NonalternatingFilled cast item slots pronouns agentGiven clause
  else
    control = none

/-- What comes before the critical clause is filled, and the critical clauses are
put together from texts that are. -/
def ClausesFilled (condition : Condition) (slots : Slots) :
    Frame → Lead × CriticalClauses → Prop
  | .topic, (lead, critical) =>
    ∃ clauses, lead = .topic clauses ∧ RolesFilled cast item "topic A" "topic L" clauses ∧
      critical = slots.topicClauses
  | .given nonalternating, (lead, critical) =>
    ∃ pronouns clauses agentGiven control, lead = .given pronouns clauses ∧
      PronounsFilled cast item pronouns ∧
      RolesFilled cast item "given A" "given L" clauses ∧
      condition.requireFlag 0 = .ok agentGiven ∧
      ControlFilled cast item nonalternating slots pronouns agentGiven control ∧
      critical = slots.givenClauses pronouns agentGiven control

/-- Every text of the lexical slots is filled from its field. -/
structure LexiconFilled (frame : Frame) (condition : Condition) (lexicon : SwarmLexicon) :
    Prop where
  slots : SlotsFilled cast item (slotsOf lexicon)
  clauses : ClausesFilled cast item condition (slotsOf lexicon) frame
    (lexicon.lead, lexicon.critical)

/-- A participant sees what the lexical slots make up, and these are filled. -/
def TrialFilled (frame : Frame) (task : Task) (condition : Condition) (trial : Trial) : Prop :=
  ∃ lexicon, trial.lexicon = some (.swarm lexicon) ∧
    LexiconFilled cast item frame condition lexicon ∧
    present task lexicon condition = .ok trial.presentation

end

section

variable {σ : Type} [RandomSource σ] {corpus : NameCorpus} (item : Item)

/-- The lexical slots are read under one cast. -/
theorem casts_readSlots :
    Casts corpus (fun cast slots => SlotsFilled cast item slots)
      (readSlots corpus item : Rendering σ Slots) := by
  refine ((casts_process item "A").bind fun agent =>
    (casts_process item "L").bind fun location =>
    (casts_process item "V").bind fun verb =>
    (casts_check (item.requireFlag "A countable?")).bind fun agentPlural =>
    (casts_check (item.requireFlag "L plural?")).bind fun locationPlural =>
    (casts_process item "L det").bind fun locationDeterminer =>
    (casts_process item "P").bind fun preposition =>
    (casts_process item "prompt P").bind fun promptPreposition =>
    (casts_process item "conj").bind fun conjunction => casts_pure _).mono ?_
  rintro cast slots ⟨agent, hagent, location, hlocation, verb, hverb, agentPlural, hagentPlural,
    locationPlural, hlocationPlural, determiner, hdeterminer, preposition, hpreposition,
    prompt, hprompt, conjunction, hconjunction, rfl⟩
  exact {
    agent := hagent
    location := hlocation
    verb := hverb
    agentPlural := hagentPlural
    locationPlural := hlocationPlural
    locationDeterminer := hdeterminer
    preposition := hpreposition
    promptPreposition := hprompt
    conjunction := hconjunction }

/-- The pronouns are read under one cast. -/
theorem casts_readPronouns :
    Casts corpus (fun cast pronouns => PronounsFilled cast item pronouns)
      (readPronouns corpus item : Rendering σ Pronouns) := by
  refine ((casts_process item "given A pron subj").bind fun agentSubject =>
    (casts_process item "given A pron obj").bind fun agentObject =>
    (casts_process item "given L pron subj").bind fun locationSubject =>
    (casts_process item "given L pron obj").bind fun locationObject => casts_pure _).mono ?_
  rintro cast pronouns ⟨agentSubject, hagentSubject, agentObject, hagentObject,
    locationSubject, hlocationSubject, locationObject, hlocationObject, rfl⟩
  exact ⟨hagentSubject, hagentObject, hlocationSubject, hlocationObject⟩

/-- Two clauses, one for each role, are read under one cast. -/
theorem casts_readByRole (agentField locationField : String) :
    Casts corpus (fun cast clauses => RolesFilled cast item agentField locationField clauses)
      (readByRole corpus item agentField locationField : Rendering σ (ByRole String)) := by
  refine ((casts_process item agentField).bind fun agent =>
    (casts_process item locationField).bind fun location => casts_pure _).mono ?_
  rintro cast clauses ⟨agent, hagent, location, hlocation, rfl⟩
  exact ⟨hagent, hlocation⟩

/-- The clause that does not alternate is read under one cast. -/
theorem casts_readNonalternating (slots : Slots) (pronouns : Pronouns) (agentGiven : Bool) :
    Casts corpus (fun cast => NonalternatingFilled cast item slots pronouns agentGiven)
      (readNonalternating corpus item slots pronouns agentGiven : Rendering σ String) := by
  cases agentGiven with
  | true =>
    refine ((casts_process item "non alternating given A").bind fun predicate =>
      (casts_process item "non alternating given A.P").bind fun particle => casts_pure _).mono ?_
    rintro cast clause ⟨predicate, hpredicate, particle, hparticle, rfl⟩
    exact ⟨predicate, hpredicate, particle, hparticle, rfl⟩
  | false =>
    refine ((casts_process item "non alternating given A").bind fun predicate =>
      (casts_processOptional item "non alternating given L.det").bind fun determiner =>
      (casts_process item "non alternating given L").bind fun place => casts_pure _).mono ?_
    rintro cast clause ⟨predicate, hpredicate, determiner, hdeterminer, place, hplace, rfl⟩
    exact ⟨predicate, hpredicate, determiner.getD "", place, hdeterminer, hplace, rfl⟩

/-- Where there is a control, it is the clause that does not alternate. -/
theorem casts_readControl (nonalternating : Bool) (slots : Slots) (pronouns : Pronouns)
    (agentGiven : Bool) :
    Casts corpus
      (fun cast => ControlFilled cast item nonalternating slots pronouns agentGiven)
      (readControl corpus item nonalternating slots pronouns agentGiven :
        Rendering σ (Option String)) := by
  cases nonalternating with
  | true =>
    refine (casts_readNonalternating item slots pronouns agentGiven).map.mono ?_
    rintro cast control ⟨clause, hclause, rfl⟩
    exact ⟨clause, rfl, hclause⟩
  | false => exact (casts_pure none).mono fun _ _ h => h

/-- What a frame reads, what leads and the critical clauses, is read under one cast. -/
theorem casts_readClauses (frame : Frame) (condition : Condition) (slots : Slots) :
    Casts corpus (fun cast => ClausesFilled cast item condition slots frame)
      (readClauses corpus item frame condition slots : Rendering σ (Lead × CriticalClauses)) := by
  cases frame with
  | topic =>
    refine ((casts_readByRole item "topic A" "topic L").bind fun clauses => casts_pure _).mono ?_
    rintro cast _ ⟨clauses, hclauses, rfl⟩
    exact ⟨clauses, rfl, hclauses, rfl⟩
  | given nonalternating =>
    refine ((casts_readPronouns item).bind fun pronouns =>
      (casts_readByRole item "given A" "given L").bind fun clauses =>
      (casts_check (condition.requireFlag 0)).bind fun agentGiven =>
      (casts_readControl item nonalternating slots pronouns agentGiven).bind fun control =>
      casts_pure _).mono ?_
    rintro cast _ ⟨pronouns, hpronouns, clauses, hclauses, agentGiven, hgiven, control, hcontrol,
      rfl⟩
    exact ⟨pronouns, clauses, agentGiven, control, rfl, hpronouns, hclauses, hgiven, hcontrol, rfl⟩

/-- The lexicon of the swarm alternation is read under one cast. -/
theorem casts_readLexicon (frame : Frame) (condition : Condition) :
    Casts corpus (fun cast => LexiconFilled cast item frame condition)
      (readLexicon corpus item frame condition : Rendering σ SwarmLexicon) := by
  refine ((casts_readSlots item).bind fun slots =>
    (casts_readClauses item frame condition slots).bind fun clauses => casts_pure _).mono ?_
  rintro cast lexicon ⟨slots, hslots, ⟨lead, critical⟩, hclauses, rfl⟩
  exact ⟨hslots, hclauses⟩

/-- **A trial of the swarm alternation** is filled under one cast. -/
theorem casts_build (frame : Frame) (task : Task) (condition : Condition) (materialsId : String) :
    Casts corpus (fun cast => TrialFilled cast item frame task condition)
      (build corpus frame task item condition materialsId : Rendering σ Trial) := by
  refine ((casts_readLexicon item frame condition).bind fun lexicon =>
    (casts_check (present task lexicon condition)).bind fun presentation =>
    (casts_check item.requireId).bind fun itemId => casts_pure _).mono ?_
  rintro cast trial ⟨lexicon, hlexicon, presentation, hpresent, itemId, -, rfl⟩
  exact ⟨lexicon, rfl, hlexicon, hpresent⟩

end
end Swarm

/-! ## The spray-load alternation -/

namespace SprayLoad

section

variable (cast : Cast) (item : Item)

/-- Both forms of a phrase are filled from their fields. -/
structure PhraseFilled (lightField heavyField flagField : String) (phrase : WeightedPhrase) :
    Prop where
  light : cast.Fills item lightField phrase.light
  heavy : cast.Fills item heavyField phrase.heavy
  isPlural : item.requireFlag flagField = .ok phrase.isPlural

/-- Every form of the verb is filled from its field. -/
structure VerbFilled (verb : VerbForms) : Prop where
  base : cast.Fills item "V" verb.base
  present : cast.Fills item "V pres" verb.present
  pastSimple : cast.Fills item "V past simp" verb.pastSimple

/-- Every text of the lexical slots is filled from its field; the kind of scale and
the pictures are the item's own. -/
structure LexiconFilled (lexicon : SprayLoadLexicon) : Prop where
  subject : cast.Fills item "S" lexicon.subject
  theme : PhraseFilled cast item "T" "T heavy" "T plural?" lexicon.theme
  location : PhraseFilled cast item "L" "L heavy" "L plural?" lexicon.location
  verb : VerbFilled cast item lexicon.verb
  scaleType : item.requireText "scale type" = .ok lexicon.scaleType
  preposition : cast.Fills item "P" lexicon.preposition
  promptPreposition : cast.FillsOptional item "Prompt P" lexicon.promptPreposition
  images : lexicon.images = imagesOf item

/-- A participant sees what the lexical slots make up, and these are filled. -/
def TrialFilled (task : Task) (condition : Condition) (trial : Trial) : Prop :=
  ∃ lexicon, trial.lexicon = some (.sprayLoad lexicon) ∧ LexiconFilled cast item lexicon ∧
    present task item lexicon condition = .ok trial.presentation

end

section

variable {σ : Type} [RandomSource σ] {corpus : NameCorpus} (item : Item)

/-- A phrase in both of its forms is read under one cast. -/
theorem casts_readPhrase (lightField heavyField flagField : String) :
    Casts corpus (fun cast => PhraseFilled cast item lightField heavyField flagField)
      (readPhrase corpus item lightField heavyField flagField : Rendering σ WeightedPhrase) := by
  refine ((casts_process item lightField).bind fun light =>
    (casts_process item heavyField).bind fun heavy =>
    (casts_check (item.requireFlag flagField)).bind fun isPlural => casts_pure _).mono ?_
  rintro cast phrase ⟨light, hlight, heavy, hheavy, isPlural, hplural, rfl⟩
  exact ⟨hlight, hheavy, hplural⟩

/-- The three forms of a verb are read under one cast. -/
theorem casts_readVerb :
    Casts corpus (fun cast => VerbFilled cast item)
      (readVerb corpus item : Rendering σ VerbForms) := by
  refine ((casts_process item "V").bind fun base =>
    (casts_process item "V pres").bind fun present =>
    (casts_process item "V past simp").bind fun pastSimple => casts_pure _).mono ?_
  rintro cast verb ⟨base, hbase, present, hpresent, pastSimple, hpast, rfl⟩
  exact ⟨hbase, hpresent, hpast⟩

/-- The lexicon of the spray-load alternation is read under one cast. -/
theorem casts_readLexicon :
    Casts corpus (fun cast => LexiconFilled cast item)
      (readLexicon corpus item : Rendering σ SprayLoadLexicon) := by
  refine ((casts_process item "S").bind fun subject =>
    (casts_readPhrase item "T" "T heavy" "T plural?").bind fun theme =>
    (casts_readPhrase item "L" "L heavy" "L plural?").bind fun location =>
    (casts_readVerb item).bind fun verb =>
    (casts_check (item.requireText "scale type")).bind fun scaleType =>
    (casts_process item "P").bind fun preposition =>
    (casts_processOptional item "Prompt P").bind fun prompt => casts_pure _).mono ?_
  rintro cast lexicon ⟨subject, hsubject, theme, htheme, location, hlocation, verb, hverb,
    scaleType, hscale, preposition, hpreposition, prompt, hprompt, rfl⟩
  exact {
    subject := hsubject
    theme := htheme
    location := hlocation
    verb := hverb
    scaleType := hscale
    preposition := hpreposition
    promptPreposition := hprompt
    images := rfl }

/-- **A trial of the spray-load alternation** is filled under one cast. -/
theorem casts_build (task : Task) (condition : Condition) (materialsId : String) :
    Casts corpus (fun cast => TrialFilled cast item task condition)
      (build corpus task item condition materialsId : Rendering σ Trial) := by
  refine ((casts_readLexicon item).bind fun lexicon =>
    (casts_check (present task item lexicon condition)).bind fun presentation =>
    (casts_check item.requireId).bind fun itemId => casts_pure _).mono ?_
  rintro cast trial ⟨lexicon, hlexicon, presentation, hpresent, itemId, -, rfl⟩
  exact ⟨lexicon, rfl, hlexicon, hpresent⟩

end
end SprayLoad

/-! ## Fillers -/

namespace Fillers

section

variable (cast : Cast) (item : Item)

/-- What a balanced filler shows, with its prompt and its label filled. -/
def PresentedBalanced (shown : String) (presentation : Presentation) : BalancedFormat → Prop
  | .prompted =>
    ∃ prompt, cast.Fills item "prompt" prompt ∧
      presentation = { sentence := some shown, prompt := some prompt }
  | .promptedSequence =>
    ∃ prompt, cast.Fills item "prompt" prompt ∧
      presentation = { sentences := some (.sequence [shown]), prompt := some prompt }
  | .acceptability => presentation = { sentence := some shown }
  | .slider =>
    ∃ greatest scaleType prompt, cast.Fills item "label_max" greatest ∧
      item.requireText "scale type" = .ok scaleType ∧
      cast.Fills item "prompt" prompt ∧
      presentation = {
        sentence := some shown
        prompt := some prompt
        sliderLabels := some (leastLabel scaleType, "100% / " ++ greatest)
        measure := some .slider }

/-- A balanced filler shows its filled sentence. -/
def BalancedFilled (format : BalancedFormat) (trial : Trial) : Prop :=
  ∃ text, cast.Fills item "sentence" text ∧
    PresentedBalanced cast item (Phrase.sentence text) trial.presentation format

/-- What a completion filler shows of its filled texts. -/
def PresentedCompletion (lead good bad : String) (presentation : Presentation) :
    CompletionJoin → Prop
  | .conjoined =>
    ∃ conj, cast.Fills item "conj" conj ∧
      presentation = {
        sentences := some (.goodBad
          ⟨Phrase.sentence (lead ++ ", " ++ conj ++ " " ++ good),
            Phrase.sentence (lead ++ ", " ++ conj ++ " " ++ bad)⟩)
        conjunction := some conj }
  | .sentences =>
    presentation = {
      sentences := some (.goodBad
        ⟨Phrase.sentence lead ++ " " ++ Phrase.sentence good,
          Phrase.sentence lead ++ " " ++ Phrase.sentence bad⟩) }

/-- A completion filler shows its filled prefix with each filled completion. -/
def CompletionFilled (join : CompletionJoin) (trial : Trial) : Prop :=
  ∃ lead good bad, cast.Fills item "prefix" lead ∧
    cast.Fills item "good_completion" good ∧ cast.Fills item "bad_completion" bad ∧
    PresentedCompletion cast item lead good bad trial.presentation join

/-- A filler with two sentences to choose from shows both, filled. -/
def OptionsFilled (trial : Trial) : Prop :=
  ∃ good bad, cast.Fills item "good_sentence" good ∧ cast.Fills item "bad_sentence" bad ∧
    trial.presentation =
      { options := some (.goodBad ⟨Phrase.sentence good, Phrase.sentence bad⟩) }

end

section

variable {σ : Type} [RandomSource σ] {corpus : NameCorpus} (item : Item)

/-- What a balanced filler shows is read under one cast. -/
theorem casts_presentBalanced (shown : String) (format : BalancedFormat) :
    Casts corpus (fun cast presentation => PresentedBalanced cast item shown presentation format)
      (presentBalanced corpus item shown format : Rendering σ Presentation) := by
  cases format with
  | prompted =>
    refine ((casts_process item "prompt").bind fun prompt => casts_pure _).mono ?_
    rintro cast presentation ⟨prompt, hprompt, rfl⟩
    exact ⟨prompt, hprompt, rfl⟩
  | promptedSequence =>
    refine ((casts_process item "prompt").bind fun prompt => casts_pure _).mono ?_
    rintro cast presentation ⟨prompt, hprompt, rfl⟩
    exact ⟨prompt, hprompt, rfl⟩
  | acceptability => exact (casts_pure _).mono fun _ _ h => h
  | slider =>
    refine ((casts_process item "label_max").bind fun greatest =>
      (casts_check (item.requireText "scale type")).bind fun scaleType =>
      (casts_process item "prompt").bind fun prompt => casts_pure _).mono ?_
    rintro cast presentation ⟨greatest, hgreatest, scaleType, hscale, prompt, hprompt, rfl⟩
    exact ⟨greatest, scaleType, prompt, hgreatest, hscale, hprompt, rfl⟩

/-- A balanced filler is filled under one cast. -/
theorem casts_buildBalanced (format : BalancedFormat) (rating materialsId : String) :
    Casts corpus (fun cast => BalancedFilled cast item format)
      (buildBalanced corpus format item rating materialsId : Rendering σ Trial) := by
  refine ((casts_process item "sentence").bind fun text =>
    (casts_presentBalanced item (Phrase.sentence text) format).bind fun presentation =>
    (casts_check item.requireId).bind fun itemId => casts_pure _).mono ?_
  rintro cast trial ⟨text, htext, presentation, hpresentation, itemId, -, rfl⟩
  exact ⟨text, htext, hpresentation⟩

/-- What a completion shows is read under one cast. -/
theorem casts_presentCompletion (lead good bad : String) (join : CompletionJoin) :
    Casts corpus
      (fun cast presentation => PresentedCompletion cast item lead good bad presentation join)
      (presentCompletion corpus item lead good bad join : Rendering σ Presentation) := by
  cases join with
  | conjoined =>
    refine ((casts_process item "conj").bind fun conj => casts_pure _).mono ?_
    rintro cast presentation ⟨conj, hconj, rfl⟩
    exact ⟨conj, hconj, rfl⟩
  | sentences => exact (casts_pure _).mono fun _ _ h => h

/-- A completion is filled under one cast. -/
theorem casts_buildCompletion (join : CompletionJoin) (materialsId : String) :
    Casts corpus (fun cast => CompletionFilled cast item join)
      (buildCompletion corpus join item materialsId : Rendering σ Trial) := by
  refine ((casts_process item "prefix").bind fun lead =>
    (casts_process item "good_completion").bind fun good =>
    (casts_process item "bad_completion").bind fun bad =>
    (casts_presentCompletion item lead good bad join).bind fun presentation =>
    (casts_check item.requireId).bind fun itemId =>
    (casts_check (item.requireValue "manipulation")).bind fun manipulation => casts_pure _).mono ?_
  rintro cast trial ⟨lead, hlead, good, hgood, bad, hbad, presentation, hpresentation, itemId, -,
    manipulation, -, rfl⟩
  exact ⟨lead, good, bad, hlead, hgood, hbad, hpresentation⟩

/-- A pair of options is filled under one cast. -/
theorem casts_buildOptions (materialsId : String) :
    Casts corpus (fun cast => OptionsFilled cast item)
      (buildOptions corpus item materialsId : Rendering σ Trial) := by
  refine ((casts_process item "good_sentence").bind fun good =>
    (casts_process item "bad_sentence").bind fun bad =>
    (casts_check item.requireId).bind fun itemId =>
    (casts_check (item.requireValue "manipulation")).bind fun manipulation =>
    (casts_check (item.requireValue "bad_ungrammatical")).bind fun ungrammatical =>
    casts_pure _).mono ?_
  rintro cast trial ⟨good, hgood, bad, hbad, itemId, -, manipulation, -, ungrammatical, -, rfl⟩
  exact ⟨good, bad, hgood, hbad, rfl⟩

end
end Fillers

/-! ## All recipes -/

namespace Recipe

/-- Every text in the trial is the text of its field, filled by the cast. -/
def Filled (recipe : Recipe) (cast : Cast) (item : Item) (trial : Trial) : Prop :=
  match recipe with
  | experimental (.swarm frame task _) condition =>
    Swarm.TrialFilled cast item frame task condition trial
  | experimental (.sprayLoad task _) condition =>
    SprayLoad.TrialFilled cast item task condition trial
  | balanced format _ => Fillers.BalancedFilled cast item format trial
  | completion join => Fillers.CompletionFilled cast item join trial
  | options => Fillers.OptionsFilled cast item trial

variable {σ : Type} [RandomSource σ] {corpus : NameCorpus}

/-- **A trial of any recipe** is filled under one cast. -/
theorem casts_build (recipe : Recipe) (item : Item) (materialsId : String) :
    Casts corpus (fun cast => recipe.Filled cast item)
      (recipe.build corpus item materialsId : Rendering σ Trial) := by
  cases recipe with
  | experimental kind condition =>
    cases kind with
    | swarm frame task space => exact Swarm.casts_build item frame task condition materialsId
    | sprayLoad task space => exact SprayLoad.casts_build item task condition materialsId
  | balanced format rating => exact Fillers.casts_buildBalanced item format rating materialsId
  | completion join => exact Fillers.casts_buildCompletion item join materialsId
  | options => exact Fillers.casts_buildOptions item materialsId

/-- **One cast for all the texts of a trial,** whatever the recipe, the item, the
corpus and the draws: nobody shares a name, every name goes with its gender, and
every placeholder is replaced as the cast has it. -/
theorem exists_cast_filled (recipe : Recipe) {item : Item} {materialsId : String} {source source' : σ}
    {trial : Trial}
    (h : Yields (recipe.build corpus item materialsId).fresh source trial source') :
    ∃ cast : Cast, cast.Sound corpus ∧ recipe.Filled cast item trial :=
  (casts_build recipe item materialsId).exists_cast h

/-- Bees that swarm about two persons, one of them mentioned by the possessive first. -/
def bees : Item where
  fields := .ofList <|
    [("id", .int 7), ("A countable?", .bool true), ("L plural?", .null)] ++
    [("A", "bees"), ("L", "garden of %PERSON2%"), ("V", "swarm"), ("P", "in"),
      ("prompt P", "in"), ("L det", "%PERSON1_POSS%"), ("topic A", "As for bees"),
      ("topic L", "As for the garden"), ("conj", "well"), ("given A", "%PERSON1% heard bees"),
      ("given L", "%PERSON2% saw a garden"), ("given A pron subj", "they"),
      ("given A pron obj", "them"), ("given L pron subj", "it"), ("given L pron obj", "it"),
      ("non alternating given A", "stinging"), ("non alternating given A.P", "%PERSON1% in"),
      ("non alternating given L", "it")].map fun e => (e.1, .text e.2)

/-- The clause that does not alternate, after a setup. -/
def heardBees : Recipe :=
  .experimental (.swarm (.given true) .fullComprehension []) (.ofDigits [1, 2])

/-- Person 2 is Ann and person 1 is Tom, in the slots and in the clauses. -/
theorem exists_cast_filled_of_bees :
    ∃ (trial : Trial) (source : Random.Script) (cast : Cast),
      Yields (heardBees.build .tomAndAnn bees "bees").fresh ⟨[1, 0, 0, 0]⟩ trial source ∧
      trial.sentenceTexts =
        ["Tom heard bees.", "They are stinging Tom in his garden of Ann."] ∧
      cast.Sound .tomAndAnn ∧ heardBees.Filled cast bees trial := by
  have hrun : ((heardBees.build .tomAndAnn bees "bees").fresh.run.run
      (⟨[1, 0, 0, 0]⟩ : Random.Script)).1.map Trial.sentenceTexts =
        .ok ["Tom heard bees.", "They are stinging Tom in his garden of Ann."] := by decide +kernel
  obtain ⟨trial, source, hyields, htexts⟩ := exists_yields hrun
  obtain ⟨cast, hsound, hfilled⟩ := exists_cast_filled heardBees hyields
  exact ⟨trial, source, cast, hyields, htexts, hsound, hfilled⟩

end Recipe
end Alternation
