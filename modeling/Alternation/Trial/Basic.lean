/-
# Trials

`SPEC_FULL` §3, *Trial* and *TrialSet*: `Trial` (`is_filler`, `sentence_texts`),
`Presentation`, `Lexicon`, `Sentences`, `SentenceOptions`, `ByRole`.

A trial shows one item in one condition, or one filler. It carries the item's
identifier, the name of its condition, the lexical slots that were filled
(`Lexicon`), and what the participant sees (`Presentation`).

`Trial.sentenceTexts` lists every sentence that a participant can see.
-/

import Alternation.Condition

namespace Alternation

/-- A value for the agent and one for the location. -/
structure ByRole (α : Type) where
  agent : α
  location : α
deriving DecidableEq, Repr

namespace ByRole

variable {α β : Type}

/-- The value of one of the roles. -/
def pick (pair : ByRole α) (agent : Bool) : α := if agent then pair.agent else pair.location

/-- Applies a function in both roles. -/
def map (f : α → β) (pair : ByRole α) : ByRole β := ⟨f pair.agent, f pair.location⟩

end ByRole

/-- A well-formed rendering and an ill-formed one. -/
structure GoodBad where
  good : String
  bad : String
deriving DecidableEq, Repr

/-! ## What is shown -/

/-- Collections of sentences. -/
inductive Sentences where
  /-- Sentences to be shown in order. -/
  | sequence (list : List String)
  /-- A sentence for each choice of the subject. -/
  | byRole (pair : ByRole String)
  | goodBad (pair : GoodBad)
  /-- A sentence for each key of a condition, in ascending order of the keys. -/
  | byCondition (entries : List (String × String))
deriving DecidableEq, Repr

/-- The sentences of a collection. -/
def Sentences.texts : Sentences → List String
  | sequence list => list
  | byRole pair => [pair.agent, pair.location]
  | goodBad pair => [pair.good, pair.bad]
  | byCondition entries => entries.map Prod.snd

/-- Sentences to choose from. -/
inductive SentenceOptions where
  /-- The sentence with the location as object, and the one with the theme. -/
  | byConstruction (locationObject themeObject : String)
  | goodBad (pair : GoodBad)
deriving DecidableEq, Repr

/-- The sentences to choose from. -/
def SentenceOptions.texts : SentenceOptions → List String
  | byConstruction locationObject themeObject => [locationObject, themeObject]
  | goodBad pair => [pair.good, pair.bad]

/-- The way a participant responds. -/
inductive Measure where
  | slider
  | forcedChoiceImages
deriving DecidableEq, Repr

/-- The measure as the program that shows the trial knows it. -/
def Measure.name : Measure → String
  | slider => "slider"
  | forcedChoiceImages => "forced_choice_images"

/-- What a participant sees. -/
structure Presentation where
  sentence : Option String := none
  sentences : Option Sentences := none
  options : Option SentenceOptions := none
  prompt : Option String := none
  /-- The texts at the two ends of a slider. -/
  sliderLabels : Option (String × String) := none
  measure : Option Measure := none
  conjunction : Option String := none
deriving DecidableEq, Repr

/-- The sentences that a participant sees. -/
def Presentation.texts (p : Presentation) : List String :=
  p.sentence.toList ++ p.sentences.elim [] Sentences.texts ++
    p.options.elim [] SentenceOptions.texts

/-! ## Lexical slots -/

/-- The critical clauses of the swarm alternation. -/
structure CriticalClauses where
  agent : String
  location : String
  /-- The clause that does not alternate, where there is one. -/
  nonalternating : Option String
deriving DecidableEq, Repr

/-- Pronouns for entities that are given already. -/
structure Pronouns where
  agentSubject : String
  agentObject : String
  locationSubject : String
  locationObject : String
deriving DecidableEq, Repr

/-- What comes before the critical clause. -/
inductive Lead where
  /-- Clauses that make an entity the topic. -/
  | topic (clauses : ByRole String)
  /-- Clauses that introduce an entity, and the pronouns that take it up. -/
  | given (pronouns : Pronouns) (clauses : ByRole String)
deriving DecidableEq, Repr

namespace Lead

/-- The clauses before the critical clause. -/
def clauses : Lead → ByRole String
  | topic clauses => clauses
  | given _ clauses => clauses

end Lead

/-- The lexical slots of a swarm trial. -/
structure SwarmLexicon where
  agent : String
  location : String
  verb : String
  agentPlural : Bool
  locationPlural : Bool
  locationDeterminer : String
  preposition : String
  promptPreposition : String
  conjunction : String
  lead : Lead
  critical : CriticalClauses
deriving DecidableEq, Repr

/-- A noun phrase in a short and a long form. -/
structure WeightedPhrase where
  light : String
  heavy : String
  isPlural : Bool
deriving DecidableEq, Repr

/-- One of the forms. -/
def WeightedPhrase.pick (phrase : WeightedPhrase) (heavy : Bool) : String :=
  if heavy then phrase.heavy else phrase.light

/-- The forms of a verb. -/
structure VerbForms where
  /-- The dictionary form. -/
  base : String
  present : String
  pastSimple : String
deriving DecidableEq, Repr

/-- The pictures that an item can have. -/
inductive ImageKind where
  | max
  | midIntentionComplete
  | midIntentionIncomplete
  | min
deriving DecidableEq, Repr

namespace ImageKind

/-- The kinds, in ascending order of their keys. -/
def all : List ImageKind := [max, midIntentionComplete, midIntentionIncomplete, min]

/-- The key under which a trial names the picture. -/
def key : ImageKind → String
  | max => "max"
  | midIntentionComplete => "mid_intention_complete"
  | midIntentionIncomplete => "mid_intention_incomplete"
  | min => "min"

/-- The field of the item that names the picture. -/
def field : ImageKind → String
  | max => "image max"
  | midIntentionComplete => "image mid intention complete"
  | midIntentionIncomplete => "image mid intention incomplete"
  | min => "image min"

end ImageKind

/-- The lexical slots of a spray-load trial. -/
structure SprayLoadLexicon where
  /-- The pictures of the item, in the order of `ImageKind.all`. -/
  images : List (ImageKind × String)
  subject : String
  theme : WeightedPhrase
  location : WeightedPhrase
  verb : VerbForms
  scaleType : String
  preposition : String
  promptPreposition : String
deriving DecidableEq, Repr

/-- The lexical slots of an experimental trial. -/
inductive Lexicon where
  | swarm (lexicon : SwarmLexicon)
  | sprayLoad (lexicon : SprayLoadLexicon)
deriving DecidableEq, Repr

/-! ## Trials and trial sets -/

/-- A rendered trial. -/
structure Trial where
  materialsId : Option String
  itemId : Value
  conditionId : ConditionId
  lexicon : Option Lexicon
  presentation : Presentation

instance : Inhabited Trial := ⟨⟨none, .null, .filler [], none, {}⟩⟩

namespace Trial

/-- The trial is a filler. -/
def isFiller (t : Trial) : Bool := t.conditionId.isFiller

/-- The sentences that a participant sees. -/
def sentenceTexts (t : Trial) : List String := t.presentation.texts

end Trial

/-- The trials of one session. -/
structure TrialSet where
  experiment : String
  materialsId : String
  trials : List Trial

end Alternation
