/-
# Trials as JSON

`SPEC_FULL` §10.4: the JSON of `Trial` and `TrialSet`, and of what they are made of.

A trial is one flat object: its identifiers, the lexical slots and what the
participant sees stand side by side, in that order. What a trial does not have is
left out.
-/

import Alternation.Trial.Basic

namespace Alternation

namespace Json

/-- The members of an object. -/
abbrev Members := List (String × Json)

/-- A member, if there is a value for it. -/
def optional (key : String) (value : Option Json) : Members :=
  value.elim [] fun v => [(key, v)]

end Json

open Json (Members optional)

/-- The pair as JSON. -/
def ByRole.toJson (pair : ByRole String) : Json :=
  .obj [("agent", .str pair.agent), ("location", .str pair.location)]

/-- The pair as JSON. -/
def GoodBad.toJson (pair : GoodBad) : Json :=
  .obj [("good", .str pair.good), ("bad", .str pair.bad)]

/-- The collection as JSON. -/
def Sentences.toJson : Sentences → Json
  | sequence list => .arr (list.map .str)
  | byRole pair => pair.toJson
  | goodBad pair => pair.toJson
  | byCondition entries => .obj (entries.map fun e => (e.1, .str e.2))

/-- The options as JSON. -/
def SentenceOptions.toJson : SentenceOptions → Json
  | byConstruction locationObject themeObject =>
    .obj [("0", .str locationObject), ("1", .str themeObject)]
  | goodBad pair => pair.toJson

/-- The members for what a participant sees. -/
def Presentation.members (p : Presentation) : Members :=
  optional "sentence" (p.sentence.map .str) ++
  optional "sentences" (p.sentences.map Sentences.toJson) ++
  optional "sentence_options" (p.options.map SentenceOptions.toJson) ++
  optional "prompt" (p.prompt.map .str) ++
  optional "slider_labels" (p.sliderLabels.map fun l => .arr [.str l.1, .str l.2]) ++
  optional "measure" (p.measure.map fun m => .str m.name) ++
  optional "conjunction" (p.conjunction.map .str)

/-- The clauses as JSON. -/
def CriticalClauses.toJson (c : CriticalClauses) : Json :=
  .obj ([("agent", .str c.agent), ("location", .str c.location)] ++
    optional "nonalternating" (c.nonalternating.map .str))

/-- The members for pronouns. -/
def Pronouns.members (p : Pronouns) : Members :=
  [("agent_pronoun_subject", .str p.agentSubject), ("agent_pronoun_object", .str p.agentObject),
   ("location_pronoun_subject", .str p.locationSubject),
   ("location_pronoun_object", .str p.locationObject)]

/-- The members for what comes before the critical clause. -/
def Lead.members : Lead → Members
  | topic clauses => [("topic_clause", clauses.toJson)]
  | given pronouns clauses => pronouns.members ++ [("setup_clause", clauses.toJson)]

/-- The members for the slots of a swarm trial. -/
def SwarmLexicon.members (l : SwarmLexicon) : Members :=
  [("agent", .str l.agent), ("location", .str l.location), ("verb", .str l.verb),
   ("agent_plural", .bool l.agentPlural), ("location_plural", .bool l.locationPlural),
   ("location_determiner", .str l.locationDeterminer), ("preposition", .str l.preposition),
   ("prompt_preposition", .str l.promptPreposition), ("conjunction", .str l.conjunction)] ++
  l.lead.members ++ [("critical_clause", l.critical.toJson)]

/-- The phrase as JSON. -/
def WeightedPhrase.toJson (p : WeightedPhrase) : Json :=
  .obj [("light", .str p.light), ("heavy", .str p.heavy), ("is_plural", .bool p.isPlural)]

/-- The forms as JSON. -/
def VerbForms.toJson (v : VerbForms) : Json :=
  .obj [("lemma", .str v.base), ("present", .str v.present), ("past simp", .str v.pastSimple)]

/-- The members for the slots of a spray-load trial. -/
def SprayLoadLexicon.members (l : SprayLoadLexicon) : Members :=
  [("images", .obj (l.images.map fun e => (e.1.key, .str e.2))), ("subject", .str l.subject),
   ("theme", l.theme.toJson), ("location", l.location.toJson), ("verb", l.verb.toJson),
   ("scale_type", .str l.scaleType), ("preposition", .str l.preposition),
   ("prompt_preposition", .str l.promptPreposition)]

/-- The members for lexical slots. -/
def Lexicon.members : Lexicon → Members
  | swarm lexicon => lexicon.members
  | sprayLoad lexicon => lexicon.members

namespace Trial

/-- The members of a trial. -/
def members (t : Trial) : Members :=
  optional "materials_id" (t.materialsId.map .str) ++
  [("item_id", t.itemId.toJson), ("condition_id", t.conditionId.toJson)] ++
  t.lexicon.elim [] Lexicon.members ++ t.presentation.members

/-- The trial as JSON. -/
def toJson (t : Trial) : Json := .obj t.members

end Trial

/-- The trial set as JSON. -/
def TrialSet.toJson (set : TrialSet) : Json :=
  .obj [("experiment", .str set.experiment), ("materials_id", .str set.materialsId),
    ("trials", .arr (set.trials.map Trial.toJson))]

end Alternation
