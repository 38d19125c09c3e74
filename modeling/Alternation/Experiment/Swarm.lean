/-
# The swarm alternation

`SPEC_FULL` §4.6, swarm family: `SwarmBuilder` (`lexicon`, `present`, `build_trial`),
`select_critical`, `setup_and_critical`, `quantity_prompt`.

"Bees are swarming in the garden" alternates with "The garden is swarming with
bees". Slot 0 of a condition tells whether the agent (1) or the location (0) is
the topic, or the given entity; slot 1 tells whose critical clause is shown: the
location's (0), the agent's (1), or the one that does not alternate (2).

* In the topic frame the critical clauses repeat both noun phrases.
* In the given frame a pronoun takes up the entity that was introduced.
-/

import Alternation.Render.Rendering
import Alternation.Text.Phrase
import Alternation.Trial.Basic

namespace Alternation
namespace Swarm

/-- How an entity is made salient before the critical clause. -/
inductive Frame where
  | topic
  | given (nonalternating : Bool)
deriving DecidableEq, Repr

/-- What a participant sees and does. -/
inductive Task where
  /-- Rate a quantity after the critical sentence. -/
  | constructionMeaning
  /-- Choose between continuations of a topic. -/
  | topicality
  /-- Judge the critical sentence. -/
  | acceptability
  /-- Choose between continuations of a setup sentence. -/
  | givenness
  /-- Rate a quantity after the setup and the critical sentence. -/
  | fullComprehension
  /-- Judge the setup and the critical sentence. -/
  | prefixedAcceptability
deriving DecidableEq, Repr

/-! ## Fields -/

/-- The text fields of every item. -/
def baseFields : List String :=
  ["A", "L", "V", "P", "prompt P", "L det", "topic A", "topic L", "conj"]

/-- The text fields of the given frame. -/
def givenFields : List String :=
  ["given A", "given L", "given A pron subj", "given A pron obj", "given L pron subj",
   "given L pron obj"]

/-- The text fields of the clause that does not alternate. -/
def nonalternatingFields : List String :=
  ["non alternating given A", "non alternating given A.P", "non alternating given L"]

/-- The fields that must be filled. -/
def requiredFields : Frame → List String
  | .topic => baseFields
  | .given false => baseFields ++ givenFields
  | .given true => baseFields ++ givenFields ++ nonalternatingFields

/-- The fields that must be there. -/
def flagFields : List String := ["A countable?", "L plural?"]

/-! ## Clauses -/

/-- The slots that the clauses share. -/
structure Slots where
  agent : String
  location : String
  verb : String
  agentPlural : Bool
  locationPlural : Bool
  locationDeterminer : String
  preposition : String
  promptPreposition : String
  conjunction : String
deriving DecidableEq, Repr

namespace Slots

/-- The location with its determiner. -/
def place (s : Slots) : String := Phrase.joinWords [s.locationDeterminer, s.location]

/-- The clause with the agent as its subject. -/
def agentClause (s : Slots) (agent place : String) : String :=
  Phrase.joinWords
    [agent, Phrase.copula s.agentPlural, Phrase.progressive s.verb, s.preposition, place]

/-- The clause with the location as its subject. -/
def locationClause (s : Slots) (place agent : String) : String :=
  Phrase.joinWords
    [place, Phrase.copula s.locationPlural, Phrase.progressive s.verb, "with", agent]

/-- The critical clauses of the topic frame. -/
def topicClauses (s : Slots) : CriticalClauses where
  agent := s.agentClause s.agent s.place
  location := s.locationClause s.place s.agent
  nonalternating := none

/-- The critical clauses of the given frame, a pronoun in the place of the agent
or of the location. -/
def givenClauses (s : Slots) (pronouns : Pronouns) (agentGiven : Bool)
    (nonalternating : Option String) : CriticalClauses where
  agent :=
    if agentGiven then s.agentClause pronouns.agentSubject s.place
    else s.agentClause s.agent pronouns.locationObject
  location :=
    if agentGiven then s.locationClause s.place pronouns.agentObject
    else s.locationClause pronouns.locationSubject s.agent
  nonalternating := nonalternating

end Slots

section

variable {σ : Type} [RandomSource σ] (corpus : NameCorpus) (item : Item)

/-- Fills the slots that the clauses share. -/
def readSlots : Rendering σ Slots := do
  let agent ← Rendering.process corpus item "A"
  let location ← Rendering.process corpus item "L"
  let verb ← Rendering.process corpus item "V"
  let agentPlural ← Rendering.check (item.requireFlag "A countable?")
  let locationPlural ← Rendering.check (item.requireFlag "L plural?")
  let locationDeterminer ← Rendering.process corpus item "L det"
  let preposition ← Rendering.process corpus item "P"
  let promptPreposition ← Rendering.process corpus item "prompt P"
  let conjunction ← Rendering.process corpus item "conj"
  return { agent, location, verb, agentPlural, locationPlural, locationDeterminer, preposition,
           promptPreposition, conjunction }

/-- Renders the pronouns. -/
def readPronouns : Rendering σ Pronouns := do
  let agentSubject ← Rendering.process corpus item "given A pron subj"
  let agentObject ← Rendering.process corpus item "given A pron obj"
  let locationSubject ← Rendering.process corpus item "given L pron subj"
  let locationObject ← Rendering.process corpus item "given L pron obj"
  return { agentSubject, agentObject, locationSubject, locationObject }

/-- Renders the field of each role. -/
def readByRole (agentField locationField : String) : Rendering σ (ByRole String) := do
  let agent ← Rendering.process corpus item agentField
  let location ← Rendering.process corpus item locationField
  return { agent, location }

/-- Renders the clause that does not alternate. -/
def readNonalternating (slots : Slots) (pronouns : Pronouns) (agentGiven : Bool) :
    Rendering σ String := do
  let predicate ← Rendering.process corpus item "non alternating given A"
  if agentGiven then
    let particle ← Rendering.process corpus item "non alternating given A.P"
    return Phrase.joinWords
      [pronouns.agentSubject, Phrase.copula slots.agentPlural, predicate, particle, slots.place]
  else
    let determiner ← Rendering.processOptional corpus item "non alternating given L.det"
    let place ← Rendering.process corpus item "non alternating given L"
    return Phrase.joinWords
      [determiner.getD "", slots.agent, Phrase.copula slots.agentPlural, predicate, place]

/-- Renders the clause that does not alternate, where the frame has one. -/
def readControl (nonalternating : Bool) (slots : Slots) (pronouns : Pronouns)
    (agentGiven : Bool) : Rendering σ (Option String) :=
  if nonalternating then some <$> readNonalternating corpus item slots pronouns agentGiven
  else pure none

/-- Renders what comes before the critical clause, and the critical clauses. -/
def readClauses (frame : Frame) (condition : Condition) (slots : Slots) :
    Rendering σ (Lead × CriticalClauses) :=
  match frame with
  | .topic => do
    let clauses ← readByRole corpus item "topic A" "topic L"
    return (.topic clauses, slots.topicClauses)
  | .given nonalternating => do
    let pronouns ← readPronouns corpus item
    let clauses ← readByRole corpus item "given A" "given L"
    let agentGiven ← Rendering.check (condition.requireFlag 0)
    let control ← readControl corpus item nonalternating slots pronouns agentGiven
    return (.given pronouns clauses, slots.givenClauses pronouns agentGiven control)

/-- Renders the lexical slots of a trial. -/
def readLexicon (frame : Frame) (condition : Condition) : Rendering σ SwarmLexicon := do
  let slots ← readSlots corpus item
  let (lead, critical) ← readClauses corpus item frame condition slots
  return {
    agent := slots.agent
    location := slots.location
    verb := slots.verb
    agentPlural := slots.agentPlural
    locationPlural := slots.locationPlural
    locationDeterminer := slots.locationDeterminer
    preposition := slots.preposition
    promptPreposition := slots.promptPreposition
    conjunction := slots.conjunction
    lead
    critical }

end

/-! ## Presentation -/

/-- The critical clause that slot 1 asks for. -/
def selectCritical (critical : CriticalClauses) (condition : Condition) :
    Except RenderError String := do
  match ← condition.requireSlot 1 with
  | 0 => return critical.location
  | 1 => return critical.agent
  | 2 =>
    match critical.nonalternating with
    | some clause => return clause
    | none => .error (.conditionSlot condition 1)
  | _ => .error (.conditionSlot condition 1)

/-- The critical clause is told by what slot 1 holds. -/
theorem selectCritical_eq (critical : CriticalClauses) (condition : Condition) :
    selectCritical critical condition =
      match condition.get? 1 with
      | some 0 => .ok critical.location
      | some 1 => .ok critical.agent
      | some 2 =>
        match critical.nonalternating with
        | some clause => .ok clause
        | none => .error (.conditionSlot condition 1)
      | _ => .error (.conditionSlot condition 1) := by
  unfold selectCritical Condition.requireSlot
  cases condition.get? 1 with
  | none => rfl
  | some v =>
    simp only [bind, Except.bind, pure, Except.pure]
    split <;> split <;> simp_all

/-- The clause before the critical clause that slot 0 asks for. -/
def selectLead (lexicon : SwarmLexicon) (condition : Condition) : Except RenderError String := do
  return lexicon.lead.clauses.pick (← condition.requireFlag 0)

/-- The setup and the critical clause as sentences. -/
def setupAndCritical (lexicon : SwarmLexicon) (condition : Condition) :
    Except RenderError (String × String) := do
  let setup ← selectLead lexicon condition
  let critical ← selectCritical lexicon.critical condition
  return (Phrase.sentence setup, Phrase.sentence critical)

/-- The question after the quantity. -/
def quantityPrompt (lexicon : SwarmLexicon) : String :=
  Phrase.howMuchQuestion lexicon.agent lexicon.agentPlural lexicon.promptPreposition
    (Phrase.joinWords [lexicon.locationDeterminer, lexicon.location])

/-- What a participant sees. -/
def present (task : Task) (lexicon : SwarmLexicon) (condition : Condition) :
    Except RenderError Presentation := do
  match task with
  | .constructionMeaning =>
    let critical ← selectCritical lexicon.critical condition
    return { sentence := some (Phrase.sentence critical), prompt := some (quantityPrompt lexicon) }
  | .acceptability =>
    let critical ← selectCritical lexicon.critical condition
    return { sentence := some (Phrase.sentence critical) }
  | .topicality =>
    let topic ← selectLead lexicon condition
    let continued (clause : String) : String :=
      Phrase.sentence (topic ++ ", " ++ lexicon.conjunction ++ " " ++ clause)
    return { sentences := some (.byRole
      ⟨continued lexicon.critical.agent, continued lexicon.critical.location⟩) }
  | .givenness =>
    let setup ← selectLead lexicon condition
    let continued (clause : String) : String :=
      Phrase.sentence setup ++ " " ++ Phrase.sentence clause
    return { sentences := some (.byRole
      ⟨continued lexicon.critical.agent, continued lexicon.critical.location⟩) }
  | .fullComprehension =>
    let (setup, critical) ← setupAndCritical lexicon condition
    return {
      sentences := some (.sequence [setup, critical])
      prompt := some (quantityPrompt lexicon) }
  | .prefixedAcceptability =>
    let (setup, critical) ← setupAndCritical lexicon condition
    return {
      sentence := some (setup ++ "\n" ++ critical)
      sentences := some (.sequence [setup, critical]) }

/-- Renders a trial. -/
def build {σ : Type} [RandomSource σ] (corpus : NameCorpus) (frame : Frame) (task : Task)
    (item : Item) (condition : Condition) (materialsId : String) : Rendering σ Trial := do
  let lexicon ← readLexicon corpus item frame condition
  let presentation ← Rendering.check (present task lexicon condition)
  let itemId ← Rendering.check item.requireId
  return {
    materialsId := some materialsId
    itemId
    conditionId := .experimental condition
    lexicon := some (.swarm lexicon)
    presentation }

end Swarm
end Alternation
