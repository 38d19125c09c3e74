/-
# Registered experiments

`SPEC_FULL` §4.6 (the tables of variants) and §9: `ExperimentRegistry` (`standard`,
`register`, `create`, `names`).

A registry maps names to designs. The standard one has ten experiments, seven on
the swarm alternation and three on the spray-load alternation.
-/

import Alternation.Experiment.Basic

namespace Alternation

/-! ## Standard designs -/

namespace Design

/-- The conditions in which an entity is given and an entity is the subject. -/
def givenBySubject : List Condition :=
  [.ofDigits [0, 0], .ofDigits [0, 1], .ofDigits [1, 0], .ofDigits [1, 1]]

/-- The conditions in which either phrase is the object and both are light. -/
def objectChoice : List Condition := [.ofDigits [0, 0, 0], .ofDigits [1, 0, 0]]

/-- Does the choice of construction change the quantity that is inferred? The
topic is not manipulated. -/
def swarmConstructionMeaning : Design where
  totalTrials := 30
  experimentalTrials := 18
  kind := .swarm .topic .constructionMeaning [.ofDigits [0, 0], .ofDigits [0, 1]]
  fillers := .balanced "empty" "full" .prompted

/-- Which construction continues a topic? -/
def swarmTopicality : Design where
  totalTrials := 30
  experimentalTrials := 18
  kind := .swarm .topic .topicality [.ofDigits [0, 1], .ofDigits [1, 1]]
  fillers := .completion .conjoined

/-- How acceptable is each construction? -/
def swarmAcceptability : Design where
  totalTrials := 38
  experimentalTrials := 18
  kind := .swarm .topic .acceptability [.ofDigits [0, 0], .ofDigits [0, 1]]
  fillers := .balanced "bad" "good" .acceptability

/-- Which construction continues a setup? -/
def swarmGivenness : Design where
  totalTrials := 30
  experimentalTrials := 18
  kind := .swarm (.given false) .givenness [.ofDigits [0, 1], .ofDigits [1, 1]]
  fillers := .completion .sentences

/-- Setup, critical sentence and quantity. -/
def swarmFullComprehension : Design where
  totalTrials := 30
  experimentalTrials := 18
  kind := .swarm (.given false) .fullComprehension givenBySubject
  fillers := .balanced "empty" "full" .promptedSequence

/-- How acceptable is each construction after a setup? -/
def swarmPrefixedAcceptability : Design where
  totalTrials := 38
  experimentalTrials := 18
  kind := .swarm (.given false) .prefixedAcceptability givenBySubject
  fillers := .balanced "bad" "good" .acceptability

/-- Setup, critical sentence and quantity, with clauses that do not alternate. -/
def swarmNonalternating : Design where
  totalTrials := 30
  experimentalTrials := 18
  kind := .swarm (.given true) .fullComprehension
    (givenBySubject ++ [.ofDigits [0, 2], .ofDigits [1, 2]])
  fillers := .balanced "empty" "full" .promptedSequence

/-- How full or covered is the location? -/
def sprayLoadConstructionMeaning : Design where
  totalTrials := 32
  experimentalTrials := 20
  kind := .sprayLoad (.constructionMeaning false) objectChoice
  fillers := .balanced "empty" "full" .slider

/-- Which object goes with which weights? The object is the response, so its slot
stays unset. -/
def sprayLoadWeight : Design where
  totalTrials := 32
  experimentalTrials := 20
  kind := .sprayLoad .weight
    [⟨[none, some 0, some 0]⟩, ⟨[none, some 1, some 0]⟩, ⟨[none, some 0, some 1]⟩]
  fillers := .options

/-- How full or covered is the location, by pictures where there are some? -/
def sprayLoadImages : Design where
  totalTrials := 32
  experimentalTrials := 20
  kind := .sprayLoad (.constructionMeaning true) objectChoice
  fillers := .balanced "empty" "full" .slider
  leadMeasure := some .forcedChoiceImages

/-- The standard experiments with their names. -/
def standard : List (String × Design) :=
  [("00_comprehension_swarm-construction-meaning", swarmConstructionMeaning),
   ("01_production_swarm-topicality", swarmTopicality),
   ("02_acceptability_swarm", swarmAcceptability),
   ("03_production_swarm-givenness", swarmGivenness),
   ("04_comprehension_swarm-full", swarmFullComprehension),
   ("05_comprehension_spray-load-construction-meaning", sprayLoadConstructionMeaning),
   ("06_production_spray-load-weight", sprayLoadWeight),
   ("07_comprehension_spray-load-construction-meaning-with-images", sprayLoadImages),
   ("08_acceptability_swarm-withprefix", swarmPrefixedAcceptability),
   ("09_comprehension_swarm-full-nonalternating-control", swarmNonalternating)]

end Design

/-! ## Registries -/

/-- Designs by name. -/
structure Registry where
  designs : Table Design

namespace Registry

/-- The registry without experiments. -/
def empty : Registry := ⟨.empty⟩

/-- The registry of these experiments, registered one by one. -/
def ofList (designs : List (String × Design)) : Registry := ⟨.ofList designs⟩

/-- The registry of the standard experiments. -/
def standard : Registry := ofList Design.standard

instance : Inhabited Registry := ⟨standard⟩

/-- Registers a design, in place of any other of that name. -/
def register (r : Registry) (name : String) (design : Design) : Registry :=
  ⟨r.designs.insert name design⟩

/-- The name is registered. -/
def contains (r : Registry) (name : String) : Bool := r.designs.contains name

/-- The experiment of a name. -/
def create? (r : Registry) (name : String) : Option Experiment :=
  (r.designs.get? name).map (·.named name)

/-- The registered names, sorted. -/
def names (r : Registry) : List String := r.designs.keys.mergeSort fun a b => decide (a ≤ b)

/-- The number of registered names. -/
def size (r : Registry) : Nat := r.designs.size

end Registry
end Alternation
