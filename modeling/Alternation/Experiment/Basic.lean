/-
# Experiments

`SPEC_FULL` §4.6, trial builders and Trial Set Assembler: `Experiment`,
`build_experimental_trials`, `assemble_trial_set`.

An experiment pairs a kind of experimental trials with a kind of fillers and says
how many trials a session has. `Design` is an experiment without its name.

* `Experiment.renderExperimental` draws items and conditions and renders a trial
  for each pair.
* `Experiment.assemble` adds the fillers, shuffles, and moves the lead trial to
  the front.
-/

import Alternation.Experiment.Filler
import Alternation.Experiment.SprayLoad
import Alternation.Experiment.Swarm
import Alternation.Materials.Usable

namespace Alternation

/-- A kind of experimental trials, with the conditions to draw from. -/
inductive TrialKind where
  | swarm (frame : Swarm.Frame) (task : Swarm.Task) (space : List Condition)
  | sprayLoad (task : SprayLoad.Task) (space : List Condition)
deriving DecidableEq, Repr

namespace TrialKind

/-- The fields that an item must have filled. -/
def requiredFields : TrialKind → List String
  | swarm frame _ _ => Swarm.requiredFields frame
  | sprayLoad _ _ => SprayLoad.requiredFields

/-- The fields that an item must have at all. -/
def flagFields : TrialKind → List String
  | swarm _ _ _ => Swarm.flagFields
  | sprayLoad _ _ => SprayLoad.flagFields

/-- The conditions to draw from. -/
def space : TrialKind → List Condition
  | swarm _ _ space => space
  | sprayLoad _ space => space

/-- Renders a trial. -/
def build {σ : Type} [RandomSource σ] (corpus : NameCorpus) (kind : TrialKind) (item : Item)
    (condition : Condition) (materialsId : String) : Rendering σ Trial :=
  match kind with
  | swarm frame task _ => Swarm.build corpus frame task item condition materialsId
  | sprayLoad task _ => SprayLoad.build corpus task item condition materialsId

/-- The items of a set that can be used. -/
def usable (kind : TrialKind) (set : MaterialsSet) : List Item :=
  usableItems set.items kind.requiredFields kind.flagFields

end TrialKind

/-- An experiment without its name. -/
structure Design where
  totalTrials : Nat
  experimentalTrials : Nat
  kind : TrialKind
  fillers : Fillers
  /-- The measure of the trial that comes first, where there is one. -/
  leadMeasure : Option Measure := none
deriving DecidableEq, Repr

/-- An experiment. -/
structure Experiment extends Design where
  name : String
deriving DecidableEq, Repr

/-- The experiment of a design. -/
def Design.named (design : Design) (name : String) : Experiment := { design with name }

/-- The number of fillers. -/
def Design.fillerTrials (design : Design) : Nat := design.totalTrials - design.experimentalTrials

/-- The first trial that is no filler and uses the measure comes to the front. -/
def leadFirst (measure : Option Measure) (trials : List Trial) : List Trial :=
  match measure with
  | none => trials
  | some m =>
    match trials.findIdx? fun t => !t.isFiller && t.presentation.measure == some m with
    | some i => (trials[i]?).toList ++ trials.eraseIdx i
    | none => trials

namespace Experiment

variable {σ : Type} [RandomSource σ] (corpus : NameCorpus) (e : Experiment)

/-- Draws usable items and a condition for each, and renders them. -/
def renderExperimental (set : MaterialsSet) : Drawing σ (List Trial) := do
  let items ← sampleItems (e.kind.usable set) e.experimentalTrials set.name
  let conditions ← sampleConditions e.kind.space items.length
  (items.zip conditions).mapM fun p => (e.kind.build corpus p.1 p.2 set.name).fresh

/-- Renders the trial set of one session. -/
def assemble (materials : MaterialsBundle) (materialsId : String) : Drawing σ TrialSet := do
  let experimental ← e.renderExperimental corpus materials.experimental
  let fillers ← e.fillers.build corpus materials.fillers e.fillerTrials
  let shuffled ← ExceptT.lift (Random.shuffle (experimental ++ fillers))
  return {
    experiment := e.name
    materialsId
    trials := leadFirst e.leadMeasure shuffled }

end Experiment
end Alternation
