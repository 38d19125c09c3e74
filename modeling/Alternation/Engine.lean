/-
# The engine

`SPEC_FULL` §5 and §6: `StimulusEngine` (`get_trials`, `render`,
`get_trials_from_store`, `next_rng`) and `TrialRequest` (`materials_ids`).

An engine renders trial sets, one stream of random draws for each: render number
`n` draws from the stream of its seed plus `n`, counted from nought and taken
modulo `2 ^ 64`. A render counts as soon as its materials are there, whether it
succeeds or not; a request that is refused before does not count.

`Engine.fromStore` checks a request in this order: the experiment's name, the
materials parameter, each identifier, and then the two files.
-/

import Alternation.Experiment.Registry
import Alternation.Random.Stream
import Alternation.Store.Materials

namespace Alternation

/-- Why there is no trial set. -/
inductive EngineError where
  | render (error : RenderError)
  | store (error : StoreError)
  | names (error : NameError)
  | unknownExperiment (name : String)
  | missingMaterials
  | materialsCount (found : Nat)

/-- The error in words. -/
def EngineError.message : EngineError → String
  | render error => "render error: " ++ error.message
  | store error => error.message
  | names error => "name corpus error: " ++ error.message
  | unknownExperiment name => "unknown experiment '" ++ name ++ "'"
  | missingMaterials => "missing required parameter 'materials'"
  | materialsCount found =>
    "expected 2 materials identifiers, got " ++ toString found

/-! ## Requests -/

/-- The two identifiers that a materials parameter lists: those of the
experimental set and of the fillers. -/
def materialsIds (parameter : Option String) : Except EngineError (String × String) :=
  match parameter with
  | none => .error .missingMaterials
  | some list =>
    match MaterialsId.split list with
    | [] => .error .missingMaterials
    | [experimental, fillers] => .ok (experimental, fillers)
    | ids => .error (.materialsCount ids.length)

/-- The outcome of a store's work, as the engine reports it. -/
def ofStore {α : Type} (result : Except StoreError α) : Except EngineError α :=
  result.mapError .store

/-! ## Engines -/

/-- Where trial sets are rendered. -/
structure Engine where
  registry : Registry
  names : NameCorpus
  seed : UInt64
  /-- The number of renders so far. -/
  renderCount : Nat

namespace Engine

/-- A fresh engine. -/
def ofSeed (registry : Registry) (names : NameCorpus) (seed : UInt64) : Engine :=
  ⟨registry, names, seed, 0⟩

/-- The stream of the next render. -/
def stream (engine : Engine) : Random.Stream :=
  .ofSeed (engine.seed + UInt64.ofNat engine.renderCount)

/-- The engine after one more render. -/
def advance (engine : Engine) : Engine := { engine with renderCount := engine.renderCount + 1 }

/-- The trial set of the next render. -/
def rendered (engine : Engine) (e : Experiment) (materials : MaterialsBundle)
    (materialsId : String) : Except EngineError TrialSet :=
  ((e.assemble engine.names materials materialsId).run engine.stream).1.mapError .render

/-- The experiment of a name. -/
def experiment (engine : Engine) (name : String) : Except EngineError Experiment :=
  match engine.registry.create? name with
  | some e => .ok e
  | none => .error (.unknownExperiment name)

/-- Everything that a request needs before it is rendered. -/
def prepare [Complaints] (engine : Engine) (files : FileSystem) (store : MaterialsStore) (name : String)
    (parameter : Option String) : Except EngineError (Experiment × MaterialsBundle × String) := do
  let e ← engine.experiment name
  let (experimentalId, fillersId) ← materialsIds parameter
  ofStore (MaterialsId.validate experimentalId)
  ofStore (MaterialsId.validate fillersId)
  let experimental ← ofStore (store.load files experimentalId)
  let fillers ← ofStore (store.load files fillersId)
  return (e, ⟨experimental, fillers⟩, experimentalId ++ "," ++ fillersId)

/-- Renders an experiment that need not be registered. -/
def render (e : Experiment) (materials : MaterialsBundle) (materialsId : String) :
    ExceptT EngineError (StateM Engine) TrialSet :=
  ExceptT.mk fun engine => (engine.rendered e materials materialsId, engine.advance)

/-- Renders a registered experiment. -/
def trials (name : String) (materials : MaterialsBundle) (materialsId : String) :
    ExceptT EngineError (StateM Engine) TrialSet := do
  let e ← ExceptT.mk fun engine => (engine.experiment name, engine)
  render e materials materialsId

/-- Renders a registered experiment with the materials sets of a store. -/
def fromStore [Complaints] (files : FileSystem) (store : MaterialsStore) (name : String)
    (parameter : Option String) : ExceptT EngineError (StateM Engine) TrialSet := do
  let (e, materials, materialsId) ←
    ExceptT.mk fun engine => (engine.prepare files store name parameter, engine)
  render e materials materialsId

end Engine
end Alternation
