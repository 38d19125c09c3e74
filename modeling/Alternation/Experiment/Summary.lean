/-
# Summaries

`SPEC_FULL` §10.2: the debug texts of `Experiment` and `ExperimentRegistry`.

One-line summaries of experiments and registries, for logs.
-/

import Alternation.Experiment.Registry
import Alternation.Text.Quoted

namespace Alternation

/-- The measure as summaries name it. -/
def Measure.summary : Measure → String
  | slider => "Slider"
  | forcedChoiceImages => "ForcedChoiceImages"

/-- The experiment's name, counts and lead measure. -/
def Experiment.summary (e : Experiment) : String :=
  "Experiment \x7b name: " ++ Text.quoted e.name ++
    ", total_trials: " ++ toString e.totalTrials ++
    ", experimental_trials: " ++ toString e.experimentalTrials ++
    ", lead_measure: " ++
      e.leadMeasure.elim "None" (fun m => "Some(" ++ m.summary ++ ")") ++
    ", .. \x7d"

/-- The registered names. -/
def Registry.summary (r : Registry) : String :=
  "\x7b" ++ ", ".intercalate (r.names.map Text.quoted) ++ "\x7d"

end Alternation
