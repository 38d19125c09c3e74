/-
# Preview

`README`, *Running*: the preview and its `print_listing`.

Renders a trial set from the files of a store and prints it:

    preview <experiment> --materials <experimental>,<fillers>
            [--materials-dir <dir>] [--seed <n>] [--names <file>] [--text]
    preview --list

With `--text` it prints a listing, and otherwise JSON.
-/

import Alternation.Engine
import Alternation.Tool.Options
import Alternation.Trial.Json

namespace Alternation
namespace Tool
namespace Preview

/-- How the tool is called. -/
def usage : String :=
  "usage: preview <experiment> --materials <experimental>,<fillers> [--materials-dir <dir>] " ++
    "[--seed <n>] [--names <file>] [--text] | preview --list"

/-- The tool's options. -/
def options : Options where
  valued := ["materials", "materials-dir", "seed", "names"]
  plain := ["text", "list"]

/-- What is to be done. -/
structure Settings where
  experiment : Option String
  materials : Option String
  materialsDir : String
  seed : Option UInt64
  names : Option String
  text : Bool
  list : Bool
deriving DecidableEq, Repr

/-- The settings of a command line. -/
def Settings.ofArguments? (args : Arguments) : Option Settings := do
  let seed ←
    match args.value? "seed" with
    | some text => (unsigned64? text).map some
    | none => some none
  let experiment ←
    match args.positional with
    | [] => some none
    | [experiment] => some (some experiment)
    | _ => none
  let materialsDir ← path? ((args.value? "materials-dir").getD "materials")
  return {
    experiment
    materials := args.value? "materials"
    materialsDir
    seed
    names := args.value? "names"
    text := args.has "text"
    list := args.has "list" }

/-! ## Listings -/

/-- A number, a blank in front of a single digit. -/
def padded (n : Nat) : String := (if n < 10 then " " else "") ++ toString n

/-- The lines of a trial. -/
def trialLines (index : Nat) (t : Trial) : List String :=
  ["", "[" ++ padded index ++ "] item " ++ t.itemId.display ++ " " ++ t.conditionId.display] ++
    t.sentenceTexts.map ("     " ++ ·) ++
    (t.presentation.prompt.map ("   ? " ++ ·)).toList ++
    (t.presentation.sliderLabels.map fun l => "   | " ++ l.1 ++ " .. " ++ l.2).toList

/-- The lines of a trial set. -/
def listing (set : TrialSet) : List String :=
  ("=== " ++ set.experiment ++ " [" ++ set.materialsId ++ "]: " ++ toString set.trials.length ++
      " trials ===") ::
    (set.trials.zipIdx.flatMap fun p => trialLines p.2 p.1)

/-! ## Running -/

/-- The engine of these settings; `entropy` is its seed if they name none. -/
def engineOf [Complaints] (files : FileSystem) (settings : Settings) (entropy : UInt64) :
    Except EngineError Engine := do
  let names ←
    match settings.names with
    | some path => (NameCorpus.load files path).mapError .names
    | none => .ok .builtin
  return .ofSeed .standard names (settings.seed.getD entropy)

/-- The files that a run may read: the names, and the materials sets. -/
def Settings.paths (settings : Settings) : List String :=
  settings.names.toList ++
    (MaterialsId.split (settings.materials.getD "")).filterMap fun id =>
      (MaterialsStore.pathFor ⟨settings.materialsDir⟩ id).toOption

/-- Prints a trial set. -/
def printed (settings : Settings) (set : TrialSet) : Outcome :=
  ⟨0, lines (if settings.text then listing set else [set.toJson.pretty]), ""⟩

/-- Does what the settings say. -/
def runSettings [Complaints] (files : FileSystem) (settings : Settings) (entropy : UInt64) : Outcome :=
  match engineOf files settings entropy with
  | .error error => failure 1 ("ERROR: " ++ error.message)
  | .ok engine =>
    if settings.list then ⟨0, lines engine.registry.names, ""⟩
    else
      match settings.experiment with
      | none => failure 2 "ERROR: no experiment given (use --list to see them)"
      | some experiment =>
        match ((Engine.fromStore files ⟨settings.materialsDir⟩ experiment settings.materials).run
            engine).1 with
        | .error error => failure 1 ("ERROR: " ++ error.message)
        | .ok set => printed settings set

/-- The settings of a command line, if it has any. -/
def settings? (args : List String) : Option Settings :=
  (parseArguments options args).bind Settings.ofArguments?

/-- The files that a run on a command line may read. -/
def paths (args : List String) : List String := ((settings? args).map Settings.paths).getD []

/-- Runs the tool. -/
def run [Complaints] (files : FileSystem) (args : List String) (entropy : UInt64) : Outcome :=
  match settings? args with
  | some settings => runSettings files settings entropy
  | none => failure 2 usage

end Preview
end Tool
end Alternation
