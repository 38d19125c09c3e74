/-
# Lint

`README`, *Running*: `lint_items`, `dry_run` and the report of the materials linter.

Checks a materials file against the requirements of an experiment:

    lint <experiment> <materials.json> [--fillers <fillers.json>]

It reports the items that the experiment cannot use, and whether the others are
enough. With fillers it also renders one trial set, of seed nought, so that
malformed fields and short filler pools show up.
-/

import Alternation.Engine
import Alternation.Tool.Options

namespace Alternation
namespace Tool
namespace Lint

/-- How the tool is called. -/
def usage : String := "usage: lint <experiment> <materials.json> [--fillers <fillers.json>]"

/-- The tool's options. -/
def options : Options where
  valued := ["fillers"]
  plain := []

/-! ## Findings -/

/-- The number of usable items, and the labels of the others with the reasons. -/
structure Findings where
  usable : Nat
  dropped : List (String × List DropReason)
deriving DecidableEq, Repr

/-- The identifier of an item, or its position in the file. -/
def labelOf (item : Item) (index : Nat) : String :=
  (item.id?.map Value.display).getD ("#" ++ toString index)

/-- The label of an item and the reasons not to use it, if there are any. -/
def droppedRow? (required flags : List String) (entry : Item × Nat) :
    Option (String × List DropReason) :=
  match entry.1.dropReasons required flags with
  | [] => none
  | reasons => some (labelOf entry.1 entry.2, reasons)

/-- What is found in a list of items. -/
def findings (items : List Item) (required flags : List String) : Findings where
  usable := items.countP fun item => (item.dropReasons required flags).isEmpty
  dropped := items.zipIdx.filterMap (droppedRow? required flags)

/-- How many items are missing, if any are. -/
def shortage? (e : Experiment) (found : Findings) : Option Nat :=
  if found.usable < e.experimentalTrials then some (e.experimentalTrials - found.usable) else none

/-! ## The report -/

/-- The line of an item that is not used. -/
def droppedLine (row : String × List DropReason) : String :=
  "WARNING: item " ++ row.1 ++ " dropped: " ++ "; ".intercalate (row.2.map DropReason.message)

/-- The report on a materials set. -/
def report (e : Experiment) (set : MaterialsSet) : List String :=
  let required := e.kind.requiredFields
  let flags := e.kind.flagFields
  let found := findings set.items required flags
  ["", "=== Materials Lint Report: " ++ set.name ++ " ===", "",
    "Required fields: " ++ ", ".intercalate required] ++
  (if flags = [] then [] else ["Required flags: " ++ ", ".intercalate flags]) ++
  found.dropped.map droppedLine ++
  ["", toString found.usable ++ " of " ++ toString set.items.length ++ " items usable; " ++
    e.name ++ " needs " ++ toString e.experimentalTrials] ++
  ((shortage? e found).map fun k => "ERROR: pool is " ++ toString k ++ " items short").toList

/-- The pool is too small. -/
def isShort (e : Experiment) (set : MaterialsSet) : Bool :=
  (shortage? e (findings set.items e.kind.requiredFields e.kind.flagFields)).isSome

/-- The trial set of the dry run. -/
def dryRun (e : Experiment) (materials : MaterialsBundle) : Except EngineError TrialSet :=
  ((Engine.render e materials (materials.experimental.name ++ "," ++ materials.fillers.name)).run
    (Engine.ofSeed .standard .builtin 0)).1

/-- The report on the dry run, and whether it failed. -/
def dryRunReport (e : Experiment) (materials : MaterialsBundle) : String × Bool :=
  match dryRun e materials with
  | .ok set =>
    ("Dry run rendered " ++ toString set.trials.length ++ " trials (" ++
      toString (set.trials.countP Trial.isFiller) ++ " fillers)", false)
  | .error error => ("ERROR: dry run failed: " ++ error.message, true)

/-! ## Running -/

/-- The set in a file, or what is wrong with the file. -/
def loadSet [Complaints] (files : FileSystem) (path : String) : Except String MaterialsSet :=
  match files.readText path with
  | .ok source =>
    match MaterialsSet.parse? source with
    | some set => .ok set
    | none => .error ("ERROR: Failed to parse " ++ path ++ ": " ++ Complaints.materials source)
  | .error cause => .error ("ERROR: Failed to read " ++ path ++ ": " ++ cause.message)

/-- The end of a run: what was reported, and whether anything was wrong. -/
def conclude (reported : List String) (faulty : Bool) : Outcome :=
  if faulty then ⟨1, lines reported, ""⟩
  else ⟨0, lines (reported ++ ["", "All checks passed!"]), ""⟩

/-- Checks a set, and with fillers renders one trial set. -/
def check [Complaints] (files : FileSystem) (e : Experiment) (set : MaterialsSet) (fillers : Option String) :
    Outcome :=
  match fillers with
  | none => conclude (report e set) (isShort e set)
  | some path =>
    match loadSet files path with
    | .error message => ⟨1, lines (report e set), lines [message]⟩
    | .ok fillers =>
      let (line, failed) := dryRunReport e ⟨set, fillers⟩
      conclude (report e set ++ [line]) (isShort e set || failed)

/-- What is to be checked. -/
structure Settings where
  experiment : String
  materials : String
  fillers : Option String
deriving DecidableEq, Repr

/-- The settings of a command line taken apart. -/
def Settings.ofArguments? (args : Arguments) : Option Settings :=
  match args.positional with
  | [experiment, materials] => do
    let materials ← path? materials
    let fillers ← (args.value? "fillers").mapM path?
    return { experiment, materials, fillers }
  | _ => none

/-- The settings of a command line, if it has any. -/
def settings? (args : List String) : Option Settings :=
  (parseArguments options args).bind Settings.ofArguments?

/-- The files that a run on a command line may read. -/
def paths (args : List String) : List String :=
  match settings? args with
  | some settings => settings.materials :: settings.fillers.toList
  | none => []

/-- Checks what the settings say. -/
def runSettings [Complaints] (files : FileSystem) (settings : Settings) : Outcome :=
  match Registry.standard.create? settings.experiment with
  | none =>
    ⟨1, "", lines ["ERROR: unknown experiment '" ++ settings.experiment ++ "'",
      "Known experiments: " ++ ", ".intercalate Registry.standard.names]⟩
  | some e =>
    match loadSet files settings.materials with
    | .error message => failure 1 message
    | .ok set => check files e set settings.fillers

/-- Runs the tool. -/
def run [Complaints] (files : FileSystem) (args : List String) : Outcome :=
  match settings? args with
  | some settings => runSettings files settings
  | none => failure 2 usage

end Lint
end Tool
end Alternation
