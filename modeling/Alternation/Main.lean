/-
# The command line

`README`, *Running*: the two tools that are run from the command line.

    alternation preview ...
    alternation lint ...

Reads the files that the tool may need, runs it on them, and prints what it leaves
behind.
-/

import Alternation.Tool.Lint
import Alternation.Tool.Preview

namespace Alternation

/-- The number of a system error; some calls report its negative. -/
def systemCode (code : UInt32) : Nat :=
  if code < 0x80000000 then code.toNat else (-code).toNat

/-- The cause of a failure to read a file. -/
def OsError.ofSystem : IO.Error → OsError
  | .noFileOrDirectory _ _ _ => .noSuchFile
  | .inappropriateType _ code details => ofCode code details
  | .invalidArgument _ code details => ofCode code details
  | error => .other (toString error)
where
  /-- The cause with a number. -/
  ofCode (code : UInt32) (details : String) : OsError :=
    match systemCode code with
    | 20 => .notADirectory
    | 21 => .isADirectory
    | 36 => .nameTooLong
    | _ => .other details

/-- Reads a file. -/
def readPath (path : String) : IO (Except OsError ByteArray) := do
  return (← (IO.FS.readBinFile path).toBaseIO).mapError OsError.ofSystem

/-- Reads some files. -/
def readPaths (paths : List String) : IO FileSystem := do
  return .ofReads (← paths.mapM fun path => return (path, ← readPath path))

/-- Prints what a run leaves behind. -/
def report (outcome : Tool.Outcome) : IO UInt32 := do
  IO.print outcome.stdout
  IO.eprint outcome.stderr
  return UInt32.ofNat outcome.code

/-- A seed that nobody chose. -/
def entropy : IO UInt64 := do
  return UInt64.ofNat (← IO.rand 0 (UInt64.size - 1))

/-- How the program is called. -/
def usage : String := Tool.Preview.usage ++ "\n" ++ Tool.Lint.usage

/-- Runs the tool that the first argument names on the others. -/
def runTool [Complaints] : List String → IO Tool.Outcome
  | "preview" :: args => do
    return Tool.Preview.run (← readPaths (Tool.Preview.paths args)) args (← entropy)
  | "lint" :: args => do
    return Tool.Lint.run (← readPaths (Tool.Lint.paths args)) args
  | _ => return Tool.failure 2 usage

end Alternation

/-- Runs a tool and prints what it leaves behind; what is wrong with a document is not told. -/
def main (args : List String) : IO UInt32 := do
  Alternation.report (← @Alternation.runTool .silent args)
