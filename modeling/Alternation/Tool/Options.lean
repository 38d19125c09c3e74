/-
# Command lines

`README`, *Running*: the arguments of the two tools.

A command line holds positional arguments and options. An option that takes a
value is written `--name value` or `--name=value`; after `--` everything is
positional. No option may be given twice.
-/

namespace Alternation
namespace Tool

/-- What a run of a tool leaves behind. -/
structure Outcome where
  code : Nat
  stdout : String
  stderr : String
deriving DecidableEq, Repr

/-- Lines with their ends. -/
def lines (ls : List String) : String := String.join (ls.map (· ++ "\n"))

/-- The outcome of a run that failed with a message. -/
def failure (code : Nat) (message : String) : Outcome := ⟨code, "", lines [message]⟩

/-- The options that a tool has: those with a value, and those without. -/
structure Options where
  valued : List String
  plain : List String
deriving DecidableEq, Repr

/-- A command line taken apart. -/
structure Arguments where
  positional : List String
  values : List (String × String)
  flags : List String
deriving DecidableEq, Repr

namespace Arguments

/-- The command line without arguments. -/
def empty : Arguments := ⟨[], [], []⟩

/-- The value of an option. -/
def value? (args : Arguments) (name : String) : Option String := args.values.lookup name

/-- The option is given. -/
def has (args : Arguments) (name : String) : Bool := args.flags.contains name

/-- One more positional argument in front. -/
def addPositional (args : Arguments) (arg : String) : Arguments :=
  { args with positional := arg :: args.positional }

/-- One more option with a value, unless it is there already. -/
def addValue? (args : Arguments) (name value : String) : Option Arguments :=
  if (args.value? name).isSome then none
  else some { args with values := (name, value) :: args.values }

/-- One more option without a value, unless it is there already. -/
def addFlag? (args : Arguments) (name : String) : Option Arguments :=
  if args.has name then none else some { args with flags := name :: args.flags }

end Arguments

/-- The argument is an option, or the mark that ends the options. -/
def isOption (arg : String) : Bool :=
  match arg.toList with
  | '-' :: _ :: _ => true
  | _ => false

/-- The name of an option, and its value if it is written with `=`. -/
def splitOption (arg : String) : String × Option String :=
  let cs := arg.toList.drop 2
  match cs.dropWhile (· != '=') with
  | [] => (String.ofList cs, none)
  | _ :: rest => (String.ofList (cs.takeWhile (· != '=')), some (String.ofList rest))

/-- Takes a command line apart; `none` if an option is unknown, given twice, or
lacks its value. -/
def parseArguments (options : Options) : List String → Option Arguments
  | [] => some .empty
  | "--" :: rest => some { Arguments.empty with positional := rest }
  | arg :: rest =>
    if !isOption arg then (parseArguments options rest).map (·.addPositional arg)
    else if arg.toList.take 2 ≠ ['-', '-'] then none
    else
      let (name, value) := splitOption arg
      if name ∈ options.valued then
        match value, rest with
        | some value, rest => (parseArguments options rest).bind (·.addValue? name value)
        | none, value :: rest =>
          if isOption value then none
          else (parseArguments options rest).bind (·.addValue? name value)
        | none, [] => none
      else if name ∈ options.plain ∧ value = none then
        (parseArguments options rest).bind (·.addFlag? name)
      else none

/-- The path that an argument names; no path is empty. -/
def path? (text : String) : Option String := if text = "" then none else some text

/-- The unsigned 64-bit number that a text writes in decimal digits. -/
def unsigned64? (text : String) : Option UInt64 :=
  let ds :=
    match text.toList with
    | '+' :: rest => rest
    | ds => ds
  if ds = [] ∨ !ds.all Char.isDigit then none
  else
    let n := ds.foldl (fun n d => 10 * n + (d.toNat - 48)) 0
    if n < UInt64.size then some (UInt64.ofNat n) else none

end Tool
end Alternation
