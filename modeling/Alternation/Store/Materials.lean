/-
# The materials store

`SPEC_FULL` §6, Materials Store: `validate_id`, `parse_materials_ids` and
`MaterialsStore` (`path_for`, `load`, `list`), with `StoreError` of §7.

Materials sets are JSON files in one directory, addressed by identifiers. An
identifier consists of ASCII letters, digits, `-`, `_` and `.`, is not empty and
has no two dots in a row, so that its file lies in the directory itself.

* `MaterialsStore.load` reads the set of an identifier.
* `MaterialsStore.list` lists the identifiers of the directory's files, sorted.
* `MaterialsId.split` takes a list of identifiers apart at its commas.
-/

import Alternation.Materials.Item
import Alternation.Store.FileSystem
import Alternation.Text.Blank

namespace Alternation

/-- Why a materials set could not be loaded, or the sets not be listed. -/
inductive StoreError where
  | invalidIdentifier (id : String)
  | notFound (id : String)
  | io (id : String) (cause : OsError)
  | malformed (id cause : String)
deriving DecidableEq, Repr

/-- The error in words. -/
def StoreError.message : StoreError → String
  | invalidIdentifier id => "invalid materials identifier '" ++ id ++ "'"
  | notFound id => "materials '" ++ id ++ "' not found"
  | io id cause => "IO error reading materials '" ++ id ++ "': " ++ cause.message
  | malformed id cause => "malformed materials '" ++ id ++ "': " ++ cause

/-! ## Identifiers -/

namespace MaterialsId

/-- The character may stand in an identifier. -/
def isAllowed (c : Char) : Bool := c.isAlphanum || c == '-' || c == '_' || c == '.'

/-- Two dots stand in a row. -/
def hasDoubleDot : List Char → Bool
  | [] => false
  | [_] => false
  | a :: b :: rest => (a == '.' && b == '.') || hasDoubleDot (b :: rest)

/-- The text is an identifier. -/
def isValid (id : String) : Bool :=
  id != "" && !hasDoubleDot id.toList && id.toList.all isAllowed

/-- Fails unless the text is an identifier. -/
def validate (id : String) : Except StoreError Unit :=
  if isValid id then .ok () else .error (.invalidIdentifier id)

/-- The entries of a list separated by commas, trimmed, blank ones left out. -/
def split (list : String) : List String :=
  ((splitString ',' list).map Text.trimmed).filter (· ≠ "")

/-- The name of the file of an identifier. -/
def fileName (id : String) : String := id ++ ".json"

/-- The parts of a file name before and after its last dot, unless that dot comes
first or there is none. -/
def splitExtension? (name : String) : Option (String × String) :=
  let reversed := name.toList.reverse
  match reversed.dropWhile (· != '.') with
  | [] => none
  | _ :: stem =>
    if stem = [] then none
    else some (String.ofList stem.reverse,
      String.ofList (reversed.takeWhile (· != '.')).reverse)

/-- The identifier whose file has this name. -/
def ofFileName? (name : String) : Option String :=
  match splitExtension? name with
  | some (stem, extension) => if extension = "json" ∧ isValid stem then some stem else none
  | none => none

end MaterialsId

/-! ## Stores -/

/-- A directory of materials sets. -/
structure MaterialsStore where
  root : String
deriving DecidableEq, Repr

namespace MaterialsStore

/-- The path of the file of an identifier. -/
def pathFor (store : MaterialsStore) (id : String) : Except StoreError String := do
  MaterialsId.validate id
  return joinPath store.root (MaterialsId.fileName id)

/-- The materials set of an identifier. -/
def load [Complaints] (store : MaterialsStore) (files : FileSystem) (id : String) :
    Except StoreError MaterialsSet := do
  let path ← store.pathFor id
  match files.readText path with
  | .ok source =>
    match MaterialsSet.parse? source with
    | some set => .ok set
    | none => .error (.malformed id (Complaints.materials source))
  | .error .noSuchFile => .error (.notFound id)
  | .error cause => .error (.io id cause)

/-- The identifiers of the files in the directory, sorted. -/
def list (store : MaterialsStore) (files : FileSystem) : Except StoreError (List String) :=
  match files.list store.root with
  | .ok names =>
    .ok ((names.filterMap MaterialsId.ofFileName?).mergeSort fun a b => decide (a ≤ b))
  | .error cause => .error (.io store.root cause)

end MaterialsStore
end Alternation
