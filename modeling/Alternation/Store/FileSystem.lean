/-
# File systems

`SPEC_FULL` §6: the files behind the Materials Store, `<root>/<id>.json`.

What the library needs of a file system is to read a file and to list a
directory, either of which may fail. `FileTree.fileSystem` is the file system
with a given tree of directories as its working directory; `FileTree.write` and
`FileTree.makeDirectory` build one path by path. The tree hangs somewhere
below the root directory: a path may lead out of it, by `..` or from a leading `/`,
to directories of which no entry is known. Names and paths are as long as systems
let them be: a name takes at most 255 bytes, and a path fewer than 4096.

A file may hold a document that cannot be read; `Complaints` words what is wrong with it.
-/

namespace Alternation

/-- Why reading a file or listing a directory failed. -/
inductive OsError where
  | noSuchFile
  | notADirectory
  | isADirectory
  | nameTooLong
  | nulInPath
  | invalidUtf8
  | other (text : String)
deriving DecidableEq, Repr

/-- The cause in the system's words. -/
def OsError.message : OsError → String
  | noSuchFile => "No such file or directory (os error 2)"
  | notADirectory => "Not a directory (os error 20)"
  | isADirectory => "Is a directory (os error 21)"
  | nameTooLong => "File name too long (os error 36)"
  | nulInPath => "file name contained an unexpected NUL byte"
  | invalidUtf8 => "stream did not contain valid UTF-8"
  | other text => text

/-- Files to read and directories to list, by path. -/
structure FileSystem where
  read : String → Except OsError ByteArray
  list : String → Except OsError (List String)

/-- The text of a file. -/
def FileSystem.readText (files : FileSystem) (path : String) : Except OsError String :=
  match files.read path with
  | .ok bytes =>
    match String.fromUTF8? bytes with
    | some text => .ok text
    | none => .error .invalidUtf8
  | .error cause => .error cause

/-- The file system of the files that were read, by path, with what reading each
came to; no directory can be listed. -/
def FileSystem.ofReads (reads : List (String × Except OsError ByteArray)) : FileSystem where
  read path := (reads.lookup path).getD (.error .noSuchFile)
  list _ := .error .noSuchFile

/-! ## Documents that cannot be read -/

/-- What the readers of documents say is wrong with a text that they cannot read. Which texts
these are is settled here; the wording is theirs, and may be any. -/
class Complaints where
  /-- Of a text that is no materials set. -/
  materials : String → String
  /-- Of a text that is no name corpus. -/
  names : String → String
  /-- Of a text that is no server configuration. -/
  config : String → String

/-- Readers that say nothing. -/
@[reducible] def Complaints.silent : Complaints := ⟨fun _ => "", fun _ => "", fun _ => ""⟩

/-! ## Paths -/

/-- The path of a file in a directory; a relative one if the directory is `""`. -/
def joinPath (directory file : String) : String :=
  if directory = "" then file
  else if directory.toList.getLast? = some '/' then directory ++ file
  else directory ++ "/" ++ file

/-- The parts of a text between the characters `sep`. -/
def splitAtChar (sep : Char) : List Char → List (List Char)
  | [] => [[]]
  | c :: rest =>
    if c = sep then [] :: splitAtChar sep rest
    else
      match splitAtChar sep rest with
      | [] => [[c]]
      | part :: parts => (c :: part) :: parts

/-- The parts of a string between the characters `sep`. -/
def splitString (sep : Char) (s : String) : List String :=
  (splitAtChar sep s.toList).map String.ofList

/-! ## Trees -/

/-- A file with its content, or a directory with its entries. -/
inductive FileTree where
  | file (content : ByteArray)
  | directory (entries : List (String × FileTree))

namespace FileTree

instance : Inhabited FileTree := ⟨.directory []⟩

/-- The bytes that a name has at most. -/
def nameLimit : Nat := 255

/-- The bytes that a path has at most. -/
def pathLimit : Nat := 4095

/-- A directory outside the tree, of which no entry is known. -/
def outside : FileTree := .directory []

/-- What a path's components lead to, from `here`; `above` holds the directories
around it, the nearest first, and beyond them all are outside. An empty component,
as at the end of `a/`, stands for the directory it is in. -/
def walk (above : List FileTree) (here : FileTree) : List String → Except OsError FileTree
  | [] => .ok here
  | component :: rest =>
    match here with
    | .file _ => .error .notADirectory
    | .directory entries =>
      if component = "" ∨ component = "." then walk above here rest
      else if component = ".." then walk above.tail (above.headD outside) rest
      else
        match entries.lookup component with
        | some next => walk (here :: above) next rest
        | none => .error (if nameLimit < component.utf8ByteSize then .nameTooLong else .noSuchFile)

/-- What a path leads to: a relative one from the tree, one with a leading `/` from
the root directory, which is outside. -/
def find (tree : FileTree) (path : String) : Except OsError FileTree :=
  if '\x00' ∈ path.toList then .error .nulInPath
  else if pathLimit < path.utf8ByteSize then .error .nameTooLong
  else if path = "" then .error .noSuchFile
  else walk [] (if path.toList.head? = some '/' then outside else tree) (splitString '/' path)

/-- The content of the file at a path. -/
def read (tree : FileTree) (path : String) : Except OsError ByteArray :=
  match tree.find path with
  | .ok (.file content) => .ok content
  | .ok (.directory _) => .error .isADirectory
  | .error cause => .error cause

/-- The names in the directory at a path. -/
def list (tree : FileTree) (path : String) : Except OsError (List String) :=
  match tree.find path with
  | .ok (.file _) => .error .notADirectory
  | .ok (.directory entries) => .ok (entries.map Prod.fst)
  | .error cause => .error cause

/-- The file system whose working directory is the tree. -/
def fileSystem (tree : FileTree) : FileSystem := ⟨tree.read, tree.list⟩

/-- The entries of a directory; a file has none. -/
def entries : FileTree → List (String × FileTree)
  | .file _ => []
  | .directory entries => entries

/-- The tree changed where names lead that are taken one inside the other; the
directories on the way are made. -/
def change (f : FileTree → FileTree) : List String → FileTree → FileTree
  | [], tree => f tree
  | name :: rest, tree =>
    let next := change f rest ((tree.entries.lookup name).getD (.directory []))
    .directory (tree.entries.filter (·.1 != name) ++ [(name, next)])

/-- The tree changed where a path's components lead from the directory of `names`,
the innermost first. A directory that `..` leads out of is made like any other on
the way. What lies outside the tree does not change it. -/
def changeFrom (f : FileTree → FileTree) (names : List String) :
    List String → FileTree → FileTree
  | [], tree => tree.change f names.reverse
  | component :: rest, tree =>
    if component = "" ∨ component = "." then changeFrom f names rest tree
    else if component = ".." then
      match names with
      | [] => tree
      | _ :: around => changeFrom f around rest (tree.change id names.reverse)
    else changeFrom f (component :: names) rest tree

/-- The tree with a file at a relative path. -/
def write (tree : FileTree) (path : String) (content : ByteArray) : FileTree :=
  changeFrom (fun _ => .file content) [] (splitString '/' path) tree

/-- The tree with a directory at a relative path; one that is there keeps its entries. -/
def makeDirectory (tree : FileTree) (path : String) : FileTree :=
  changeFrom id [] (splitString '/' path) tree

end FileTree
end Alternation
