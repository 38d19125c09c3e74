/-
# Where a materials file lies

`SPEC_FULL` §6, Materials Store: `validate_id` and `path_for`.

A path names directories and files one inside the other (`Path.components`): an
empty component stands for nothing, and so does a `.` that does not come first.  The
file of an identifier is one component (`Path.single_fileName`), whatever dots the
identifier has, and its path is the store's root followed by that component: the
directory that it lies in is the root (`MaterialsStore.components_path`).
-/

import Alternation.Proofs.Text.Splitting
import Alternation.Store.Materials
import Mathlib.Data.List.Basic

namespace Alternation

/-! ## Components -/

namespace Path

/-- A component that stands for something. -/
def isProper (component : String) : Bool := component != "" && component != "."

/-- The components of a path: the root directory, if the path starts with a slash,
and the names between the slashes. -/
def components (path : String) : List String :=
  match splitString '/' path with
  | [] => []
  | first :: rest =>
    (if path.toList.head? = some '/' then ["/"] else if first = "" then [] else [first]) ++
      rest.filter isProper

/-- One name, which leads to nothing but an entry of the directory that it stands in. -/
structure Single (name : String) : Prop where
  slash_not_mem : '/' ∉ name.toList
  ne_empty : name ≠ ""
  ne_here : name ≠ "."
  ne_above : name ≠ ".."

/-- A single component is a name, neither `.` nor `..` nor nothing. -/
theorem Single.isProper {name : String} (h : Single name) : isProper name = true := by
  simp [Path.isProper, h.ne_empty, h.ne_here]

/-- A single component has no slash to split at. -/
theorem Single.splitString {name : String} (h : Single name) : splitString '/' name = [name] := by
  rw [Alternation.splitString, splitAtChar_of_not_mem h.slash_not_mem]
  simp

/-- A slash between two texts separates their components. -/
theorem components_slash (front back : String) :
    components (front ++ "/" ++ back) =
      components (front ++ "/") ++ (splitString '/' back).filter isProper := by
  have hhead : (front ++ "/" ++ back).toList.head? = (front ++ "/").toList.head? := by
    cases h : front.toList <;> simp [h]
  unfold components
  rw [splitString_slash, splitString_slash_end, hhead]
  cases h : splitString '/' front with
  | nil => exact absurd (List.map_eq_nil_iff.1 h) (splitAtChar_ne_nil _ _)
  | cons first rest => simp [isProper]

/-- A slash at the end of a path stands for nothing. -/
theorem components_slash_end {path : String} (h : path ≠ "") :
    components (path ++ "/") = components path := by
  have hhead : (path ++ "/").toList.head? = path.toList.head? := by
    cases hcs : path.toList with
    | nil => exact absurd (String.toList_eq_nil_iff.1 hcs) h
    | cons c cs => simp [hcs]
  unfold components
  rw [splitString_slash_end, hhead]
  cases hs : splitString '/' path with
  | nil => exact absurd (List.map_eq_nil_iff.1 hs) (splitAtChar_ne_nil _ _)
  | cons first rest => simp [isProper]

/-- The path of a file in a directory is that of the directory, a slash if need be, and
the file's name. -/
theorem exists_toList_joinPath {directory : String} (file : String) (hne : directory ≠ "") :
    ∃ between, (joinPath directory file).toList = directory.toList ++ between ++ file.toList ∧
      ∀ c ∈ between, c = '/' := by
  unfold joinPath
  rw [if_neg hne]
  split
  · exact ⟨[], by simp, by simp⟩
  · exact ⟨['/'], by simp, by simp⟩

/-- The names along the path of a file in a directory: first those along the path of the
directory, up to an empty one at its end, and then the file's. -/
theorem exists_splitString_joinPath {directory file : String} (hne : directory ≠ "")
    (h : Single file) :
    ∃ path, Alternation.splitString '/' (joinPath directory file) = path ++ [file] ∧
      (Alternation.splitString '/' directory = path ∨
        Alternation.splitString '/' directory = path ++ [""]) := by
  unfold joinPath
  rw [if_neg hne]
  split
  · rename_i hlast
    obtain ⟨front, hfront⟩ := List.getLast?_eq_some_iff.1 hlast
    obtain rfl : directory = String.ofList front ++ "/" :=
      String.toList_inj.1 (by rw [hfront]; simp)
    exact ⟨Alternation.splitString '/' (String.ofList front),
      by rw [splitString_slash, h.splitString], .inr (splitString_slash_end _)⟩
  · exact ⟨Alternation.splitString '/' directory,
      by rw [splitString_slash, h.splitString], .inl rfl⟩

/-- **A file joined to a directory lies in it:** its path has one more component. -/
theorem components_joinPath (directory : String) {file : String} (h : Single file) :
    components (joinPath directory file) = components directory ++ [file] := by
  have hfile : (splitString '/' file).filter isProper = [file] := by
    rw [h.splitString, List.filter_singleton, h.isProper, cond_true]
  unfold joinPath
  split
  · rename_i hempty
    have hhead : file.toList.head? ≠ some '/' := fun hslash =>
      h.slash_not_mem (List.mem_of_mem_head? hslash)
    rw [hempty, components, h.splitString]
    simp only [if_neg hhead, if_neg h.ne_empty]
    rfl
  · rename_i hempty
    split
    · rename_i hlast
      -- The directory ends in a slash already.
      obtain ⟨front, hfront⟩ := List.getLast?_eq_some_iff.1 hlast
      obtain rfl : directory = String.ofList front ++ "/" :=
        String.toList_inj.1 (by rw [hfront]; simp)
      rw [components_slash, hfile]
    · rw [components_slash, hfile, components_slash_end hempty]

end Path

/-! ## Materials files -/

namespace MaterialsId

/-- A valid identifier is made of allowed characters. -/
theorem isAllowed_of_mem {id : String} (h : isValid id = true) {c : Char} (hc : c ∈ id.toList) :
    isAllowed c = true := by
  unfold isValid at h
  rw [Bool.and_eq_true] at h
  exact List.all_eq_true.1 h.2 c hc

/-- A valid identifier has no slash. -/
theorem slash_not_mem_of_isValid {id : String} (h : isValid id = true) : '/' ∉ id.toList :=
  fun hmem => absurd (isAllowed_of_mem h hmem) (by decide)

/-- A file name, character by character. -/
theorem toList_fileName (id : String) :
    (fileName id).toList = id.toList ++ ['.', 'j', 's', 'o', 'n'] := by
  simp [fileName]

/-- **The file of an identifier** is one component. -/
theorem single_fileName {id : String} (h : isValid id = true) : Path.Single (fileName id) := by
  have hlength : 5 ≤ (fileName id).toList.length := by
    rw [toList_fileName, List.length_append]
    exact Nat.le_add_left _ _
  refine ⟨?_, ?_, ?_, ?_⟩
  · rw [toList_fileName]
    simp [slash_not_mem_of_isValid h]
  all_goals
    intro he
    rw [he] at hlength
    exact absurd hlength (by decide)

end MaterialsId

/-- The path of the file of an identifier. -/
def MaterialsStore.path (store : MaterialsStore) (id : String) : String :=
  joinPath store.root (MaterialsId.fileName id)

/-- **The directory of a materials file** is the root of the store. -/
theorem MaterialsStore.components_path (store : MaterialsStore) {id : String}
    (h : MaterialsId.isValid id = true) :
    Path.components (store.path id) = Path.components store.root ++ [MaterialsId.fileName id] :=
  Path.components_joinPath store.root (MaterialsId.single_fileName h)

end Alternation
