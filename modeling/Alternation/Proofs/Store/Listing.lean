/-
# Listing a store and loading from it

`SPEC_FULL` §6, Materials Store: `list` and `load`.

A file name comes apart at its last dot, unless that dot comes first
(`MaterialsId.splitExtension?_eq_some_iff`), so the names that an identifier is listed for
are those of its file (`MaterialsId.ofFileName?_eq_some_iff`): taking `.json` off undoes
putting it on, whatever dots the identifier has.

The file of an identifier is one component more than the root (`FileTree.find_joinPath`).
So a store lists an identifier just if there is an entry at the path that it would load it
from (`MaterialsStore.list_and_load`).
-/

import Alternation.Proofs.Engine.Admission
import Alternation.Proofs.Store.Path
import Mathlib.Data.List.Nodup

namespace Alternation

/-! ## Sorted texts -/

/-- Texts without repetition are sorted strictly. -/
theorem pairwise_lt_mergeSort {texts : List String} (h : texts.Nodup) :
    (texts.mergeSort fun a b => decide (a ≤ b)).Pairwise (· < ·) := by
  have htrans : ∀ a b c : String, decide (a ≤ b) = true → decide (b ≤ c) = true →
      decide (a ≤ c) = true := by
    intro a b c hab hbc
    exact decide_eq_true (String.le_trans (of_decide_eq_true hab) (of_decide_eq_true hbc))
  have htotal : ∀ a b : String, (decide (a ≤ b) || decide (b ≤ a)) = true := by
    intro a b
    simpa using String.le_total a b
  have hsorted : (texts.mergeSort fun a b => decide (a ≤ b)).Pairwise (· ≤ ·) :=
    (List.pairwise_mergeSort htrans htotal texts).imp of_decide_eq_true
  have hnodup : (texts.mergeSort fun a b => decide (a ≤ b)).Nodup :=
    (List.mergeSort_perm ..).nodup_iff.2 h
  refine (hsorted.and hnodup).imp fun hab => ?_
  by_contra hlt
  exact hab.2 (String.le_antisymm hab.1 (String.not_lt.1 hlt))

/-! ## File names -/

namespace MaterialsId

/-- A name without a dot has no extension. -/
theorem splitExtension?_of_not_mem {name : String} (h : '.' ∉ name.toList) :
    splitExtension? name = none := by
  have hnone : name.toList.reverse.dropWhile (· != '.') = [] := by
    rw [List.dropWhile_eq_nil_iff]
    intro c hc
    simpa using ne_of_mem_of_not_mem (List.mem_reverse.1 hc) h
  simp only [splitExtension?, hnone]

/-- A name with a dot splits at the last one, unless nothing stands before it. -/
theorem splitExtension?_append {stem extension : String} (h : '.' ∉ extension.toList) :
    splitExtension? (stem ++ "." ++ extension) =
      if stem = "" then none else some (stem, extension) := by
  have hreversed : (stem ++ "." ++ extension).toList.reverse =
      extension.toList.reverse ++ '.' :: stem.toList.reverse := by simp
  have hfront : ∀ c ∈ extension.toList.reverse, (c != '.') = true := fun c hc => by
    simpa using ne_of_mem_of_not_mem (List.mem_reverse.1 hc) h
  have hback : (extension.toList.reverse ++ '.' :: stem.toList.reverse).dropWhile (· != '.') =
      '.' :: stem.toList.reverse := by
    rw [List.dropWhile_append_of_pos hfront, List.dropWhile_cons_of_neg (by decide)]
  have htaken : (extension.toList.reverse ++ '.' :: stem.toList.reverse).takeWhile (· != '.') =
      extension.toList.reverse := by
    rw [List.takeWhile_append_of_pos hfront, List.takeWhile_cons_of_neg (by decide),
      List.append_nil]
  simp only [splitExtension?, hreversed, hback, htaken, List.reverse_reverse, String.ofList_toList,
    List.reverse_eq_nil_iff, String.toList_eq_nil_iff]

/-- **The last dot:** what is before it is not empty, and what is behind it has no dot. -/
theorem splitExtension?_eq_some_iff {name stem extension : String} :
    splitExtension? name = some (stem, extension) ↔
      name = stem ++ "." ++ extension ∧ stem ≠ "" ∧ '.' ∉ extension.toList := by
  constructor
  · intro h
    by_cases hdot : '.' ∈ name.toList
    · obtain ⟨back, front, hreversed, hlast⟩ :=
        List.eq_append_cons_of_mem (List.mem_reverse.2 hdot)
      obtain rfl : name = String.ofList front.reverse ++ "." ++ String.ofList back.reverse := by
        rw [← String.toList_inj, ← List.reverse_reverse name.toList, hreversed]
        simp
      have hback : '.' ∉ (String.ofList back.reverse).toList := by simpa using hlast
      rw [splitExtension?_append hback] at h
      split at h
      · exact nomatch h
      · rename_i hfront
        obtain ⟨rfl, rfl⟩ := Prod.mk.inj (Option.some.inj h)
        exact ⟨rfl, hfront, hback⟩
    · rw [splitExtension?_of_not_mem hdot] at h
      exact nomatch h
  · rintro ⟨rfl, hstem, hextension⟩
    rw [splitExtension?_append hextension, if_neg hstem]

/-- A file name gives an identifier just if it is the file name of a valid one. -/
theorem ofFileName?_eq_some_iff {name id : String} :
    ofFileName? name = some id ↔ name = fileName id ∧ isValid id = true := by
  have hjson : '.' ∉ "json".toList := by decide
  constructor
  · intro h
    unfold ofFileName? at h
    split at h
    · rename_i stem extension hsplit
      split at h
      · rename_i hvalid
        obtain rfl := Option.some.inj h
        obtain ⟨rfl, -, -⟩ := splitExtension?_eq_some_iff.1 hsplit
        exact ⟨by rw [hvalid.1, fileName, String.append_assoc]; rfl, hvalid.2⟩
      · cases h
    · cases h
  · rintro ⟨rfl, hvalid⟩
    have hne : id ≠ "" := by
      rintro rfl
      cases hvalid
    have hsplit : splitExtension? (fileName id) = some (id, "json") :=
      splitExtension?_eq_some_iff.2 ⟨by rw [fileName, String.append_assoc]; rfl, hne, hjson⟩
    rw [ofFileName?, hsplit]
    exact if_pos ⟨rfl, hvalid⟩

end MaterialsId

/-! ## Listing -/

namespace MaterialsStore

section

variable {store : MaterialsStore} {files : FileSystem} {names ids : List String}

/-- What a store lists, of the names in its directory. -/
def idsOf (names : List String) : List String :=
  (names.filterMap MaterialsId.ofFileName?).mergeSort fun a b => decide (a ≤ b)

/-- Where the directory can be read, the listing is of its names. -/
theorem list_of_readable (readable : files.list store.root = .ok names) :
    store.list files = .ok (idsOf names) := by
  rw [MaterialsStore.list, readable]
  rfl

/-- An identifier is listed just if it is valid and its file name is among the names. -/
theorem mem_idsOf_iff {id : String} :
    id ∈ idsOf names ↔ MaterialsId.isValid id = true ∧ MaterialsId.fileName id ∈ names := by
  rw [idsOf, (List.mergeSort_perm ..).mem_iff, List.mem_filterMap]
  constructor
  · rintro ⟨name, hname, hid⟩
    obtain ⟨rfl, hvalid⟩ := MaterialsId.ofFileName?_eq_some_iff.1 hid
    exact ⟨hvalid, hname⟩
  · rintro ⟨hvalid, hname⟩
    exact ⟨_, hname, MaterialsId.ofFileName?_eq_some_iff.2 ⟨rfl, hvalid⟩⟩

/-- The identifiers are sorted, and none comes twice. -/
theorem pairwise_idsOf (distinct : names.Nodup) : (idsOf names).Pairwise (· < ·) := by
  refine pairwise_lt_mergeSort (distinct.filterMap fun name name' id hid hid' => ?_)
  rw [(MaterialsId.ofFileName?_eq_some_iff.1 hid).1, (MaterialsId.ofFileName?_eq_some_iff.1 hid').1]

end

end MaterialsStore

/-! ## Walking on -/

namespace FileTree

/-- The entry of a directory. -/
def enter (name : String) : FileTree → Except OsError FileTree
  | .file _ => .error .notADirectory
  | .directory entries =>
    match entries.lookup name with
    | some next => .ok next
    | none => .error (if nameLimit < name.utf8ByteSize then .nameTooLong else .noSuchFile)

/-- Entering a directory by a name leads to the entry of that name. -/
theorem enter_eq_ok_iff {name : String} {entries : List (String × FileTree)} {next : FileTree} :
    (directory entries).enter name = .ok next ↔ entries.lookup name = some next := by
  rw [enter]
  cases hlookup : entries.lookup name with
  | none => simp
  | some found => simp

/-- There is an entry of each name in the directory, and of no other. -/
theorem exists_enter_iff {name : String} {entries : List (String × FileTree)} :
    (∃ next, (directory entries).enter name = .ok next) ↔ name ∈ entries.map Prod.fst := by
  simp only [enter_eq_ok_iff, ← Option.isSome_iff_exists, List.lookup_isSome_iff, List.mem_map,
    beq_iff_eq]
  exact exists_congr fun _ => and_congr_right fun _ => eq_comm

/-- A path of one component is one step. -/
theorem walk_single {name : String} (h : Path.Single name) (here : FileTree) :
    walk [] here [name] = here.enter name := by
  cases here with
  | file content => rfl
  | directory entries =>
    rw [walk, if_neg (by simp [h.ne_empty, h.ne_here]), if_neg h.ne_above, enter]
    cases entries.lookup name <;> rfl

/-- A last name, which does not lead out of the directory that it stands in. -/
theorem walk_concat {last : String} (h : last ≠ "..") (above : List FileTree) (here : FileTree)
    (path : List String) :
    walk above here (path ++ [last]) = walk above here path >>= fun tree => walk [] tree [last] := by
  induction path generalizing above here with
  | nil =>
    cases here with
    | file content => rfl
    | directory entries =>
      -- The directories above make no difference but to `..`.
      show walk above (.directory entries) [last] = walk [] (.directory entries) [last]
      simp only [walk, if_neg h]
  | cons component path ih =>
    cases here with
    | file content => rfl
    | directory entries =>
      rw [List.cons_append, walk, walk]
      split
      · exact ih _ _
      · split
        · exact ih _ _
        · cases entries.lookup component with
          | some next => exact ih _ _
          | none => rfl

/-- An empty name leads to the directory that it stands in. -/
theorem walk_of_walk_concat_empty {above : List FileTree} {here : FileTree} {path : List String}
    {entries : List (String × FileTree)}
    (h : walk above here (path ++ [""]) = .ok (.directory entries)) :
    walk above here path = .ok (.directory entries) := by
  rw [walk_concat (by decide)] at h
  obtain ⟨tree, hpath, hlast⟩ := ok_bind_iff.1 h
  cases tree with
  | file content => exact nomatch hlast
  | directory entries' =>
    rw [hpath]
    exact hlast

/-- Along the path of a file in a directory, the file is the entry of its name. -/
theorem walk_joinPath {here : FileTree} {root name : String} {entries : List (String × FileTree)}
    (hne : root ≠ "") (h : Path.Single name)
    (hroot : walk [] here (splitString '/' root) = .ok (.directory entries)) :
    walk [] here (splitString '/' (joinPath root name)) = enter name (.directory entries) := by
  obtain ⟨path, hjoined, hpath⟩ := Path.exists_splitString_joinPath hne h
  have hwalk : walk [] here path = .ok (.directory entries) := by
    rcases hpath with hpath | hpath
    · rwa [hpath] at hroot
    · rw [hpath] at hroot
      exact walk_of_walk_concat_empty hroot
  rw [hjoined, walk_concat h.ne_above, hwalk]
  exact walk_single h (.directory entries)

/-- Where a path starts. -/
def start (tree : FileTree) (path : String) : FileTree :=
  if path.toList.head? = some '/' then outside else tree

/-- A path that leads somewhere is not empty, has no NUL in it, and is walked. -/
theorem walk_of_find {tree target : FileTree} {path : String} (h : tree.find path = .ok target) :
    path ≠ "" ∧ '\x00' ∉ path.toList ∧
      walk [] (tree.start path) (splitString '/' path) = .ok target := by
  unfold FileTree.find at h
  split at h
  · exact nomatch h
  · rename_i hnul
    split at h
    · exact nomatch h
    · split at h
      · exact nomatch h
      · rename_i hne
        exact ⟨hne, hnul, h⟩

/-- **A name in a directory** is looked up in it, unless the path gets too long. -/
theorem find_joinPath {tree : FileTree} {root name : String} {entries : List (String × FileTree)}
    (hroot : tree.find root = .ok (.directory entries)) (h : Path.Single name)
    (hnul : '\x00' ∉ name.toList) :
    tree.find (joinPath root name) =
      if pathLimit < (joinPath root name).utf8ByteSize then .error .nameTooLong
      else enter name (.directory entries) := by
  obtain ⟨hne, hroot_nul, hwalk⟩ := walk_of_find hroot
  obtain ⟨between, hlist, hbetween⟩ := Path.exists_toList_joinPath name hne
  have hhead : (joinPath root name).toList.head? = root.toList.head? := by
    rw [hlist, List.append_assoc, List.head?_append_of_ne_nil]
    exact mt String.toList_eq_nil_iff.1 hne
  have hnul_joined : '\x00' ∉ (joinPath root name).toList := by
    rw [hlist, List.mem_append, List.mem_append]
    rintro ((hmem | hmem) | hmem)
    · exact hroot_nul hmem
    · exact absurd (hbetween _ hmem) (by decide)
    · exact hnul hmem
  have hne_joined : joinPath root name ≠ "" := by
    rw [ne_eq, ← String.toList_eq_nil_iff, hlist]
    simp [hne]
  have hstart : tree.start (joinPath root name) = tree.start root := by rw [start, start, hhead]
  have hjoined : walk [] (tree.start (joinPath root name)) (splitString '/' (joinPath root name)) =
      enter name (.directory entries) := by
    rw [hstart]
    exact walk_joinPath hne h hwalk
  unfold FileTree.find
  rw [if_neg hnul_joined, if_neg hne_joined]
  exact if_congr Iff.rfl rfl hjoined

/-- A directory that is listed shows the names of its entries. -/
theorem exists_entries_of_list {tree : FileTree} {root : String} {names : List String}
    (h : tree.list root = .ok names) :
    ∃ entries, tree.find root = .ok (.directory entries) ∧ names = entries.map Prod.fst := by
  unfold FileTree.list at h
  split at h
  · exact nomatch h
  · rename_i entries hfind
    exact ⟨entries, hfind, (Except.ok.inj h).symm⟩
  · exact nomatch h

end FileTree

/-! ## Loading -/

namespace MaterialsStore

section

variable [Complaints] {files : FileSystem} {store : MaterialsStore} {id : String}

omit [Complaints] in
/-- Just the valid identifiers pass. -/
theorem validate_eq_ok_iff : MaterialsId.validate id = .ok () ↔ MaterialsId.isValid id = true := by
  rw [MaterialsId.validate, ite_eq_left_iff]
  simp

/-- What is loaded has a valid identifier, and its file was read. -/
theorem exists_read_of_load {set : MaterialsSet} (h : store.load files id = .ok set) :
    MaterialsId.isValid id = true ∧ ∃ content, files.read (store.path id) = .ok content := by
  by_cases valid : MaterialsId.isValid id = true
  · refine ⟨valid, ?_⟩
    rw [Engine.load_of_valid valid, FileSystem.readText] at h
    cases hread : files.read (store.path id) with
    | ok content => exact ⟨content, rfl⟩
    | error cause =>
      rw [hread] at h
      cases cause <;> cases h
  · rw [load, pathFor, MaterialsId.validate, if_neg valid] at h
    cases h

/-- Why a set with a valid identifier is not loaded. -/
theorem load_eq_error (valid : MaterialsId.isValid id = true) {error : StoreError}
    (h : store.load files id = .error error) :
    files.read (store.path id) = .error .noSuchFile ∨ (∃ cause, error = .malformed id cause) ∨
      ∃ cause, cause ≠ .noSuchFile ∧ error = .io id cause := by
  rw [Engine.load_of_valid valid, FileSystem.readText] at h
  cases hread : files.read (store.path id) with
  | ok content =>
    rw [hread] at h
    dsimp only at h
    refine .inr ?_
    cases htext : String.fromUTF8? content with
    | none =>
      rw [htext] at h
      exact .inr ⟨.invalidUtf8, OsError.noConfusion, (Except.error.inj h).symm⟩
    | some source =>
      rw [htext] at h
      dsimp only at h
      split at h
      · cases h
      · exact .inl ⟨_, (Except.error.inj h).symm⟩
  | error cause =>
    rw [hread] at h
    by_cases hcause : cause = .noSuchFile
    · exact .inl (by rw [hcause])
    · refine .inr (.inr ⟨cause, hcause, ?_⟩)
      cases cause <;> first | exact absurd rfl hcause | exact (Except.error.inj h).symm

end

section

variable {tree : FileTree} {store : MaterialsStore} {names : List String} {id : String}
  (readable : tree.list store.root = .ok names) (valid : MaterialsId.isValid id = true)

include readable valid

/-- The path of an identifier leads to the entry of its file. -/
theorem exists_find_path : ∃ entries : List (String × FileTree), names = entries.map Prod.fst ∧
    tree.find (store.path id) =
      if FileTree.pathLimit < (store.path id).utf8ByteSize then .error .nameTooLong
      else (FileTree.directory entries).enter (MaterialsId.fileName id) := by
  obtain ⟨entries, hroot, rfl⟩ := FileTree.exists_entries_of_list readable
  refine ⟨entries, rfl, FileTree.find_joinPath hroot (MaterialsId.single_fileName valid) ?_⟩
  rw [MaterialsId.toList_fileName, List.mem_append]
  rintro (hmem | hmem)
  · exact absurd (MaterialsId.isAllowed_of_mem valid hmem) (by decide)
  · exact absurd hmem (by decide)

/-- A file that is read is an entry of the directory. -/
theorem fileName_mem_of_read {content : ByteArray}
    (h : tree.read (store.path id) = .ok content) : MaterialsId.fileName id ∈ names := by
  obtain ⟨entries, rfl, hfind⟩ := exists_find_path readable valid
  rw [← FileTree.exists_enter_iff]
  unfold FileTree.read at h
  rw [hfind] at h
  split at h
  · rename_i hfound
    split at hfound
    · exact nomatch hfound
    · exact ⟨_, hfound⟩
  · exact nomatch h
  · exact nomatch h

/-- An entry of the directory is found. -/
theorem read_ne_noSuchFile (h : MaterialsId.fileName id ∈ names) :
    tree.read (store.path id) ≠ .error .noSuchFile := by
  obtain ⟨entries, rfl, hfind⟩ := exists_find_path readable valid
  obtain ⟨next, hnext⟩ := FileTree.exists_enter_iff.2 h
  by_cases hlong : FileTree.pathLimit < (store.path id).utf8ByteSize
  · rw [if_pos hlong] at hfind
    rw [FileTree.read, hfind]
    exact nofun
  · rw [if_neg hlong, hnext] at hfind
    rw [FileTree.read, hfind]
    cases next <;> exact nofun

end

/-- **Listing and loading agree.**  Where the root is a directory that can be listed, a store
lists just the identifiers that a file of the directory has, in ascending order and none
twice.  What is loaded is listed, and what is listed is a valid identifier and is found; so
loading it fails only if the file cannot be read or is malformed. -/
theorem list_and_load [Complaints] (tree : FileTree) (store : MaterialsStore) {names : List String}
    (readable : tree.fileSystem.list store.root = .ok names) (distinct : names.Nodup) :
    ∃ ids, store.list tree.fileSystem = .ok ids ∧ ids.Pairwise (· < ·) ∧
      (∀ id, id ∈ ids ↔ MaterialsId.validate id = .ok () ∧ id ++ ".json" ∈ names) ∧
      (∀ id set, store.load tree.fileSystem id = .ok set → id ∈ ids) ∧
      ∀ id ∈ ids, ∀ error, store.load tree.fileSystem id = .error error →
        (∃ cause, error = .malformed id cause) ∨ ∃ cause, cause ≠ .noSuchFile ∧ error = .io id cause := by
  refine ⟨idsOf names, list_of_readable readable, pairwise_idsOf distinct, fun id => ?_,
    fun id set hload => ?_, fun id hid error hload => ?_⟩
  · rw [mem_idsOf_iff, validate_eq_ok_iff]
    rfl
  · obtain ⟨valid, content, hread⟩ := exists_read_of_load hload
    exact mem_idsOf_iff.2 ⟨valid, fileName_mem_of_read readable valid hread⟩
  · obtain ⟨valid, hname⟩ := mem_idsOf_iff.1 hid
    exact (load_eq_error valid hload).resolve_left (read_ne_noSuchFile readable valid hname)

/-- File names with dots in all places, and a directory with such a name. -/
def dotted : FileTree := .directory [("materials", .directory [("b.json.json", .file .empty),
  ("..json", .file .empty), (".json", .file .empty), ("a..json", .file .empty),
  ("...json", .file .empty), ("a.json", .directory []), ("notes.txt", .file .empty)])]

/-- A name with nothing before its last dot is not listed, nor one with two dots before it. -/
theorem list_and_load_of_dotted :
    ∃ ids, (⟨"materials"⟩ : MaterialsStore).list dotted.fileSystem = .ok ids ∧
      (∀ id ∈ [".", "a", "a.", "b.json"], id ∈ ids) ∧ ∀ id ∈ ["", "..", "notes"], id ∉ ids := by
  have readable : dotted.fileSystem.list "materials" = .ok ["b.json.json", "..json", ".json",
      "a..json", "...json", "a.json", "notes.txt"] := by decide +kernel
  let := Complaints.silent
  obtain ⟨ids, hids, -, hlisted, -, -⟩ := list_and_load dotted ⟨"materials"⟩ readable (by decide)
  refine ⟨ids, hids, ?_, ?_⟩ <;>
    simp only [hlisted, List.forall_mem_cons, MaterialsId.validate] <;> decide

end MaterialsStore
end Alternation
