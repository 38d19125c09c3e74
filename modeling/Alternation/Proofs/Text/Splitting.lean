/-
# Splitting texts

`SPEC_FULL` §6: `parse_materials_ids` splits at commas, and paths at slashes.

Splitting a text at a character undoes joining with that character, if none of the parts has
it (`splitString_intercalate`).  A blank behind the separator may as well belong to the part
that follows, so what is joined with a comma and a blank tells its parts too, if they are
neither empty nor have a comma (`eq_of_intercalate_comma_blank`).
-/

import Alternation.Store.FileSystem
import Mathlib.Data.List.Basic

namespace Alternation

/-- There is always one part. -/
theorem splitAtChar_ne_nil (sep : Char) (cs : List Char) : splitAtChar sep cs ≠ [] := by
  fun_induction splitAtChar sep cs <;> simp_all

/-- A text splits at each of its separators. -/
theorem splitAtChar_append (sep : Char) (xs ys : List Char) :
    splitAtChar sep (xs ++ sep :: ys) = splitAtChar sep xs ++ splitAtChar sep ys := by
  induction xs with
  | nil => simp [splitAtChar]
  | cons c xs ih =>
    rw [List.cons_append, splitAtChar, splitAtChar]
    split
    · rw [ih, List.cons_append]
    · rw [ih]
      cases h : splitAtChar sep xs with
      | nil => exact absurd h (splitAtChar_ne_nil sep xs)
      | cons part parts => rfl

/-- A text without separators is one part. -/
theorem splitAtChar_of_not_mem {sep : Char} {cs : List Char} (h : sep ∉ cs) :
    splitAtChar sep cs = [cs] := by
  induction cs with
  | nil => rfl
  | cons c cs ih =>
    rw [List.mem_cons, not_or] at h
    rw [splitAtChar, if_neg (Ne.symm h.1), ih h.2]

/-- No part has a separator. -/
theorem not_mem_of_mem_splitAtChar {sep : Char} {cs part : List Char}
    (h : part ∈ splitAtChar sep cs) : sep ∉ part := by
  fun_induction splitAtChar sep cs generalizing part with
  | case1 => simp_all
  | case2 cs ih =>
    rcases List.mem_cons.1 h with rfl | hmem
    · exact List.not_mem_nil
    · exact ih hmem
  | case3 c cs hne hsplit ih =>
    obtain rfl := List.mem_singleton.1 h
    exact List.not_mem_cons_of_ne_of_not_mem (Ne.symm hne) List.not_mem_nil
  | case4 c cs hne first rest hsplit ih =>
    rw [hsplit] at ih
    rcases List.mem_cons.1 h with rfl | hmem
    · exact List.not_mem_cons_of_ne_of_not_mem (Ne.symm hne) (ih (List.mem_cons_self ..))
    · exact ih (List.mem_cons_of_mem _ hmem)

/-- Splitting is the list library's. -/
theorem splitAtChar_eq_splitOn (sep : Char) (cs : List Char) :
    splitAtChar sep cs = List.splitOn sep cs := by
  rw [List.splitOn_eq_splitOnP]
  induction cs with
  | nil => rfl
  | cons c cs ih =>
    rw [splitAtChar, List.splitOnP_cons_eq_if_modifyHead, ih]
    by_cases hc : c = sep
    · rw [if_pos hc, if_pos (beq_iff_eq.2 hc)]
    · rw [if_neg hc, if_neg (mt beq_iff_eq.1 hc)]
      cases hsplit : List.splitOnP (· == sep) cs with
      | nil => exact absurd (ih.trans hsplit) (splitAtChar_ne_nil sep cs)
      | cons part parts => rfl

/-- No part of a text has a separator. -/
theorem not_mem_of_mem_splitString {sep : Char} {s part : String}
    (h : part ∈ splitString sep s) : sep ∉ part.toList := by
  obtain ⟨cs, hcs, rfl⟩ := List.mem_map.1 h
  rw [String.toList_ofList]
  exact not_mem_of_mem_splitAtChar hcs

/-- A path splits at each of its slashes. -/
theorem splitString_slash (front back : String) :
    splitString '/' (front ++ "/" ++ back) = splitString '/' front ++ splitString '/' back := by
  have hlist : (front ++ "/" ++ back).toList = front.toList ++ '/' :: back.toList := by simp
  rw [splitString, hlist, splitAtChar_append, List.map_append]
  rfl

/-- A slash at the end leaves an empty part. -/
theorem splitString_slash_end (front : String) :
    splitString '/' (front ++ "/") = splitString '/' front ++ [""] := by
  have hsplit := splitString_slash front ""
  rwa [String.append_empty] at hsplit

/-- **Splitting undoes joining** with a character that is in none of the parts. -/
theorem splitString_intercalate {sep : Char} {parts : List String} (hne : parts ≠ [])
    (h : ∀ part ∈ parts, sep ∉ part.toList) :
    splitString sep ((String.singleton sep).intercalate parts) = parts := by
  have hjoined : ((String.singleton sep).intercalate parts).toList =
      [sep].intercalate (parts.map String.toList) := by
    rw [String.toList_intercalate, String.toList_singleton]
  rw [splitString, hjoined, splitAtChar_eq_splitOn, List.splitOn_intercalate sep (by simpa using h)
    (by simpa using hne), List.map_map]
  exact List.map_id'' (fun _ => String.ofList_toList) parts

/-! ## Commas and blanks -/

/-- Parts that are not empty join to nothing only if there are none. -/
theorem intercalate_eq_empty_iff {sep : String} {parts : List String}
    (h : ∀ part ∈ parts, part ≠ "") : sep.intercalate parts = "" ↔ parts = [] := by
  constructor
  · intro hempty
    match parts with
    | [] => rfl
    | [part] =>
      rw [String.intercalate_singleton] at hempty
      exact absurd hempty (h part (List.mem_cons_self ..))
    | part :: next :: rest =>
      rw [String.intercalate_cons_cons, String.append_eq_empty_iff, String.append_eq_empty_iff]
        at hempty
      exact absurd hempty.1.1 (h part (List.mem_cons_self ..))
  · rintro rfl
    exact String.intercalate_nil

/-- The blank behind a comma may as well belong to the part that follows. -/
theorem intercalate_comma_blank (part : String) (parts : List String) :
    ", ".intercalate (part :: parts) =
      (String.singleton ',').intercalate (part :: parts.map (" " ++ ·)) := by
  induction parts generalizing part with
  | nil => rw [List.map_nil, String.intercalate_singleton, String.intercalate_singleton]
  | cons next parts ih =>
    have hseparator : ", " = String.singleton ',' ++ " " := rfl
    rw [List.map_cons, String.intercalate_cons_cons, String.intercalate_cons_cons,
      String.intercalate_cons_append, ih next, hseparator]
    simp only [String.append_assoc]

/-- What is joined with a comma and a blank splits at the commas, the blanks with the parts
behind them. -/
theorem splitString_comma_blank {part : String} {parts : List String}
    (h : ∀ p ∈ part :: parts, ',' ∉ p.toList) :
    splitString ',' (", ".intercalate (part :: parts)) = part :: parts.map (" " ++ ·) := by
  obtain ⟨hpart, hparts⟩ := List.forall_mem_cons.1 h
  rw [intercalate_comma_blank, splitString_intercalate (List.cons_ne_nil _ _)]
  rw [List.forall_mem_cons, List.forall_mem_map]
  exact ⟨hpart, fun p hp => by simpa using hparts p hp⟩

/-- **Parts that are not empty and have no comma** can be told from what is joined of them. -/
theorem eq_of_intercalate_comma_blank {parts parts' : List String}
    (hparts : ∀ part ∈ parts, part ≠ "" ∧ ',' ∉ part.toList)
    (hparts' : ∀ part ∈ parts', part ≠ "" ∧ ',' ∉ part.toList)
    (h : ", ".intercalate parts = ", ".intercalate parts') : parts = parts' := by
  have hempty : ", ".intercalate parts = "" ↔ parts = [] :=
    intercalate_eq_empty_iff fun part hp => (hparts part hp).1
  have hempty' : ", ".intercalate parts' = "" ↔ parts' = [] :=
    intercalate_eq_empty_iff fun part hp => (hparts' part hp).1
  match parts, parts' with
  | [], _ => exact (hempty'.1 (h ▸ hempty.2 rfl)).symm
  | _, [] => exact hempty.1 (h ▸ hempty'.2 rfl)
  | part :: rest, part' :: rest' =>
    have hsplit := congrArg (splitString ',') h
    rw [splitString_comma_blank fun p hp => (hparts p hp).2,
      splitString_comma_blank fun p hp => (hparts' p hp).2] at hsplit
    obtain ⟨rfl, hrest⟩ := List.cons.inj hsplit
    rw [(List.map_inj_right fun _ _ => (String.append_right_inj _).1).1 hrest]

end Alternation
