/-
# Joined words

`SPEC_FULL` §4.6, step 3: `join_words`.

A text is tight (`Text.Tight`) when it is not empty and neither starts nor ends with a
blank.  Trimming makes every text tight that is not blank, and leaves tight ones as they
are.

`Phrase.joinWords` drops the blank words and puts the others, trimmed, one after the other.
So what it makes is tight again (`trimmed_joinWords`), and it makes no difference whether
some of the words were joined before (`joinWords_splice`); `phrase_of_joinWords` puts these
together.  A last word that is not blank ends the joined text (`joinWords_concat`).
-/

import Alternation.Proofs.Text.Blank
import Alternation.Text.Phrase

namespace Alternation

/-! ## Tight texts -/

namespace Text

/-- The text is not empty, and blanks stand neither at its start nor at its end. -/
structure Tight (s : String) : Prop where
  starts : ∃ first ∈ s.toList.head?, isBlank first = false
  ends : ∃ last ∈ s.toList.getLast?, isBlank last = false

namespace Tight

variable {s t : String}

/-- A tight text is not empty. -/
theorem ne_empty (h : Tight s) : s ≠ "" := by
  rintro rfl
  obtain ⟨first, hmem, -⟩ := h.starts
  exact nomatch hmem

/-- Trimming leaves a tight text as it is. -/
theorem trim_eq (h : Tight s) : trim s.toList = s.toList := by
  obtain ⟨first, hfirst, hstart⟩ := h.starts
  obtain ⟨last, hlast, hend⟩ := h.ends
  refine strip_eq_self (fun c hc => ?_) fun c hc => ?_
  · rwa [Option.mem_unique hc hfirst]
  · rwa [Option.mem_unique hc hlast]

/-- A tight text is left as it is. -/
theorem trimmed_eq (h : Tight s) : trimmed s = s := by
  rw [trimmed, h.trim_eq, String.ofList_toList]

/-- Two tight texts with anything between them. -/
theorem glue (hs : Tight s) (ht : Tight t) (between : String) : Tight (s ++ between ++ t) where
  starts := by
    obtain ⟨first, hmem, hfirst⟩ := hs.starts
    refine ⟨first, ?_, hfirst⟩
    rw [String.toList_append, String.toList_append, List.append_assoc]
    exact List.mem_head?_append_of_mem_head? hmem
  ends := by
    obtain ⟨last, hmem, hlast⟩ := ht.ends
    refine ⟨last, ?_, hlast⟩
    rw [String.toList_append]
    exact List.mem_getLast?_append_of_mem_getLast? hmem

end Tight

/-- **What trimming leaves** of a text is tight, or nothing is left. -/
theorem tight_trimmed {s : String} (h : trimmed s ≠ "") : Tight (trimmed s) := by
  have hne : trim s.toList ≠ [] := fun hnil => h (by rw [trimmed, hnil])
  refine ⟨?_, ?_⟩
  · rw [trimmed, String.toList_ofList]
    exact ⟨_, List.head?_eq_some_head hne, head_strip (List.head?_eq_some_head hne)⟩
  · rw [trimmed, String.toList_ofList]
    exact ⟨_, List.getLast?_eq_some_getLast hne, getLast_strip (List.getLast?_eq_some_getLast hne)⟩

/-- There is nothing to trim from the empty text. -/
@[simp] theorem trimmed_empty : trimmed "" = "" := rfl

/-- **Trimming leaves a text as it is** just if no blank stands at either end. -/
theorem trimmed_eq_self_iff (s : String) :
    trimmed s = s ↔ s.toList.head?.any isBlank = false ∧ s.toList.getLast?.any isBlank = false := by
  simp only [Option.any_eq_false]
  constructor
  · intro h
    have hstrip : strip isBlank s.toList = s.toList := by
      rw [← String.toList_ofList (l := strip isBlank s.toList)]
      exact congrArg String.toList h
    have hfirst : ∀ c ∈ (strip isBlank s.toList).head?, isBlank c = false := fun _ hc =>
      head_strip hc
    have hlast : ∀ c ∈ (strip isBlank s.toList).getLast?, isBlank c = false := fun _ hc =>
      getLast_strip hc
    rw [hstrip] at hfirst hlast
    exact ⟨hfirst, hlast⟩
  · rintro ⟨hfirst, hlast⟩
    rw [trimmed, trim, strip_eq_self hfirst hlast, String.ofList_toList]

/-! ## The words that are kept -/

/-- The words that are not blank, trimmed. -/
def kept (words : List String) : List String := (words.map trimmed).filter (· ≠ "")

/-- The words that are kept of two lists. -/
theorem kept_append (us vs : List String) : kept (us ++ vs) = kept us ++ kept vs := by
  rw [kept, List.map_append, List.filter_append]
  rfl

/-- No word is kept just if all are blank. -/
theorem kept_eq_nil_iff (words : List String) : kept words = [] ↔ ∀ w ∈ words, trimmed w = "" := by
  simp [kept, List.filter_eq_nil_iff]

/-- What is kept are the words, trimmed, that are not blank. -/
theorem mem_kept_iff {words : List String} {w : String} :
    w ∈ kept words ↔ ∃ v ∈ words, trimmed v = w ∧ w ≠ "" := by
  simp only [kept, List.mem_filter, List.mem_map, decide_eq_true_eq]
  constructor
  · rintro ⟨⟨v, hv, rfl⟩, hne⟩
    exact ⟨v, hv, rfl, hne⟩
  · rintro ⟨v, hv, rfl, hne⟩
    exact ⟨⟨v, hv, rfl⟩, hne⟩

/-- A word that is kept is tight. -/
theorem tight_of_mem_kept {words : List String} {w : String} (h : w ∈ kept words) : Tight w := by
  obtain ⟨v, -, rfl, hne⟩ := mem_kept_iff.1 h
  exact tight_trimmed hne

/-- Words that are tight are all kept as they are. -/
theorem kept_eq_self {words : List String} (h : ∀ w ∈ words, Tight w) : kept words = words := by
  have hmap : words.map trimmed = words := by
    rw [List.map_congr_left fun w hw => (h w hw).trimmed_eq, List.map_id']
  rw [kept, hmap, List.filter_eq_self]
  intro w hw
  simpa using (h w hw).ne_empty

end Text

/-! ## Joining -/

namespace Phrase

open Text

/-- Joined words are those that are kept, with single blanks between them. -/
theorem joinWords_eq (words : List String) : joinWords words = " ".intercalate (kept words) := rfl

/-- Tight words with blanks between them are tight. -/
theorem tight_intercalate {words : List String} (hne : words ≠ []) (h : ∀ w ∈ words, Tight w) :
    Tight (" ".intercalate words) := by
  induction words with
  | nil => exact absurd rfl hne
  | cons w words ih =>
    cases words with
    | nil =>
      rw [String.intercalate_singleton]
      exact h w (List.mem_cons_self ..)
    | cons v words =>
      rw [String.intercalate_cons_cons]
      exact (h w (List.mem_cons_self ..)).glue
        (ih (List.cons_ne_nil v words) fun u hu => h u (List.mem_cons_of_mem _ hu)) " "

/-- **Joined words are tight** if one of them is not blank. -/
theorem tight_joinWords {words : List String} (h : kept words ≠ []) : Tight (joinWords words) :=
  tight_intercalate h fun _ => tight_of_mem_kept

/-- Nothing is joined just if every word is blank. -/
theorem joinWords_eq_empty_iff (words : List String) :
    joinWords words = "" ↔ ∀ w ∈ words, trimmed w = "" := by
  rw [← kept_eq_nil_iff]
  constructor
  · intro hempty
    by_contra hne
    exact (tight_joinWords hne).ne_empty hempty
  · intro hnil
    rw [joinWords_eq, hnil, String.intercalate_nil]

/-- **Joined words have no blanks at their ends.** -/
theorem trimmed_joinWords (words : List String) : trimmed (joinWords words) = joinWords words := by
  by_cases hnil : kept words = []
  · rw [joinWords_eq, hnil, String.intercalate_nil, trimmed_empty]
  · exact (tight_joinWords hnil).trimmed_eq

/-- Words joined in two parts: a part that is blank takes no space. -/
theorem joinWords_append (us vs : List String) :
    joinWords (us ++ vs) =
      if kept us = [] then joinWords vs
      else if kept vs = [] then joinWords us
      else joinWords us ++ " " ++ joinWords vs := by
  rw [joinWords_eq, kept_append]
  split
  · rename_i hus
    rw [hus, List.nil_append, joinWords_eq]
  · rename_i hus
    split
    · rename_i hvs
      rw [hvs, List.append_nil, joinWords_eq]
    · rename_i hvs
      exact String.intercalate_append_of_ne_nil hus hvs

/-- Joined words are kept as one word, if there are any. -/
theorem kept_joinWords (words : List String) :
    kept [joinWords words] = if kept words = [] then [] else [joinWords words] := by
  split
  · rename_i hnil
    rw [joinWords_eq, hnil, String.intercalate_nil]
    rfl
  · rename_i hne
    exact kept_eq_self (List.forall_mem_singleton.2 (tight_joinWords hne))

/-- Joining what was joined changes nothing. -/
theorem joinWords_singleton (words : List String) : joinWords [joinWords words] = joinWords words := by
  rw [joinWords_eq, kept_joinWords]
  split
  · rename_i hnil
    rw [joinWords_eq, hnil]
  · exact String.intercalate_singleton

/-- **Words that were joined before** make no difference. -/
theorem joinWords_splice (us vs ws : List String) :
    joinWords (us ++ [joinWords vs] ++ ws) = joinWords (us ++ vs ++ ws) := by
  have hnil : kept [joinWords vs] = [] ↔ kept vs = [] := by
    rw [kept_joinWords]
    split <;> simp [*]
  have hfront : joinWords (us ++ [joinWords vs]) = joinWords (us ++ vs) := by
    rw [joinWords_append, joinWords_append, joinWords_singleton]
    simp only [hnil]
  have hkept : kept (us ++ [joinWords vs]) = [] ↔ kept (us ++ vs) = [] := by
    simp only [kept_append, List.append_eq_nil_iff, hnil]
  rw [joinWords_append, joinWords_append (us ++ vs), hfront]
  simp only [hkept]

/-- **Joined words are a phrase:** it makes no difference whether some of them were joined
before, no blank stands at either end, and the phrase is empty just if every word is blank. -/
theorem phrase_of_joinWords (us vs ws : List String) :
    joinWords (us ++ [joinWords vs] ++ ws) = joinWords (us ++ vs ++ ws) ∧
      ((joinWords us).toList.head?.any isBlank = false ∧
        (joinWords us).toList.getLast?.any isBlank = false) ∧
      (joinWords us = "" ↔ ∀ w ∈ us, ∀ c ∈ w.toList, isBlank c = true) := by
  refine ⟨joinWords_splice us vs ws, (trimmed_eq_self_iff _).1 (trimmed_joinWords us), ?_⟩
  simp only [joinWords_eq_empty_iff, trimmed_eq_empty_iff]

/-- **The last word ends the joined text.** -/
theorem joinWords_concat {words : List String} {last : String} (hwords : kept words ≠ [])
    (hlast : trimmed last ≠ "") :
    joinWords (words ++ [last]) = joinWords words ++ " " ++ trimmed last := by
  have hkept : kept [last] = [trimmed last] := by simp [kept, hlast]
  rw [joinWords_append, if_neg hwords, if_neg (by simp [hkept]), joinWords_eq [last], hkept,
    String.intercalate_singleton]

end Phrase
end Alternation
