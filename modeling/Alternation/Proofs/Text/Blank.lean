/-
# What trimming leaves

`SPEC_FULL` §4.6, step 5: what is trimmed from a clause.

A text is trimmed to nothing exactly when all its characters are blank
(`trimmed_eq_empty_iff`).  What is left of any text neither starts nor ends with a blank
(`head_strip`, `getLast_strip`), and such a text is left as it is (`strip_eq_self`).  What
it ends in can be told from the text itself (`suffix_strip_iff`).
-/

import Alternation.Text.Blank
import Mathlib.Data.List.DropRight

namespace Alternation
namespace Text

/-- Nothing is left just if all characters go. -/
theorem strip_eq_nil_iff (p : Char → Bool) (cs : List Char) :
    strip p cs = [] ↔ ∀ c ∈ cs, p c = true := by
  unfold strip
  rw [List.reverse_eq_nil_iff, List.dropWhile_eq_nil_iff]
  simp only [List.mem_reverse]
  constructor
  · intro h
    rw [← List.dropWhile_eq_nil_iff]
    by_contra hne
    -- The first character that is kept does not satisfy `p`.
    have hhead := List.head_dropWhile_not p (l := cs) hne
    rw [h _ (List.head_mem hne)] at hhead
    exact nomatch hhead
  · intro h c hc
    exact h c ((List.dropWhile_sublist p).subset hc)

/-- **Trimmed to nothing** are the texts all of whose characters are blank. -/
theorem trimmed_eq_empty_iff (s : String) : trimmed s = "" ↔ ∀ c ∈ s.toList, isBlank c = true := by
  rw [trimmed, String.ofList_eq_empty_iff, trim, strip_eq_nil_iff]

/-! ## The ends of a stripped text -/

section

variable {p : Char → Bool} {cs : List Char}

/-- The front is stripped first and then the back. -/
theorem strip_eq_rdropWhile (p : Char → Bool) (cs : List Char) :
    strip p cs = (cs.dropWhile p).rdropWhile p := rfl

/-- The first character that is left stays. -/
theorem head_strip {c : Char} (h : c ∈ (strip p cs).head?) : p c = false := by
  have hprefix := List.rdropWhile_prefix p (cs.dropWhile p)
  rw [← strip_eq_rdropWhile] at hprefix
  obtain ⟨rest, hrest⟩ := hprefix
  have hhead : (cs.dropWhile p).head? = some c := by
    rw [← hrest, List.head?_append, h]
    rfl
  have hnot := List.head?_dropWhile_not p cs
  rw [hhead] at hnot
  simpa using hnot

/-- The last character that is left stays. -/
theorem getLast_strip {c : Char} (h : c ∈ (strip p cs).getLast?) : p c = false := by
  rw [strip_eq_rdropWhile] at h
  obtain ⟨hne, rfl⟩ := List.mem_getLast?_eq_getLast h
  simpa using List.rdropWhile_last_not p (cs.dropWhile p) hne

/-- A text whose ends are not to be stripped is left as it is. -/
theorem strip_eq_self (hfirst : ∀ c ∈ cs.head?, p c = false)
    (hlast : ∀ c ∈ cs.getLast?, p c = false) : strip p cs = cs := by
  have hfront : cs.dropWhile p = cs := by
    cases cs with
    | nil => rfl
    | cons c cs => exact List.dropWhile_cons_of_neg (by simpa using hfirst c rfl)
  rw [strip_eq_rdropWhile, hfront, List.rdropWhile_eq_self_iff]
  intro hne
  simpa using hlast _ (List.getLast?_eq_some_getLast hne)

/-! ## What is stripped -/

/-- A text is what is stripped from its ends, and between them what is left. -/
theorem exists_strip_eq (p : Char → Bool) (cs : List Char) :
    ∃ before after, cs = before ++ strip p cs ++ after ∧ (∀ c ∈ before, p c = true) ∧
      ∀ c ∈ after, p c = true := by
  refine ⟨cs.takeWhile p, (cs.dropWhile p).rtakeWhile p, ?_, fun c hc => ?_, fun c hc => ?_⟩
  · rw [strip_eq_rdropWhile, List.append_assoc, List.rdropWhile_append_rtakeWhile,
      List.takeWhile_append_dropWhile]
  · exact List.all_eq_true.1 List.all_takeWhile c hc
  · exact List.mem_rtakeWhile_imp hc

/-- A character that is not to be stripped is left. -/
theorem mem_strip {c : Char} (hmem : c ∈ cs) (hc : p c = false) : c ∈ strip p cs := by
  obtain ⟨before, after, hcs, hbefore, hafter⟩ := exists_strip_eq p cs
  have hends (part : List Char) (hpart : ∀ c ∈ part, p c = true) : c ∉ part := fun h =>
    Bool.false_ne_true (hc.symm.trans (hpart c h))
  rw [hcs, List.mem_append, List.mem_append] at hmem
  exact (hmem.resolve_right (hends after hafter)).resolve_left (hends before hbefore)

/-- What is left was there before. -/
theorem mem_of_mem_strip {c : Char} (h : c ∈ strip p cs) : c ∈ cs := by
  obtain ⟨before, after, hcs, -, -⟩ := exists_strip_eq p cs
  rw [hcs]
  exact List.mem_append_left _ (List.mem_append_right _ h)

/-- Characters in front that go make no difference. -/
theorem strip_append_left {before : List Char} (h : ∀ c ∈ before, p c = true) :
    strip p (before ++ cs) = strip p cs := by
  rw [strip, strip, List.dropWhile_append_of_pos h]

/-- Characters behind that go make no difference. -/
theorem strip_append_right {after : List Char} (h : ∀ c ∈ after, p c = true) :
    strip p (cs ++ after) = strip p cs := by
  unfold strip
  rw [List.dropWhile_append]
  split
  · rename_i hempty
    rw [List.isEmpty_iff.1 hempty, List.dropWhile_eq_nil_iff.2 h]
  · rw [List.reverse_append, List.dropWhile_append_of_pos fun c hc => h c (List.mem_reverse.1 hc)]

/-- **What is left ends in `tail`** just if the text does, up to what is stripped behind it;
unless the start of `tail` is stripped before. -/
theorem suffix_strip_iff {tail : List Char} (hne : tail ≠ [])
    (hlast : ∀ c ∈ tail.getLast?, p c = false) :
    tail <:+ strip p cs ↔ ∃ front rest, cs = front ++ tail ++ rest ∧ (∀ c ∈ rest, p c = true) ∧
      ((∃ c ∈ front, p c = false) ∨ ∀ c ∈ tail.head?, p c = false) := by
  constructor
  · rintro ⟨kept, hkept⟩
    obtain ⟨before, after, hcs, -, hafter⟩ := exists_strip_eq p cs
    refine ⟨before ++ kept, after, ?_, hafter, ?_⟩
    · rw [List.append_assoc before, hkept]
      exact hcs
    · cases kept with
      | nil => exact .inr fun c hc => head_strip (by rw [← hkept]; exact hc)
      | cons c kept => exact .inl ⟨c, by simp, head_strip (by rw [← hkept]; rfl)⟩
  · rintro ⟨front, rest, rfl, hrest, hstart⟩
    rw [strip_append_right hrest, ← List.takeWhile_append_dropWhile (p := p) (l := front),
      List.append_assoc, strip_append_left fun c hc => List.all_eq_true.1 List.all_takeWhile c hc,
      strip_eq_self]
    · exact List.suffix_append ..
    · intro c hc
      cases hkept : front.dropWhile p with
      | nil =>
        rw [hkept] at hc
        rcases hstart with ⟨d, hd, hpd⟩ | hhead
        · rw [List.dropWhile_eq_nil_iff] at hkept
          rw [hkept d hd] at hpd
          exact nomatch hpd
        · exact hhead c hc
      | cons d kept =>
        have hnot := List.head?_dropWhile_not p front
        rw [hkept] at hc hnot
        obtain rfl : d = c := by simpa using hc
        exact hnot
    · intro c hc
      rw [List.getLast?_append_of_ne_nil _ hne] at hc
      exact hlast c hc

end

end Text
end Alternation
