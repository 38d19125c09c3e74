/-
# Sentences

`SPEC_FULL` §4.6, step 5: `sentence` capitalizes and appends terminal punctuation.

A text is a sentence (`Phrase.IsSentence`) when it starts with a capital that is not
blank and ends in a mark that may end a sentence.

* `Phrase.sentence` makes a sentence of every clause (`isSentence_sentence`), and leaves
  sentences as they are (`IsSentence.sentence_eq`).
* Two sentences with anything between them are a sentence (`IsSentence.glue`).
-/

import Alternation.Proofs.Text.Uppercase
import Alternation.Proofs.Text.Words

namespace Alternation
namespace Phrase

/-- The text starts with a capital and ends in a mark that may end a sentence. -/
structure IsSentence (text : String) : Prop where
  starts : ∃ first ∈ text.toList.head?, Text.isBlank first = false ∧ Text.upper first = [first]
  ends : ∃ last ∈ text.toList.getLast?, isTerminal last = true

/-- The marks that may end a sentence. -/
theorem isTerminal_iff (c : Char) : isTerminal c = true ↔ c = '.' ∨ c = '!' ∨ c = '?' := by
  simp [isTerminal, or_assoc]

/-- A mark that ends a sentence is not blank. -/
theorem isBlank_of_isTerminal {c : Char} (h : isTerminal c = true) : Text.isBlank c = false := by
  rcases (isTerminal_iff c).1 h with rfl | rfl | rfl <;> decide

/-! ## Making sentences -/

/-- A closed clause ends in such a mark. -/
theorem exists_isTerminal_closed (cs : List Char) :
    ∃ last ∈ (closed cs).getLast?, isTerminal last = true := by
  unfold closed
  split
  · rename_i hclosed
    exact (Option.any_eq_true _ _).1 hclosed
  · exact ⟨'.', by simp, rfl⟩

/-- Closing a clause leaves its first character alone. -/
theorem head?_closed {c : Char} {cs : List Char} : (closed (c :: cs)).head? = some c := by
  unfold closed
  split <;> rfl

/-- **Every clause becomes a sentence,** the blank ones too. -/
theorem isSentence_sentence (clause : String) : IsSentence (sentence clause) where
  starts := by
    rw [sentence, String.toList_ofList]
    cases htrim : Text.trim clause.toList with
    | nil => exact ⟨'.', rfl, by decide, by decide +kernel⟩
    | cons c cs =>
      have hc : Text.isBlank c = false := Text.head_strip (by rw [← Text.trim, htrim]; rfl)
      obtain ⟨first, rest, hupper, hfirst, hblank⟩ := Text.exists_upper_eq_cons c
      rw [capitalized, hupper, List.cons_append]
      exact ⟨first, head?_closed, hblank hc, hfirst⟩
  ends := by
    rw [sentence, String.toList_ofList]
    exact exists_isTerminal_closed _

namespace IsSentence

variable {s t : String}

/-- Two sentences with anything between them. -/
theorem glue (hs : IsSentence s) (ht : IsSentence t) (between : String) :
    IsSentence (s ++ between ++ t) where
  starts := by
    obtain ⟨first, hmem, hfirst⟩ := hs.starts
    refine ⟨first, ?_, hfirst⟩
    rw [String.toList_append, String.toList_append, List.append_assoc]
    exact List.mem_head?_append_of_mem_head? hmem
  ends := by
    obtain ⟨last, hmem, hlast⟩ := ht.ends
    refine ⟨last, ?_, hlast⟩
    rw [String.toList_append]
    exact List.mem_getLast?_append_of_mem_getLast? hmem

/-! ## What is true of a sentence -/

/-- Nothing is trimmed from a sentence. -/
theorem tight (h : IsSentence s) : Text.Tight s where
  starts := by
    obtain ⟨first, hmem, hblank, -⟩ := h.starts
    exact ⟨first, hmem, hblank⟩
  ends := by
    obtain ⟨last, hmem, hterminal⟩ := h.ends
    exact ⟨last, hmem, isBlank_of_isTerminal hterminal⟩

/-- A sentence has its capital. -/
theorem capitalized_eq (h : IsSentence s) : capitalized s.toList = s.toList := by
  obtain ⟨first, hmem, -, hupper⟩ := h.starts
  obtain ⟨rest, hrest⟩ := List.head?_eq_some_iff.1 hmem
  rw [hrest, capitalized, hupper]
  rfl

/-- A sentence has its capital already. -/
theorem capitalizeFirst_eq (h : IsSentence s) : capitalizeFirst s = s := by
  rw [capitalizeFirst, h.capitalized_eq, String.ofList_toList]

/-- **A sentence is left as it is.** -/
theorem sentence_eq (h : IsSentence s) : sentence s = s := by
  have hclosed : isClosed s.toList = true := (Option.any_eq_true _ _).2 h.ends
  rw [sentence, h.tight.trim_eq, h.capitalized_eq, closed, if_pos hclosed, String.ofList_toList]

end IsSentence
end Phrase
end Alternation
