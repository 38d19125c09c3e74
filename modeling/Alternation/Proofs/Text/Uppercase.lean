/-
# Capitals are their own capitals

`SPEC_FULL` §4.6, step 5: the capital of `capitalize_first`.

The uppercase form of a character starts with a character that is its own uppercase
form, and that is blank only if the character is (`exists_upper_eq_cons`).

The tables are not gone through character by character: the images of a run and the
characters of another are told apart by the ends of the runs, or by their parity where
both take every second character (`CaseRun.avoids`).
-/

import Alternation.Text.Blank
import Alternation.Text.Uppercase
import Mathlib.Data.List.Basic

namespace Alternation
namespace Text
namespace CaseRun

/-- No image of the run belongs to the other one. -/
def avoids (r s : CaseRun) : Bool :=
  Nat.blt (r.image r.last) s.first || Nat.blt s.last r.target ||
    ((Nat.beq r.step 2 || Nat.beq r.first r.last) && Nat.beq s.step 2 &&
      Nat.beq ((r.target + s.first) % 2) 1)

/-- The images of the run are characters. -/
def isValid (r : CaseRun) : Bool :=
  Nat.blt (r.image r.last) 0xD800 ||
    (Nat.blt 0xDFFF r.target && Nat.blt (r.image r.last) 0x110000)

/-- A run holds every so many numbers from its first to its last. -/
theorem holds_iff (r : CaseRun) (n : Nat) :
    r.holds n = true ↔ r.first ≤ n ∧ n ≤ r.last ∧ (n - r.first) % r.step = 0 := by
  simp [holds, and_assoc]

/-- The images of a run lie outside a run that it avoids. -/
theorem not_holds_image {r s : CaseRun} (h : r.avoids s = true) {n : Nat} (hn : r.holds n = true) :
    ¬ s.holds (r.image n) = true := by
  rw [holds_iff] at hn ⊢
  simp only [avoids, image, Bool.or_eq_true, Bool.and_eq_true, Nat.blt_eq, Nat.beq_eq] at h ⊢
  obtain ⟨hfirst, hlast, hstep⟩ := hn
  rintro ⟨hfirst', hlast', hstep'⟩
  rcases h with (h | h) | ⟨⟨h | h, h'⟩, hparity⟩
  · omega
  · omega
  · rw [h] at hstep
    rw [h'] at hstep'
    omega
  · rw [h'] at hstep'
    omega

/-- The images of a valid run are characters. -/
theorem isValidChar_image {r : CaseRun} (h : r.isValid = true) {n : Nat} (hn : r.holds n = true) :
    (r.image n).isValidChar := by
  rw [holds_iff] at hn
  simp only [isValid, image, Bool.or_eq_true, Bool.and_eq_true, Nat.blt_eq] at h
  unfold Nat.isValidChar image
  omega

end CaseRun

/-! ## Both tables as runs -/

/-- The characters with an uppercase form other than themselves: an expansion is a run
of one character, with the first one of its uppercase form. -/
def mappings : List CaseRun :=
  caseRuns ++ caseExpansions.map fun e => ⟨e.1, e.1, 1, e.2.headD 0⟩

/-- Blank characters as a run. -/
def blankRun (run : Nat × Nat) : CaseRun := ⟨run.1, run.2, 1, 0⟩

/-- No run of the table maps into a run of the table. -/
theorem avoids_of_mem : ∀ r ∈ mappings, ∀ s ∈ mappings, r.avoids s = true := by
  have h : (mappings.all fun r => mappings.all r.avoids) = true := by decide +kernel
  simpa only [List.all_eq_true] using h

/-- No run of the table maps to a blank. -/
theorem avoids_blankRun : ∀ r ∈ mappings, ∀ run ∈ blankRuns, r.avoids (blankRun run) = true := by
  have h : (mappings.all fun r => blankRuns.all fun run => r.avoids (blankRun run)) = true := by
    decide +kernel
  simpa only [List.all_eq_true] using h

/-- The runs of the table are valid. -/
theorem isValid_of_mem : ∀ r ∈ mappings, r.isValid = true := by
  have h : mappings.all CaseRun.isValid = true := by decide +kernel
  simpa only [List.all_eq_true] using h

/-- An expansion has a character. -/
theorem expansion_ne_nil : ∀ e ∈ caseExpansions, e.2 ≠ [] := by decide

/-- A run of blanks holds all numbers from its first to its last. -/
theorem holds_blankRun_iff (run : Nat × Nat) (n : Nat) :
    (blankRun run).holds n = true ↔ run.1 ≤ n ∧ n ≤ run.2 := by
  simp [CaseRun.holds_iff, blankRun, Nat.mod_one]

/-! ## Characters -/

/-- A character in neither table is its own uppercase form. -/
theorem upper_eq_self {c : Char} (h : ∀ r ∈ mappings, ¬ r.holds c.toNat = true) : upper c = [c] := by
  have hlookup : caseExpansions.lookup c.toNat = none := by
    refine List.lookup_eq_none_iff.2 fun e he => ?_
    have hrun := h _ (List.mem_append_right _ (List.mem_map_of_mem he))
    simp only [CaseRun.holds_iff, Nat.mod_one, and_true] at hrun
    simp only [bne_iff_ne, ne_eq]
    omega
  have hfind : caseRuns.find? (·.holds c.toNat) = none :=
    List.find?_eq_none.2 fun r hr => h r (List.mem_append_left _ hr)
  rw [upper, hlookup]
  simp only [hfind]

/-- A character in one of the tables has an image there. -/
theorem upper_eq_self_or (c : Char) :
    upper c = [c] ∨ ∃ r ∈ mappings, r.holds c.toNat = true ∧
      ∃ rest, upper c = Char.ofNat (r.image c.toNat) :: rest := by
  cases hlookup : caseExpansions.lookup c.toNat with
  | some image =>
    have hmem : (c.toNat, image) ∈ caseExpansions := by
      obtain ⟨l₁, l₂, hl, -⟩ := List.lookup_eq_some_iff.1 hlookup
      rw [hl]
      exact List.mem_append_right _ (List.mem_cons_self ..)
    obtain ⟨first, rest, rfl⟩ := List.exists_cons_of_ne_nil (expansion_ne_nil _ hmem)
    refine .inr ⟨_, List.mem_append_right _ (List.mem_map_of_mem hmem), ?_, rest.map Char.ofNat, ?_⟩
    · simp [CaseRun.holds_iff]
    · rw [upper, hlookup]
      simp [CaseRun.image]
  | none =>
    cases hfind : caseRuns.find? (·.holds c.toNat) with
    | some r =>
      have hholds : r.holds c.toNat = true :=
        List.find?_some (p := fun s : CaseRun => s.holds c.toNat) hfind
      refine .inr ⟨r, List.mem_append_left _ (List.mem_of_find?_eq_some hfind), hholds, [], ?_⟩
      rw [upper, hlookup]
      simp only [hfind]
    | none =>
      refine .inl ?_
      rw [upper, hlookup]
      simp only [hfind]

/-- **The uppercase form starts with a capital:** a character that is its own
uppercase form, and that is not blank unless the character is. -/
theorem exists_upper_eq_cons (c : Char) :
    ∃ d rest, upper c = d :: rest ∧ upper d = [d] ∧ (isBlank c = false → isBlank d = false) := by
  rcases upper_eq_self_or c with h | ⟨r, hr, hc, rest, h⟩
  · exact ⟨c, [], h, h, id⟩
  · have htoNat : (Char.ofNat (r.image c.toNat)).toNat = r.image c.toNat := by
      rw [Char.ofNat, dif_pos (CaseRun.isValidChar_image (isValid_of_mem r hr) hc)]
      rfl
    refine ⟨_, rest, h, upper_eq_self fun s hs => ?_, fun _ => ?_⟩
    · rw [htoNat]
      exact CaseRun.not_holds_image (avoids_of_mem r hr s hs) hc
    · rw [isBlank, List.any_eq_false]
      intro run hrun
      have hblank := CaseRun.not_holds_image (avoids_blankRun r hr run hrun) hc
      rw [holds_blankRun_iff] at hblank
      simpa [htoNat] using hblank

end Text
end Alternation
