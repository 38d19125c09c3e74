/-
# Conditions told by their texts

`SPEC_FULL` §3: a condition's *key* indexes sentences, and its display names it in
messages.

The display of a condition separates its slots with commas, and no slot has a comma in it.
So the slots can be split off again, whatever numbers they hold and however many there are
(`Condition.display_injective`).

A key runs the slots together.  If every slot that is set holds a single digit, then each
slot is one character of the key (`Condition.key_inj`); else two conditions can share one.
-/

import Alternation.Condition
import Alternation.Proofs.Text.Splitting
import Mathlib.Data.List.Basic

namespace Alternation

namespace Condition

/-! ## Display -/

/-- A number is written in digits. -/
theorem isDigit_of_mem_toString {n : Nat} {c : Char} (h : c ∈ (toString n).toList) :
    c.isDigit = true := by
  rw [Nat.toString_eq_repr, Nat.toList_repr] at h
  exact Nat.isDigit_of_mem_toDigits (by decide) (by decide) h

/-- No number is written like a word that has something other than digits in it. -/
theorem toString_ne {word : String} {c : Char} (hmem : c ∈ word.toList) (hc : c.isDigit = false)
    (n : Nat) : toString n ≠ word := by
  rintro rfl
  rw [isDigit_of_mem_toString hmem] at hc
  exact nomatch hc

/-- A number below 256 is told by its digits. -/
theorem toString_toNat_inj {v w : UInt8} (h : toString v.toNat = toString w.toNat) : v = w := by
  have hdigits : Nat.toDigits 10 v.toNat = Nat.toDigits 10 w.toNat := by
    rw [← Nat.toList_repr, ← Nat.toList_repr]
    exact congrArg String.toList h
  have hvalue := congrArg (Nat.ofDigitChars 10 · 0) hdigits
  simp only [Nat.ofDigitChars_ten_toDigits] at hvalue
  exact UInt8.toNat_inj.1 hvalue

/-- A slot is told by its display: `None`, or the digits of its number. -/
theorem slotDisplay_injective : Function.Injective slotDisplay := by
  intro s t h
  match s, t with
  | none, none => rfl
  | none, some w => exact absurd h.symm (toString_ne (c := 'N') (by decide) rfl _)
  | some v, none => exact absurd h (toString_ne (c := 'N') (by decide) rfl _)
  | some v, some w => exact congrArg some (toString_toNat_inj h)

/-- A slot on display is something, and has no comma in it. -/
theorem slotDisplay_part (s : Option UInt8) :
    slotDisplay s ≠ "" ∧ ',' ∉ (slotDisplay s).toList := by
  cases s with
  | none => decide
  | some v =>
    constructor
    · intro h
      have hdigits : Nat.toDigits 10 v.toNat = [] := by
        rw [← Nat.toList_repr]
        exact congrArg String.toList h
      exact Nat.toDigits_ne_nil hdigits
    · exact fun hmem => absurd (isDigit_of_mem_toString hmem) (by decide)

/-- **The display tells the condition,** of any arity and with any slots. -/
theorem display_injective : Function.Injective display := by
  intro c c' h
  have hslots : ", ".intercalate (c.slots.map slotDisplay) =
      ", ".intercalate (c'.slots.map slotDisplay) :=
    (String.append_right_inj _).1 ((String.append_left_inj _).1 h)
  have hparts : ∀ slots : List (Option UInt8), ∀ part ∈ slots.map slotDisplay,
      part ≠ "" ∧ ',' ∉ part.toList := by
    intro slots
    rw [List.forall_mem_map]
    exact fun s _ => slotDisplay_part s
  have hmap := eq_of_intercalate_comma_blank (hparts c.slots) (hparts c'.slots) hslots
  exact congrArg mk ((List.map_inj_right fun _ _ => @slotDisplay_injective _ _).1 hmap)

/-! ## Keys -/

/-- Every slot that is set holds a single digit. -/
def SingleDigits (c : Condition) : Prop := ∀ s ∈ c.slots, ∀ v ∈ s, v < 10

instance : DecidablePred SingleDigits := fun c =>
  decidable_of_iff (c.slots.all fun s => s.all (· < 10)) (by
    simp only [SingleDigits, List.all_eq_true, Option.all_eq_true, decide_eq_true_eq,
      Option.mem_def])

/-- A slot is told by its part of the key: `x`, or the digits of its number. -/
theorem slotKey_injective : Function.Injective slotKey := by
  intro s t h
  match s, t with
  | none, none => rfl
  | none, some w => exact absurd h.symm (toString_ne (c := 'x') (by decide) rfl _)
  | some v, none => exact absurd h (toString_ne (c := 'x') (by decide) rfl _)
  | some v, some w => exact congrArg some (toString_toNat_inj h)

/-- A slot that is unset or holds a single digit is one character of a key. -/
theorem exists_toList_slotKey {s : Option UInt8} (h : ∀ v ∈ s, v < 10) :
    ∃ c, (slotKey s).toList = [c] := by
  cases s with
  | none => exact ⟨'x', rfl⟩
  | some v =>
    have hv : v.toNat < 10 := UInt8.lt_iff_toNat_lt.1 (h v rfl)
    refine ⟨v.toNat.digitChar, ?_⟩
    rw [slotKey, Nat.toString_eq_repr, Nat.toList_repr, Nat.toDigits_of_lt_base hv]

/-- Slots that are one character each can be told from the characters. -/
theorem eq_of_flatMap_slotKey {slots slots' : List (Option UInt8)}
    (hslots : ∀ s ∈ slots, ∀ v ∈ s, v < 10) (hslots' : ∀ s ∈ slots', ∀ v ∈ s, v < 10)
    (h : slots.flatMap (fun s => (slotKey s).toList) =
      slots'.flatMap fun s => (slotKey s).toList) : slots = slots' := by
  induction slots generalizing slots' with
  | nil =>
    cases slots' with
    | nil => rfl
    | cons t slots' =>
      obtain ⟨d, hd⟩ := exists_toList_slotKey (hslots' t (List.mem_cons_self ..))
      simp [hd] at h
  | cons s slots ih =>
    obtain ⟨hs, hslots⟩ := List.forall_mem_cons.1 hslots
    obtain ⟨c, hc⟩ := exists_toList_slotKey hs
    cases slots' with
    | nil => simp [hc] at h
    | cons t slots' =>
      obtain ⟨ht, hslots'⟩ := List.forall_mem_cons.1 hslots'
      obtain ⟨d, hd⟩ := exists_toList_slotKey ht
      rw [List.flatMap_cons, List.flatMap_cons, hc, hd, List.singleton_append,
        List.singleton_append] at h
      obtain ⟨rfl, hrest⟩ := List.cons.inj h
      rw [slotKey_injective (String.toList_inj.1 (hc.trans hd.symm)), ih hslots hslots' hrest]

/-- **The key tells the condition,** and with it the arity, if its slots are single digits. -/
theorem key_inj {c c' : Condition} (hc : c.SingleDigits) (hc' : c'.SingleDigits)
    (h : c.key = c'.key) : c = c' := by
  have hchars : ∀ c : Condition, c.key.toList = c.slots.flatMap fun s => (slotKey s).toList := by
    intro c
    rw [key, String.toList_join, List.flatMap_map]
  exact congrArg mk (eq_of_flatMap_slotKey hc hc' (by rw [← hchars, ← hchars, h]))

example : (ofDigits [1, 11]).key = (ofDigits [11, 1]).key := rfl

/-- **A condition is told by its texts:** by its display, and, if the slots that are set
hold single digits, by its key. -/
theorem told_by_texts (c c' : Condition) :
    (c.display = c'.display ↔ c = c') ∧
      (c.SingleDigits → c'.SingleDigits → (c.key = c'.key ↔ c = c')) :=
  ⟨display_injective.eq_iff, fun hc hc' => ⟨key_inj hc hc', congrArg key⟩⟩

/-- With the same two numbers in the same order, it matters where the unset slot stands. -/
theorem told_by_texts_of_unset :
    SingleDigits ⟨[none, some 1, some 0]⟩ ∧ SingleDigits ⟨[some 1, none, some 0]⟩ ∧
      key ⟨[none, some 1, some 0]⟩ ≠ key ⟨[some 1, none, some 0]⟩ ∧
      display ⟨[none, some 1, some 0]⟩ ≠ display ⟨[some 1, none, some 0]⟩ := by
  have hc : SingleDigits ⟨[none, some 1, some 0]⟩ := by decide
  have hc' : SingleDigits ⟨[some 1, none, some 0]⟩ := by decide
  obtain ⟨hdisplay, hkey⟩ := told_by_texts ⟨[none, some 1, some 0]⟩ ⟨[some 1, none, some 0]⟩
  refine ⟨hc, hc', fun h => ?_, fun h => ?_⟩
  · exact absurd ((hkey hc hc').1 h) (by decide)
  · exact absurd (hdisplay.1 h) (by decide)

end Condition
end Alternation
