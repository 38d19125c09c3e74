/-
# Numerals that are read back

`SPEC_FULL` §10.4: the numerals of JSON that is written, and how they are read.

A `Spelling` is a numeral as it stands in a text: rows of digits before and after the
point, and an exponent with its sign.  Reading the text of a well-formed one gives its
`Spelling.numeral` and stops at its end (`Spelling.read_chars`).  The numeral of a whole
number tells the number (`Spelling.ofInt_injective`).
-/

import Alternation.Json.Numeral
import Mathlib.Data.List.Basic
import Mathlib.Tactic.IntervalCases
import Mathlib.Tactic.NormNum

namespace Alternation
namespace Json

/-! ## Rows of digits -/

/-- The value of a digit. -/
def digitValue (c : Char) : ℕ := c.toNat - 48

/-- A row of at least one digit. -/
structure IsRow (ds : List Char) : Prop where
  ne_nil : ds ≠ []
  isDigit : ∀ c ∈ ds, c.isDigit = true

/-- The digits of a number are a row. -/
theorem isRow_toDigits (n : ℕ) : IsRow (Nat.toDigits 10 n) :=
  ⟨Nat.toDigits_ne_nil, fun _ hc => Nat.isDigit_of_mem_toDigits (by norm_num) (by norm_num) hc⟩

/-- A row has a first digit. -/
theorem IsRow.exists_cons {ds : List Char} (h : IsRow ds) : ∃ d ds', ds.map digitValue = d :: ds' :=
  List.exists_cons_of_ne_nil (by rw [ne_eq, List.map_eq_nil_iff]; exact h.ne_nil)

/-- The only row of a number's digits that starts with zero is that of zero. -/
theorem eq_zero_of_head {n : ℕ} (h : (Nat.toDigits 10 n).head? = some '0') : n = 0 := by
  induction n using Nat.strong_induction_on with
  | _ n ih =>
    rcases Nat.lt_or_ge n 10 with hn | hn
    · interval_cases n <;> first | rfl | exact absurd h (by decide)
    · rw [Nat.toDigits_of_base_le (by norm_num) hn,
        List.head?_append_of_ne_nil _ Nat.toDigits_ne_nil] at h
      have hzero := ih (n / 10) (by omega) h
      omega

/-- A row is read as the number with these digits. -/
theorem ofDigits_map (ds : List Char) :
    Numeral.ofDigits (ds.map digitValue) = Nat.ofDigitChars 10 ds 0 := by
  rw [Numeral.ofDigits, List.foldl_map, Nat.ofDigitChars_eq_foldl]
  rfl

/-- The digits of a number are read as the number. -/
theorem ofDigits_toDigits (n : ℕ) : Numeral.ofDigits ((Nat.toDigits 10 n).map digitValue) = n := by
  rw [ofDigits_map, Nat.ofDigitChars_ten_toDigits]

/-- What follows does not start with a digit. -/
def NoDigit (rest : List Char) : Prop := ∀ c ∈ rest.head?, c.isDigit = false

/-- Digits are read up to the first character that is none. -/
theorem readDigits_append {ds rest : List Char} (hds : ∀ c ∈ ds, c.isDigit = true)
    (hrest : NoDigit rest) : Numeral.readDigits (ds ++ rest) = (ds.map digitValue, rest) := by
  have hstop : rest.takeWhile Char.isDigit = [] ∧ rest.dropWhile Char.isDigit = rest := by
    cases rest with
    | nil => exact ⟨rfl, rfl⟩
    | cons c rest =>
      have hc : c.isDigit = false := hrest c rfl
      rw [List.takeWhile_cons, List.dropWhile_cons, hc]
      exact ⟨rfl, rfl⟩
  rw [Numeral.readDigits, List.takeWhile_append_of_pos hds, List.dropWhile_append_of_pos hds,
    hstop.1, hstop.2, List.append_nil]
  rfl

/-! ## Spellings -/

/-- A numeral as it stands in a text. -/
structure Spelling where
  negative : Bool
  front : List Char
  /-- The digits after the point, if there is one. -/
  fraction : Option (List Char)
  /-- The exponent, if there is one: whether it is negative, and its digits. -/
  exponent : Option (Bool × List Char)

namespace Spelling

/-- The text of the sign. -/
def signChars (negative : Bool) : List Char := if negative then ['-'] else []

/-- The text of the fraction. -/
def fractionChars (s : Spelling) : List Char := s.fraction.elim [] fun ds => '.' :: ds

/-- The text of the exponent. -/
def exponentChars (s : Spelling) : List Char :=
  s.exponent.elim [] fun e => 'e' :: (if e.1 then '-' else '+') :: e.2

/-- The text. -/
def chars (s : Spelling) : List Char :=
  signChars s.negative ++ (s.front ++ (s.fractionChars ++ s.exponentChars))

/-- The value of the exponent. -/
def exponentValue (e : Bool × List Char) : ℤ :=
  (if e.1 then -1 else 1) * Numeral.ofDigits (e.2.map digitValue)

/-- What the text is read as. -/
def numeral (s : Spelling) : Numeral where
  negative := s.negative
  front := s.front.map digitValue
  fraction := (s.fraction.map (·.map digitValue)).getD []
  exponent := (s.exponent.map exponentValue).getD 0
  whole := s.fraction.isNone && s.exponent.isNone

/-- Every row has a digit, and there are no leading zeros. -/
structure WellFormed (s : Spelling) : Prop where
  front : IsRow s.front
  lead : s.front.head? = some '0' → s.front.length = 1
  fraction : ∀ ds ∈ s.fraction, IsRow ds
  exponent : ∀ e ∈ s.exponent, IsRow e.2

/-- What follows does not continue a numeral. -/
def Ends (rest : List Char) : Prop :=
  ∀ c ∈ rest.head?, c.isDigit = false ∧ c ≠ '.' ∧ c ≠ 'e' ∧ c ≠ 'E'

/-- Where a numeral ends, no digit follows. -/
theorem Ends.noDigit {rest : List Char} (h : Ends rest) : NoDigit rest := fun c hc => (h c hc).1

variable {s : Spelling} {rest : List Char}

/-- An exponent is read back, or that there is none. -/
theorem readExponent_append (h : ∀ e ∈ s.exponent, IsRow e.2) (hrest : Ends rest) :
    Numeral.readExponent (s.exponentChars ++ rest) = some (s.exponent.map exponentValue, rest) := by
  unfold exponentChars
  cases hexponent : s.exponent with
  | none =>
    cases rest with
    | nil => rfl
    | cons c rest =>
      obtain ⟨-, -, he, hE⟩ := hrest c rfl
      show Numeral.readExponent (c :: rest) = _
      simp [Numeral.readExponent, he, hE]
  | some e =>
    obtain ⟨negative, ds⟩ := e
    have hrow : IsRow ds := h _ hexponent
    have hread := readDigits_append hrow.isDigit hrest.noDigit
    obtain ⟨d, ds', hcons⟩ := IsRow.exists_cons hrow
    show Numeral.readExponent ('e' :: (if negative then '-' else '+') :: (ds ++ rest)) = _
    cases negative <;>
      simp [Numeral.readExponent, hread, hcons, exponentValue]

/-- A fraction is read back, or that there is none. -/
theorem readFraction_append (h : ∀ ds ∈ s.fraction, IsRow ds)
    (hrest : NoDigit rest) (hpoint : s.fraction = none → ∀ c ∈ rest.head?, c ≠ '.') :
    Numeral.readFraction (s.fractionChars ++ rest) =
      some (s.fraction.map (·.map digitValue), rest) := by
  unfold fractionChars
  cases hfraction : s.fraction with
  | none =>
    cases rest with
    | nil => rfl
    | cons c rest =>
      have hc := hpoint hfraction c rfl
      show Numeral.readFraction (c :: rest) = _
      unfold Numeral.readFraction
      split
      · rename_i heq
        exact absurd (List.cons.inj heq).1 hc
      · rfl
  | some ds =>
    have hrow : IsRow ds := h _ hfraction
    have hread := readDigits_append hrow.isDigit hrest
    obtain ⟨d, ds', hcons⟩ := IsRow.exists_cons hrow
    show Numeral.readFraction ('.' :: (ds ++ rest)) = _
    simp [Numeral.readFraction, hread, hcons]

/-- An exponent does not continue the digits before it. -/
theorem head_exponent (hrest : Ends rest) :
    ∀ c ∈ (s.exponentChars ++ rest).head?, c.isDigit = false ∧ c ≠ '.' := by
  unfold exponentChars
  cases s.exponent with
  | none => exact fun c hc => ⟨(hrest c hc).1, (hrest c hc).2.1⟩
  | some e =>
    rintro c ⟨⟩
    exact ⟨rfl, by decide⟩

/-- A fraction does not continue the digits before it. -/
theorem noDigit_fraction (hrest : Ends rest) :
    NoDigit (s.fractionChars ++ (s.exponentChars ++ rest)) := by
  unfold fractionChars
  cases s.fraction with
  | none => exact fun c hc => (head_exponent hrest c hc).1
  | some ds =>
    rintro c ⟨⟩
    rfl

/-- A well-formed row before the point is one that is read. -/
theorem front_not_refused (h : s.WellFormed) :
    ¬ (s.front.map digitValue = [] ∨
      (s.front.map digitValue).length ≠ 1 ∧ (s.front.map digitValue).head? = some 0) := by
  obtain ⟨c, cs, hfront⟩ := List.exists_cons_of_ne_nil h.front.ne_nil
  have hdigit := h.front.isDigit c (by rw [hfront]; exact List.mem_cons_self ..)
  rintro (hnil | ⟨hlength, hhead⟩)
  · exact h.front.ne_nil (List.map_eq_nil_iff.1 hnil)
  · rw [hfront] at hhead
    have hvalue : c.toNat - 48 = 0 := Option.some.inj hhead
    have hc : c = '0' := by
      obtain ⟨hlow, -⟩ := Char.isDigit_iff_toNat.1 hdigit
      have hlow' : 48 ≤ c.toNat := hlow
      exact Char.toNat_inj.1 (by show c.toNat = 48; omega)
    rw [List.length_map] at hlength
    exact hlength (h.lead (by rw [hfront, hc]; rfl))

/-- **The text of a spelling is read**, up to where it ends. -/
theorem read_chars (h : s.WellFormed) (hrest : Ends rest) :
    Numeral.read (s.chars ++ rest) = some (s.numeral, rest) := by
  have hmagnitude : ∀ negative, Numeral.readMagnitude negative
      (s.front ++ (s.fractionChars ++ (s.exponentChars ++ rest))) =
        some (⟨negative, s.numeral.front, s.numeral.fraction, s.numeral.exponent,
          s.numeral.whole⟩, rest) := by
    intro negative
    rw [Numeral.readMagnitude, readDigits_append h.front.isDigit (noDigit_fraction hrest)]
    dsimp only
    rw [if_neg (front_not_refused h),
      readFraction_append h.fraction (fun c hc => (head_exponent hrest c hc).1)
        (fun _ c hc => (head_exponent hrest c hc).2), Option.bind_eq_bind, Option.bind_some,
      readExponent_append h.exponent hrest]
    simp [numeral]
  simp only [chars, List.append_assoc]
  cases hnegative : s.negative with
  | true =>
    show Numeral.readMagnitude true (s.front ++ _) = _
    rw [hmagnitude, numeral, hnegative]
  | false =>
    obtain ⟨c, cs, hfront⟩ := List.exists_cons_of_ne_nil h.front.ne_nil
    have hdigit := h.front.isDigit c (by rw [hfront]; exact List.mem_cons_self ..)
    have hminus : c ≠ '-' := by
      rintro rfl
      exact absurd hdigit (by decide)
    have hread : ∀ cs, Numeral.read (c :: cs) = Numeral.readMagnitude false (c :: cs) := by
      intro cs
      unfold Numeral.read
      split
      · rename_i heq
        exact absurd (List.cons.inj heq).1 hminus
      · rfl
    have hmagnitude' := hmagnitude false
    rw [hfront, List.cons_append, ← hread, ← List.cons_append, ← hfront] at hmagnitude'
    rw [signChars, if_neg Bool.false_ne_true, List.nil_append, hmagnitude', numeral, hnegative]

/-! ## Whole numbers -/

/-- The spelling of a whole number. -/
def ofInt (i : ℤ) : Spelling := ⟨decide (i < 0), Nat.toDigits 10 i.natAbs, none, none⟩

/-- The spelling of an integer is its text. -/
theorem chars_ofInt (i : ℤ) : (ofInt i).chars = (toString i).toList := by
  rw [Int.toString_eq_repr, Int.repr_eq_if]
  split
  · rename_i hi
    have hneg : ¬ i < 0 := by omega
    have habs : i.toNat = i.natAbs := by omega
    simp [chars, ofInt, signChars, fractionChars, exponentChars, hneg, habs, Nat.toList_repr]
  · rename_i hi
    have hneg : i < 0 := by omega
    have habs : (-i).toNat = i.natAbs := by omega
    simp [chars, ofInt, signChars, fractionChars, exponentChars, hneg, habs, Nat.toList_repr]

/-- The spelling of an integer is well-formed. -/
theorem wellFormed_ofInt (i : ℤ) : (ofInt i).WellFormed where
  front := isRow_toDigits _
  lead h := by
    show (Nat.toDigits 10 i.natAbs).length = 1
    rw [eq_zero_of_head h, Nat.toDigits_zero]
    rfl
  fraction := nofun
  exponent := nofun

/-- **The numeral of a whole number tells the number.** -/
theorem ofInt_injective {i j : ℤ} (h : (ofInt i).numeral = (ofInt j).numeral) : i = j := by
  have hsign : decide (i < 0) = decide (j < 0) := congrArg Numeral.negative h
  have hfront := congrArg (fun n => Numeral.ofDigits n.front) h
  have habs : i.natAbs = j.natAbs := by
    simpa only [numeral, ofInt, ofDigits_toDigits] using hfront
  rw [decide_eq_decide] at hsign
  omega

/-- **The numeral of a whole number** within 64 bits has its value. -/
theorem int?_ofInt {i : ℤ} (hlow : Int64.minValue.toInt ≤ i) (hhigh : i < UInt64.size) :
    (ofInt i).numeral.int? = some i := by
  have hmagnitude : Numeral.ofDigits (ofInt i).numeral.front = i.natAbs :=
    ofDigits_toDigits i.natAbs
  have hnegative : (ofInt i).numeral.negative = decide (i < 0) := rfl
  have hwhole : (ofInt i).numeral.whole = true := rfl
  simp only [Numeral.int?, hmagnitude, hnegative, hwhole, not_true_eq_false, if_false,
    decide_eq_true_eq]
  split
  · rw [if_neg (by omega)]
    exact congrArg some (by omega)
  · rw [if_pos (by omega)]
    exact congrArg some (by omega)

end Spelling
end Json
end Alternation
