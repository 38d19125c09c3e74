/-
# The texts of floats

`SPEC_FULL` §10.4: the floats of JSON that is written.

The text of a float is its sign and its shortest decimal, in one of four layouts.  Each of
these is a well-formed `Spelling` (`Spelling.wellFormed_ofDec`) and has the value of the
decimal (`Spelling.magnitude_ofDec`).  So the text of a float is read as a numeral that
tells the float (`Spelling.eq_of_ofFloat`), and never as a whole number.
-/

import Alternation.Json.Basic
import Alternation.Proofs.Decimal.Shortest
import Alternation.Proofs.Json.Numeral

namespace Alternation
namespace Json

/-- The absolute value of a numeral. -/
def Numeral.magnitude (n : Numeral) : ℚ :=
  ofDigits (n.front ++ n.fraction) * 10 ^ (n.exponent - n.fraction.length)

namespace Spelling

variable {s : Spelling}

/-! ## Decimals -/

section

variable (negative : Bool) (d : Decimal.Dec)

/-- The digits of a decimal, as characters. -/
def row (d : Decimal.Dec) : List Char := Nat.toDigits 10 d.digits

/-- The number of digits before the point; a negative one counts zeros after the point. -/
def before (d : Decimal.Dec) : ℤ := (row d).length + d.exp

/-- All digits come before the point. -/
def padded : Spelling :=
  ⟨negative, row d ++ List.replicate d.exp.toNat '0', some ['0'], none⟩

/-- The point comes between digits. -/
def pointed : Spelling :=
  ⟨negative, (row d).take (before d).toNat, some ((row d).drop (before d).toNat), none⟩

/-- All digits come after the point. -/
def fractional : Spelling :=
  ⟨negative, ['0'], some (List.replicate (-before d).toNat '0' ++ row d), none⟩

/-- One digit comes before the point, and there is an exponent. -/
def scientific : Spelling :=
  ⟨negative, (row d).take 1, if (row d).length = 1 then none else some ((row d).drop 1),
    some (decide (before d - 1 < 0), Nat.toDigits 10 (before d - 1).natAbs)⟩

/-- The spelling of a decimal, in the layout of floats. -/
def ofDec : Spelling :=
  if floatLayout.plain (before d - 1) then
    if 0 ≤ d.exp then padded negative d
    else if 0 < before d then pointed negative d
    else fractional negative d
  else scientific negative d

/-- What holds of each layout holds of the spelling of a decimal. -/
theorem ofDec_cases {P : Spelling → Prop} (hpadded : 0 ≤ d.exp → P (padded negative d))
    (hpointed : d.exp < 0 → 0 < before d → P (pointed negative d))
    (hfractional : before d ≤ 0 → P (fractional negative d))
    (hscientific : P (scientific negative d)) : P (ofDec negative d) := by
  unfold ofDec
  split
  · split
    · exact hpadded ‹_›
    · split
      · exact hpointed (by omega) ‹_›
      · exact hfractional (by omega)
  · exact hscientific

end

variable {negative : Bool} {d : Decimal.Dec}

/-! ### Their texts -/

/-- The digits behind the first one, and the point before them if there are any. -/
theorem toList_point (digits : List Char) :
    (if digits.length = 1 then "" else ".").toList ++ digits.drop 1 =
      (if digits.length = 1 then none else some (digits.drop 1)).elim [] fun ds => '.' :: ds := by
  split
  · rename_i h
    rw [List.drop_eq_nil_of_le h.le]
    rfl
  · rfl

/-- The sign of an exponent, which is never left out. -/
theorem toList_sign (k : ℤ) :
    (if 0 ≤ k then "+" else "-").toList = [if decide (k < 0) then '-' else '+'] := by
  by_cases h : 0 ≤ k
  · rw [if_pos h, decide_eq_false (by omega)]
    rfl
  · rw [if_neg h, decide_eq_true (by omega)]
    rfl

/-- The scientific layout, its parts in a row. -/
theorem scientific_eq : Decimal.Layout.scientific d =
    String.ofList ((row d).take 1) ++ (if (row d).length = 1 then "" else ".") ++
      String.ofList ((row d).drop 1) ++ "e" ++ (if 0 ≤ before d - 1 then "+" else "-") ++
      toString (before d - 1).natAbs := rfl

/-- Spelled out, the scientific spelling is the scientific layout. -/
theorem chars_scientific : (scientific negative d).chars =
    signChars negative ++ (Decimal.Layout.scientific d).toList := by
  simp only [scientific_eq, String.toList_append, String.toList_ofList, toList_sign, chars,
    fractionChars, scientific, exponentChars, Option.elim_some, Nat.toString_eq_ofList_toDigits,
    List.append_assoc]
  rw [← toList_point, List.append_assoc]
  rfl

/-- The layout of a float in JSON, its four cases side by side. -/
theorem dec_eq : floatLayout.dec d =
    if floatLayout.plain (before d - 1) then
      if 0 ≤ d.exp then String.ofList (row d) ++ Decimal.Layout.zeros d.exp.toNat ++ ".0"
      else if 0 < before d then
        String.ofList ((row d).take (before d).toNat) ++ "." ++
          String.ofList ((row d).drop (before d).toNat)
      else "0." ++ Decimal.Layout.zeros (-before d).toNat ++ String.ofList (row d)
    else Decimal.Layout.scientific d := rfl

/-- The text of a decimal is that of its spelling. -/
theorem chars_ofDec : (ofDec negative d).chars =
    signChars negative ++ (floatLayout.dec d).toList := by
  rw [ofDec, dec_eq]
  split
  · split
    · simp [chars, padded, fractionChars, exponentChars, Decimal.Layout.zeros]
    · split
      · simp [chars, pointed, fractionChars, exponentChars]
      · simp [chars, fractional, fractionChars, exponentChars, Decimal.Layout.zeros]
  · exact chars_scientific

/-! ### They are well-formed -/

/-- Digits of a row and noughts are a row. -/
theorem isRow_of_mem {ds : List Char} (hne : ds ≠ []) (h : ∀ c ∈ ds, c = '0' ∨ c ∈ row d) :
    IsRow ds := by
  refine ⟨hne, fun c hc => ?_⟩
  rcases h c hc with rfl | hmem
  · rfl
  · exact (isRow_toDigits d.digits).isDigit c hmem

/-- A decimal has a digit. -/
theorem row_ne_nil : row d ≠ [] := Nat.toDigits_ne_nil

/-- A decimal has one digit at least. -/
theorem row_length_pos : 0 < (row d).length := Nat.length_toDigits_pos

/-- The first digits are a row. -/
theorem isRow_take {n : ℕ} (hn : 0 < n) : IsRow ((row d).take n) := by
  refine isRow_of_mem (d := d) ?_ fun c hc => .inr (List.mem_of_mem_take hc)
  rw [ne_eq, List.take_eq_nil_iff, not_or]
  exact ⟨hn.ne', row_ne_nil⟩

/-- The last digits are a row. -/
theorem isRow_drop {n : ℕ} (hn : n < (row d).length) : IsRow ((row d).drop n) := by
  refine isRow_of_mem (d := d) ?_ fun c hc => .inr (List.mem_of_mem_drop hc)
  rw [ne_eq, List.drop_eq_nil_iff]
  omega

/-- A whole number with noughts behind it is well-formed. -/
theorem wellFormed_padded (hzero : d.digits = 0 → d.exp = 0) : (padded negative d).WellFormed where
  front := by
    refine isRow_of_mem (d := d) (List.append_ne_nil_of_left_ne_nil row_ne_nil _) fun c hc => ?_
    rcases List.mem_append.1 hc with hc | hc
    · exact .inr hc
    · exact .inl (List.eq_of_mem_replicate hc)
  lead hhead := by
    simp only [padded] at hhead ⊢
    rw [List.head?_append_of_ne_nil _ row_ne_nil] at hhead
    have hdigits := eq_zero_of_head hhead
    rw [row, hdigits, hzero hdigits]
    rfl
  fraction := by
    rintro ds ⟨⟩
    exact ⟨nofun, by simp⟩
  exponent := nofun

/-- A number with its point among its digits is well-formed. -/
theorem wellFormed_pointed (hzero : d.digits = 0 → d.exp = 0) (hexp : d.exp < 0)
    (hbefore : 0 < before d) : (pointed negative d).WellFormed where
  front := isRow_take (by omega)
  lead hhead := by
    simp only [pointed] at hhead
    rw [List.head?_take, if_neg (show (before d).toNat ≠ 0 by omega)] at hhead
    have hexp' := hzero (eq_zero_of_head hhead)
    omega
  fraction := by
    rintro ds ⟨⟩
    refine isRow_drop ?_
    rw [before] at hbefore ⊢
    omega
  exponent := nofun

/-- A number with its point before its digits is well-formed. -/
theorem wellFormed_fractional : (fractional negative d).WellFormed where
  front := ⟨nofun, by simp [fractional]⟩
  lead _ := rfl
  fraction := by
    rintro ds ⟨⟩
    refine isRow_of_mem (d := d) (List.append_ne_nil_of_right_ne_nil _ row_ne_nil) fun c hc => ?_
    rcases List.mem_append.1 hc with hc | hc
    · exact .inl (List.eq_of_mem_replicate hc)
    · exact .inr hc
  exponent := nofun

/-- A number with an exponent is well-formed. -/
theorem wellFormed_scientific : (scientific negative d).WellFormed where
  front := isRow_take (by omega)
  lead _ := by
    have hpos := row_length_pos (d := d)
    simp only [scientific, List.length_take]
    omega
  fraction := by
    have hpos := row_length_pos (d := d)
    intro ds hds
    simp only [scientific] at hds
    split at hds
    · exact nomatch hds
    · obtain rfl := Option.some.inj hds
      exact isRow_drop (by omega)
  exponent := by
    rintro e ⟨⟩
    exact isRow_toDigits _

/-- The only decimal without a digit other than zero that is spelled has no exponent. -/
theorem wellFormed_ofDec (hzero : d.digits = 0 → d.exp = 0) : (ofDec negative d).WellFormed :=
  ofDec_cases negative d (fun _ => wellFormed_padded hzero)
    (fun hexp hbefore => wellFormed_pointed hzero hexp hbefore) (fun _ => wellFormed_fractional)
    wellFormed_scientific

/-! ### Their values -/

/-- Zeros at either end of the digits count for the place of the others only. -/
theorem magnitude_eq (leading trailing : ℕ)
    (hdigits : s.front ++ s.fraction.getD [] =
      List.replicate leading '0' ++ (row d ++ List.replicate trailing '0'))
    (hexp : (s.exponent.map exponentValue).getD 0 - (s.fraction.getD []).length + trailing =
      d.exp) :
    s.numeral.magnitude = d.value := by
  have hfraction : (s.fraction.map (·.map digitValue)).getD [] =
      (s.fraction.getD []).map digitValue := by
    cases s.fraction <;> rfl
  rw [Numeral.magnitude, numeral, hfraction, ← List.map_append, ofDigits_map, List.length_map,
    hdigits, Nat.ofDigitChars_append, Nat.ofDigitChars_append, Nat.ofDigitChars_replicate_zero,
    Nat.ofDigitChars_replicate_zero, mul_zero, row, Nat.ofDigitChars_ten_toDigits,
    Decimal.Dec.value, ← hexp, zpow_add₀ (by norm_num)]
  push_cast
  rw [zpow_natCast]
  ring

/-- An exponent is read back from its sign and digits. -/
theorem exponentValue_eq (k : ℤ) :
    exponentValue (decide (k < 0), Nat.toDigits 10 k.natAbs) = k := by
  rw [exponentValue, ofDigits_toDigits]
  by_cases hk : k < 0
  · rw [if_pos (decide_eq_true hk)]
    omega
  · rw [decide_eq_false hk, if_neg Bool.false_ne_true]
    omega

/-- The scientific spelling has the value of the decimal. -/
theorem magnitude_scientific : (scientific negative d).numeral.magnitude = d.value := by
  have hpos := row_length_pos (d := d)
  have hfraction : (scientific negative d).fraction.getD [] = (row d).drop 1 := by
    simp only [scientific]
    split
    · rw [Option.getD_none, List.drop_eq_nil_of_le (by omega)]
    · rfl
  refine magnitude_eq 0 0 ?_ ?_
  · rw [hfraction]
    show (row d).take 1 ++ (row d).drop 1 = _
    simp only [List.take_append_drop, List.replicate_zero, List.nil_append, List.append_nil]
  · rw [hfraction, List.length_drop]
    show exponentValue _ - _ + _ = _
    rw [exponentValue_eq, before]
    omega

/-- **The spelling of a decimal has its value.** -/
theorem magnitude_ofDec : (ofDec negative d).numeral.magnitude = d.value := by
  refine ofDec_cases (P := fun s => s.numeral.magnitude = d.value) negative d (fun hexp => ?_)
    (fun hexp hbefore => ?_) (fun hbefore => ?_) magnitude_scientific
  · refine magnitude_eq 0 (d.exp.toNat + 1) ?_ ?_
    · show row d ++ List.replicate d.exp.toNat '0' ++ ['0'] = row d ++ _
      rw [List.append_assoc, List.replicate_succ']
    · show (0 : ℤ) - 1 + (d.exp.toNat + 1 : ℕ) = d.exp
      omega
  · refine magnitude_eq 0 0 ?_ ?_
    · show (row d).take _ ++ (row d).drop _ = row d ++ []
      rw [List.take_append_drop, List.append_nil]
    · show (0 : ℤ) - ((row d).drop (before d).toNat).length + 0 = d.exp
      rw [List.length_drop, before] at *
      omega
  · refine magnitude_eq ((-before d).toNat + 1) 0 ?_ ?_
    · show '0' :: (List.replicate _ '0' ++ row d) = _ ++ (row d ++ [])
      rw [List.append_nil, List.replicate_succ, List.cons_append]
    · show (0 : ℤ) - (List.replicate (-before d).toNat '0' ++ row d).length + 0 = d.exp
      rw [List.length_append, List.length_replicate, before] at *
      omega

/-- A decimal is never spelled as a whole number is. -/
theorem whole_ofDec : (ofDec negative d).numeral.whole = false :=
  ofDec_cases (P := fun s => s.numeral.whole = false) negative d (fun _ => rfl) (fun _ _ => rfl)
    (fun _ => rfl) (Bool.and_false _)

/-- The sign is spelled as it is. -/
theorem negative_ofDec : (ofDec negative d).numeral.negative = negative :=
  ofDec_cases (P := fun s => s.numeral.negative = negative) negative d (fun _ => rfl)
    (fun _ _ => rfl) (fun _ => rfl) rfl

/-! ## Floats -/

/-- The spelling of a float. -/
def ofFloat (x : Float) : Spelling :=
  ofDec (decide (x.toBits >>> 63 = 1))
    ((Decimal.Binary.ofBits x.toBits).shortest floatLayout.tie)

/-- A float is finite, or it is none of the numbers, or infinite. -/
theorem isNaN_or_isInf (x : Float) : (x.isNaN || x.isInf) = !x.isFinite := by
  simp only [Float.isFinite, Float.isNaN, Float.isInf, Float.Model.isFinite, Float.Model.isNaN,
    Float.Model.isInf]
  cases x.toModel.unpack <;> rfl

/-- A float that is not finite is written `null`. -/
theorem floatText_of_not_finite {x : Float} (hx : ¬ x.isFinite = true) : floatText x = "null" := by
  rw [floatText, isNaN_or_isInf, Bool.eq_false_iff.2 hx]
  rfl

/-- **The spelling of a finite float** is its text. -/
theorem chars_ofFloat {x : Float} (hx : x.isFinite = true) :
    (ofFloat x).chars = (floatText x).toList := by
  rw [ofFloat, chars_ofDec, floatText, isNaN_or_isInf, hx, Bool.not_true,
    if_neg Bool.false_ne_true, Decimal.Layout.finite, String.toList_append]
  by_cases hsign : x.toBits >>> 63 = 1
  · rw [decide_eq_true hsign, if_pos hsign]
    rfl
  · rw [decide_eq_false hsign, if_neg hsign]
    rfl

/-- The spelling of a float is well-formed. -/
theorem wellFormed_ofFloat (x : Float) : (ofFloat x).WellFormed :=
  wellFormed_ofDec fun h => by rw [Decimal.Binary.shortest_eq_zero h]

/-- Bits are told by their sign and their magnitude. -/
theorem eq_of_index {bits bits' : UInt64} (hsign : bits >>> 63 = 1 ↔ bits' >>> 63 = 1)
    (hindex : Decimal.Binary.index bits = Decimal.Binary.index bits') : bits = bits' := by
  have htop : ∀ b : UInt64, b >>> 63 = 1 ↔ b.toNat / 2 ^ 63 = 1 := fun b => by
    rw [← UInt64.toNat_inj, UInt64.toNat_shiftRight, Nat.shiftRight_eq_div_pow]
    rfl
  rw [htop, htop] at hsign
  have hbits := bits.toNat_lt
  have hbits' := bits'.toNat_lt
  rw [Decimal.Binary.index, Decimal.Binary.index] at hindex
  exact UInt64.toNat_inj.1 (by omega)

/-- **The numeral of a float tells the float.** -/
theorem eq_of_ofFloat {x y : Float} (h : (ofFloat x).numeral = (ofFloat y).numeral) : x = y := by
  have hmagnitude := congrArg Numeral.magnitude h
  rw [ofFloat, ofFloat, magnitude_ofDec, magnitude_ofDec] at hmagnitude
  have hsign := congrArg Numeral.negative h
  rw [ofFloat, ofFloat, negative_ofDec, negative_ofDec] at hsign
  have hbits : x.toBits = y.toBits :=
    eq_of_index (decide_eq_decide.1 hsign) (Decimal.Binary.index_eq_of_shortest hmagnitude)
  -- A float is its bits, together with a proof that they are valid.
  obtain ⟨⟨bits, _⟩⟩ := x
  obtain ⟨⟨bits', _⟩⟩ := y
  obtain rfl : bits = bits' := hbits
  rfl

end Spelling
end Json
end Alternation
