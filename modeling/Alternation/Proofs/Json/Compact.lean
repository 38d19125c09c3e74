/-
# Compact text is read back

`SPEC_FULL` §10.4: JSON that is written can be read, and tells what was written.

Every JSON value is written as the text of one document (`Document.parse?_compact`).  The
document tells the value as far as its floats are finite (`Document.ofJson_inj`), so two
values with the same compact text are one (`compact_inj`).  Of a float that is not finite
nothing is left but `null`.
-/

import Alternation.Json.Document
import Alternation.Proofs.Json.FloatText
import Alternation.Proofs.Json.Text

namespace Alternation
namespace Json

/-! ## The document of a value -/

namespace Document

mutual

/-- The document that the text of a value is. -/
def ofJson : Json → Document
  | .null => .null
  | .bool b => .bool b
  | .int i => .number (Spelling.ofInt i).numeral
  | .float x => if x.isFinite then .number (Spelling.ofFloat x).numeral else .null
  | .str s => .string (Symbol.symbols s)
  | .arr items => .array (ofItems items)
  | .obj members => .object (ofMembers members)

/-- The documents of the elements. -/
def ofItems : List Json → List Document
  | [] => []
  | j :: js => ofJson j :: ofItems js

/-- The names and documents of the members. -/
def ofMembers : List (String × Json) → List (List Symbol × Document)
  | [] => []
  | (k, j) :: ms => (Symbol.symbols k, ofJson j) :: ofMembers ms

end

/-- The documents of elements, one for each. -/
theorem ofItems_eq_map (js : List Json) : ofItems js = js.map ofJson := by
  induction js with
  | nil => rfl
  | cons j js ih => rw [ofItems, ih, List.map_cons]

/-- The documents of members, one for each, under the symbols of the key. -/
theorem ofMembers_eq_map (ms : List (String × Json)) :
    ofMembers ms = ms.map fun m => (Symbol.symbols m.1, ofJson m.2) := by
  induction ms with
  | nil => rfl
  | cons m ms ih => rw [ofMembers, ih, List.map_cons]

end Document

/-! ## Reading the text of a value -/

/-- Before a character that is not white space nothing is skipped. -/
theorem skipSpace_cons {c : Char} (hc : isSpace c = false) (cs : List Char) :
    skipSpace (c :: cs) = c :: cs := by
  rw [skipSpace, List.dropWhile_cons, hc]
  rfl

/-- A numeral starts with its sign or with a digit. -/
theorem Spelling.WellFormed.exists_cons {s : Spelling} (h : s.WellFormed) :
    ∃ c cs, s.chars = c :: cs ∧ (c = '-' ∨ c.isDigit = true) := by
  obtain ⟨c, cs, hfront⟩ := List.exists_cons_of_ne_nil h.front.ne_nil
  have hdigit := h.front.isDigit c (by rw [hfront]; exact List.mem_cons_self ..)
  rw [Spelling.chars, hfront]
  cases s.negative with
  | true => exact ⟨'-', _, rfl, .inl rfl⟩
  | false => exact ⟨c, _, rfl, .inr hdigit⟩

/-- A character that starts a numeral starts nothing else. -/
theorem not_numeral {c : Char} (hc : c = '-' ∨ c.isDigit = true) :
    c ∉ [' ', '\n', '\t', '\r', ']', '[', '\x7b', '"', 'n', 't', 'f'] := by
  rcases hc with rfl | hc
  · decide
  · intro hmem
    simp only [List.mem_cons, List.not_mem_nil, or_false] at hmem
    rcases hmem with rfl | rfl | rfl | rfl | rfl | rfl | rfl | rfl | rfl | rfl | rfl <;>
      exact absurd hc (by decide)

/-- Neither a sign nor a digit is white space. -/
theorem not_space {c : Char} (hc : c = '-' ∨ c.isDigit = true) : isSpace c = false := by
  have hnot := not_numeral hc
  simp only [List.mem_cons, List.not_mem_nil, or_false, not_or] at hnot
  simp only [isSpace, Bool.or_eq_false_iff, beq_eq_false_iff_ne]
  exact ⟨⟨⟨hnot.1, hnot.2.1⟩, hnot.2.2.1⟩, hnot.2.2.2.1⟩

/-- A well-formed numeral is read back, whatever ends it. -/
theorem readValue_numeral {s : Spelling} (h : s.WellFormed) {rest : List Char}
    (hrest : Spelling.Ends rest) (depth : ℕ) :
    readValue (depth + 1) (s.chars ++ rest) = some (.number s.numeral, rest) := by
  have hread := Spelling.read_chars h hrest
  obtain ⟨c, cs, hchars, hc⟩ := h.exists_cons
  have hnot := not_numeral hc
  simp only [List.mem_cons, List.not_mem_nil, or_false, not_or] at hnot
  obtain ⟨-, -, -, -, -, harray, hobject, hstring, hnull, htrue, hfalse⟩ := hnot
  rw [hchars, List.cons_append] at hread ⊢
  rw [readValue, skipSpace_cons (not_space hc)]
  split
  case h_8 =>
    rw [hread]
    rfl
  case h_1 heq => exact nomatch heq
  all_goals
    rename_i heq
    exact absurd (List.cons.inj heq).1 (by assumption)

/-- The text of a value starts neither with white space nor with a closing bracket. -/
theorem compactChars_eq_cons (j : Json) :
    ∃ c cs, j.compactChars = c :: cs ∧ isSpace c = false ∧ c ≠ ']' := by
  have hnumeral : ∀ {s : Spelling}, s.WellFormed →
      ∃ c cs, s.chars = c :: cs ∧ isSpace c = false ∧ c ≠ ']' := by
    intro s h
    obtain ⟨c, cs, hchars, hc⟩ := h.exists_cons
    exact ⟨c, cs, hchars, not_space hc, fun h => not_numeral hc (by simp [h])⟩
  cases j with
  | null => exact ⟨_, _, rfl, rfl, by decide⟩
  | bool b => cases b <;> exact ⟨_, _, rfl, rfl, by decide⟩
  | int i =>
    rw [compactChars, ← Spelling.chars_ofInt]
    exact hnumeral (Spelling.wellFormed_ofInt i)
  | float x =>
    rw [compactChars]
    by_cases hx : x.isFinite = true
    · rw [← Spelling.chars_ofFloat hx]
      exact hnumeral (Spelling.wellFormed_ofFloat x)
    · rw [Spelling.floatText_of_not_finite hx]
      exact ⟨_, _, rfl, rfl, by decide⟩
  | str s => exact ⟨_, _, rfl, rfl, by decide⟩
  | arr items => exact ⟨_, _, rfl, rfl, by decide⟩
  | obj members => exact ⟨_, _, rfl, rfl, by decide⟩

/-- An array that does not close at once is its bracket and its items. -/
theorem readValue_array {c : Char} (hspace : isSpace c = false) (hclose : c ≠ ']') (depth : ℕ)
    (cs : List Char) : readValue (depth + 1) ('[' :: c :: cs) =
      (readItems depth (c :: cs)).map fun p => (.array p.1, p.2) := by
  have hbracket : skipSpace ('[' :: c :: cs) = '[' :: c :: cs := rfl
  simp only [readValue, hbracket, skipSpace_cons hspace]
  split
  · rename_i heq
    exact absurd (List.cons.inj heq).1 hclose
  · rfl

/-- An item with a comma behind it comes before the others. -/
theorem readItems_cons {depth : ℕ} {cs rest : List Char} {d : Document}
    (hvalue : readValue depth cs = some (d, ',' :: rest)) :
    readItems (depth + 1) cs = (readItems depth rest).map fun p => (d :: p.1, p.2) := by
  rw [readItems, hvalue]
  show (readItems depth rest).bind _ = _
  cases readItems depth rest <;> rfl

/-- A member with a closing brace behind it is the last one. -/
theorem readMembers_last {depth : ℕ} {cs rest rest' : List Char} {key : List Symbol} {d : Document}
    (hkey : readString cs = some (key, ':' :: rest))
    (hvalue : readValue depth rest = some (d, '\x7d' :: rest')) :
    readMembers (depth + 1) ('"' :: cs) = some ([(key, d)], rest') := by
  show (readString cs).bind _ = _
  rw [hkey]
  show (readValue depth rest).bind _ = _
  rw [hvalue]
  rfl

/-- A member with a comma behind it comes before the others. -/
theorem readMembers_cons {depth : ℕ} {cs rest rest' : List Char} {key : List Symbol} {d : Document}
    (hkey : readString cs = some (key, ':' :: rest))
    (hvalue : readValue depth rest = some (d, ',' :: rest')) :
    readMembers (depth + 1) ('"' :: cs) =
      (readMembers depth rest').map fun p => ((key, d) :: p.1, p.2) := by
  show (readString cs).bind _ = _
  rw [hkey]
  show (readValue depth rest).bind _ = _
  rw [hvalue]
  show (readMembers depth rest').bind _ = _
  cases readMembers depth rest' <;> rfl

/-- The text of elements starts with that of the first. -/
theorem compactItems_eq_cons (j : Json) (js : List Json) :
    ∃ c cs, compactItems (j :: js) = c :: cs ∧ isSpace c = false ∧ c ≠ ']' := by
  obtain ⟨c, cs, hchars, hspace, hclose⟩ := compactChars_eq_cons j
  cases js with
  | nil => exact ⟨c, cs, hchars, hspace, hclose⟩
  | cons j' js => exact ⟨c, _, by rw [compactItems, hchars]; rfl, hspace, hclose⟩

/-- The text of members starts with the quote of the first name. -/
theorem compactMembers_eq_cons (m : String × Json) (ms : List (String × Json)) :
    ∃ cs, compactMembers (m :: ms) = '"' :: cs := by
  cases ms with
  | nil => exact ⟨_, rfl⟩
  | cons m' ms => exact ⟨_, rfl⟩

/-- A comma or a closing bracket does not continue a numeral. -/
theorem ends_cons {c : Char} (hc : c ∈ [',', ']', '\x7d']) {rest : List Char} :
    Spelling.Ends (c :: rest) := by
  rintro _ ⟨⟩
  simp only [List.mem_cons, List.not_mem_nil, or_false] at hc
  rcases hc with rfl | rfl | rfl <;> decide

/-- With this depth, texts are read as the documents of their values. -/
structure ReadsBack (depth : ℕ) : Prop where
  value : ∀ (j : Json) (rest : List Char), j.compactChars.length < depth → Spelling.Ends rest →
    readValue depth (j.compactChars ++ rest) = some (Document.ofJson j, rest)
  items : ∀ (j : Json) (js : List Json) (rest : List Char),
    (compactItems (j :: js)).length + 1 < depth →
    readItems depth (compactItems (j :: js) ++ ']' :: rest) =
      some (Document.ofItems (j :: js), rest)
  members : ∀ (m : String × Json) (ms : List (String × Json)) (rest : List Char),
    (compactMembers (m :: ms)).length + 1 < depth →
    readMembers depth (compactMembers (m :: ms) ++ '\x7d' :: rest) =
      some (Document.ofMembers (m :: ms), rest)

section

variable {depth : ℕ} (ih : ReadsBack depth)

include ih

/-- **A value is read back,** if the depth covers its text. -/
theorem readValue_step (j : Json) (rest : List Char) (hdepth : j.compactChars.length < depth + 1)
    (hrest : Spelling.Ends rest) :
    readValue (depth + 1) (j.compactChars ++ rest) = some (Document.ofJson j, rest) := by
  cases j with
  | null => rfl
  | bool b => cases b <;> rfl
  | int i =>
    rw [compactChars, ← Spelling.chars_ofInt]
    exact readValue_numeral (Spelling.wellFormed_ofInt i) hrest depth
  | float x =>
    rw [compactChars, Document.ofJson]
    split
    · rename_i hx
      rw [← Spelling.chars_ofFloat hx]
      exact readValue_numeral (Spelling.wellFormed_ofFloat x) hrest depth
    · rename_i hx
      rw [Spelling.floatText_of_not_finite hx]
      rfl
  | str s =>
    rw [compactChars, quoted, List.cons_append, List.append_assoc]
    show (readString (s.toList.flatMap escapedChar ++ '"' :: rest)).map _ = _
    rw [readString_quoted]
    rfl
  | arr items =>
    cases items with
    | nil => rfl
    | cons j js =>
      obtain ⟨c, cs, hchars, hspace, hclose⟩ := compactItems_eq_cons j js
      have hitems := ih.items j js rest (by
        rw [compactChars, List.length_cons, List.length_append, List.length_singleton] at hdepth
        omega)
      rw [hchars, List.cons_append] at hitems
      rw [compactChars, hchars, List.cons_append, List.append_assoc]
      show readValue (depth + 1) ('[' :: c :: (cs ++ ']' :: rest)) = _
      rw [readValue_array hspace hclose, hitems]
      rfl
  | obj members =>
    cases members with
    | nil => rfl
    | cons m ms =>
      have hmembers := ih.members m ms rest (by
        rw [compactChars, List.length_cons, List.length_append, List.length_singleton] at hdepth
        omega)
      obtain ⟨cs, hchars⟩ := compactMembers_eq_cons m ms
      rw [hchars, List.cons_append] at hmembers
      rw [compactChars, hchars, List.cons_append, List.append_assoc]
      show (readMembers depth ('"' :: (cs ++ '\x7d' :: rest))).map _ = _
      rw [hmembers]
      rfl

/-- **The items of an array are read back,** if the depth covers their text. -/
theorem readItems_step (j : Json) (js : List Json) (rest : List Char)
    (hdepth : (compactItems (j :: js)).length + 1 < depth + 1) :
    readItems (depth + 1) (compactItems (j :: js) ++ ']' :: rest) =
      some (Document.ofItems (j :: js), rest) := by
  cases js with
  | nil =>
    have hvalue := ih.value j (']' :: rest) (by rw [compactItems] at hdepth; omega)
      (ends_cons (by decide))
    rw [compactItems, readItems, hvalue]
    rfl
  | cons j' js =>
    rw [compactItems, List.length_append, List.length_cons] at hdepth
    have hvalue := ih.value j (',' :: (compactItems (j' :: js) ++ ']' :: rest)) (by omega)
      (ends_cons (by decide))
    have hitems := ih.items j' js rest (by omega)
    rw [compactItems, List.append_assoc, List.cons_append, readItems_cons hvalue, hitems]
    rfl

/-- **The members of an object are read back,** if the depth covers their text. -/
theorem readMembers_step (m : String × Json) (ms : List (String × Json)) (rest : List Char)
    (hdepth : (compactMembers (m :: ms)).length + 1 < depth + 1) :
    readMembers (depth + 1) (compactMembers (m :: ms) ++ '\x7d' :: rest) =
      some (Document.ofMembers (m :: ms), rest) := by
  obtain ⟨k, j⟩ := m
  cases ms with
  | nil =>
    rw [compactMembers, List.length_append, List.length_cons] at hdepth
    have hvalue := ih.value j ('\x7d' :: rest) (by omega) (ends_cons (by decide))
    have hchars : compactMembers [(k, j)] ++ '\x7d' :: rest =
        '"' :: (k.toList.flatMap escapedChar ++ '"' :: ':' ::
          (j.compactChars ++ '\x7d' :: rest)) := by
      simp [compactMembers, quoted]
    rw [hchars]
    exact readMembers_last (readString_quoted k _) hvalue
  | cons m' ms =>
    rw [compactMembers, List.length_append, List.length_cons, List.length_append,
      List.length_cons] at hdepth
    have hvalue := ih.value j (',' :: (compactMembers (m' :: ms) ++ '\x7d' :: rest)) (by omega)
      (ends_cons (by decide))
    have hmembers := ih.members m' ms rest (by omega)
    have hchars : compactMembers ((k, j) :: m' :: ms) ++ '\x7d' :: rest =
        '"' :: (k.toList.flatMap escapedChar ++ '"' :: ':' ::
          (j.compactChars ++ ',' :: (compactMembers (m' :: ms) ++ '\x7d' :: rest))) := by
      simp [compactMembers, quoted]
    rw [hchars, readMembers_cons (readString_quoted k _) hvalue, hmembers]
    rfl

end

/-- **Texts are read as the documents of their values**, whatever the depth. -/
theorem readsBack (depth : ℕ) : ReadsBack depth := by
  induction depth with
  | zero => exact ⟨nofun, nofun, nofun⟩
  | succ depth ih => exact ⟨readValue_step ih, readItems_step ih, readMembers_step ih⟩

/-- **The compact text of a value is that of one document.** -/
theorem Document.parse?_compact (j : Json) : parse? j.compact = some (ofJson j) := by
  have hread := (readsBack (j.compactChars.length + 1)).value j [] (by omega) nofun
  rw [List.append_nil] at hread
  rw [parse?, compact, String.toList_ofList, hread]
  rfl

/-! ## The document tells the value -/

mutual

/-- All floats of the value are finite. -/
def AllFinite : Json → Prop
  | .null => True
  | .bool _ => True
  | .int _ => True
  | .float x => x.isFinite = true
  | .str _ => True
  | .arr items => AllFiniteItems items
  | .obj members => AllFiniteMembers members

/-- All floats of the elements are finite. -/
def AllFiniteItems : List Json → Prop
  | [] => True
  | j :: js => AllFinite j ∧ AllFiniteItems js

/-- All floats of the members are finite. -/
def AllFiniteMembers : List (String × Json) → Prop
  | [] => True
  | (_, j) :: ms => AllFinite j ∧ AllFiniteMembers ms

end

namespace Document

/-- The document of a finite float is its numeral. -/
theorem ofJson_float {x : Float} (hx : x.isFinite = true) :
    ofJson (.float x) = .number (Spelling.ofFloat x).numeral := by
  rw [ofJson, if_pos hx]

/-- The document of a finite float is that of no other value. -/
theorem eq_float_of_ofJson {x : Float} {j : Json} (hx : x.isFinite = true) (hj : j.AllFinite)
    (h : ofJson j = ofJson (.float x)) : j = .float x := by
  rw [ofJson_float hx] at h
  cases j with
  | int i =>
    -- The numeral of a whole number has neither a point nor an exponent.
    have hwhole := congrArg Numeral.whole (Document.number.inj h)
    rw [Spelling.ofFloat, Spelling.whole_ofDec] at hwhole
    cases hwhole
  | float y =>
    rw [ofJson_float hj] at h
    rw [Spelling.eq_of_ofFloat (Document.number.inj h)]
  | _ => cases h

mutual

/-- **The document tells the value**, if its floats are finite. -/
theorem ofJson_inj {j j' : Json} (hj : j.AllFinite) (hj' : j'.AllFinite)
    (h : ofJson j = ofJson j') : j = j' := by
  match j, j' with
  | .null, .null => rfl
  | .bool b, .bool b' => exact congrArg Json.bool (Document.bool.inj h)
  | .int i, .int i' => exact congrArg Json.int (Spelling.ofInt_injective (Document.number.inj h))
  | .float x, j' => exact (eq_float_of_ofJson hj hj' h.symm).symm
  | j, .float x => exact eq_float_of_ofJson hj' hj h
  | .str s, .str s' => exact congrArg Json.str (Symbol.symbols_injective (Document.string.inj h))
  | .arr items, .arr items' =>
    exact congrArg Json.arr (ofItems_inj hj hj' (Document.array.inj h))
  | .obj members, .obj members' =>
    exact congrArg Json.obj (ofMembers_inj hj hj' (Document.object.inj h))

/-- Elements with finite floats are told by their documents. -/
theorem ofItems_inj {js js' : List Json} (hj : AllFiniteItems js) (hj' : AllFiniteItems js')
    (h : ofItems js = ofItems js') : js = js' := by
  match js, js' with
  | [], [] => rfl
  | j :: js, j' :: js' =>
    obtain ⟨hhead, htail⟩ := List.cons.inj h
    rw [ofJson_inj hj.1 hj'.1 hhead, ofItems_inj hj.2 hj'.2 htail]

/-- Members with finite floats are told by their documents. -/
theorem ofMembers_inj {ms ms' : List (String × Json)} (hm : AllFiniteMembers ms)
    (hm' : AllFiniteMembers ms') (h : ofMembers ms = ofMembers ms') : ms = ms' := by
  match ms, ms' with
  | [], [] => rfl
  | (k, j) :: ms, (k', j') :: ms' =>
    obtain ⟨hhead, htail⟩ := List.cons.inj h
    obtain ⟨hkey, hvalue⟩ := Prod.mk.inj hhead
    rw [Symbol.symbols_injective hkey, ofJson_inj hm.1 hm'.1 hvalue,
      ofMembers_inj hm.2 hm'.2 htail]

end

end Document

/-- **Compact text tells the value**, if its floats are finite. -/
theorem compact_inj {j j' : Json} (hj : j.AllFinite) (hj' : j'.AllFinite)
    (h : j.compact = j'.compact) : j = j' := by
  have hdocument := congrArg Document.parse? h
  rw [Document.parse?_compact, Document.parse?_compact] at hdocument
  exact Document.ofJson_inj hj hj' (Option.some.inj hdocument)

end Json
end Alternation
