/-
# Strings that are read back

`SPEC_FULL` §10.4: the strings of JSON that is written, and how they are read.

A string is written with escapes for quotes, backslashes and control characters.  Reading
it gives a symbol for each character (`readString_quoted`), and these symbols evaluate to
the string (`Symbol.text?_symbols`): whatever characters it has, nothing is lost.
-/

import Alternation.Json.Document
import Mathlib.Tactic.SplitIfs

namespace Alternation
namespace Json

namespace Symbol

/-- What a character of a string is read as: a control character without an escape of one
letter is read as a unit. -/
def ofChar (c : Char) : Symbol :=
  if c.toNat < 32 ∧ c ∉ ['\x08', '\t', '\n', '\x0c', '\r'] then .unit c.toNat else .char c

/-- What a string is read as. -/
def symbols (s : String) : List Symbol := s.toList.map ofChar

/-- A unit below the surrogates stands for its character, whatever follows it. -/
theorem decode?_unit {u : Nat} (hu : u < 0xD800) (rest : List Symbol) :
    decode? (.unit u :: rest) = (decode? rest).map (Char.ofNat u :: ·) := by
  have hhigh : isHigh u = false := by
    rw [isHigh, decide_eq_false (by omega), Bool.false_and]
  have hlow : isLow u = false := by
    rw [isLow, decide_eq_false (by omega), Bool.false_and]
  rcases rest with _ | ⟨_ | _, rest⟩ <;> simp [decode?, hhigh, hlow]

/-- Characters are decoded as they are. -/
theorem decode?_map_ofChar (cs : List Char) : decode? (cs.map ofChar) = some cs := by
  induction cs with
  | nil => rfl
  | cons c cs ih =>
    rw [List.map_cons, ofChar]
    split
    · rename_i hc
      rw [decode?_unit (by omega), ih, Char.ofNat_toNat]
      rfl
    · rw [decode?, ih]
      rfl

/-- **What a string is read as evaluates to the string.** -/
theorem text?_symbols (s : String) : text? (symbols s) = some s := by
  rw [text?, symbols, decode?_map_ofChar, Option.map_some, String.ofList_toList]

/-- A text is told by its symbols. -/
theorem symbols_injective {s t : String} (h : symbols s = symbols t) : s = t := by
  have htext := congrArg text? h
  rw [text?_symbols, text?_symbols] at htext
  exact Option.some.inj htext

end Symbol

/-! ## Reading strings -/

/-- The four digits of a control character are read back. -/
theorem unit?_hexDigit :
    ∀ n < 32, unit? '0' '0' (hexDigit (n / 16)) (hexDigit (n % 16)) = some n := by
  decide

/-- An escape of one letter is read as the character that it stands for. -/
theorem readString_letter {e c : Char} (he : unescaped? e = some c) (cs : List Char) :
    readString ('\\' :: e :: cs) = (readString cs).map fun p => (.char c :: p.1, p.2) := by
  have hu : e ≠ 'u' := by
    rintro rfl
    exact nomatch he
  rw [readString, he]
  · cases readString cs <;> rfl
  · exact fun _ _ _ _ _ h _ => hu h

/-- An escaped control character is read as its code unit. -/
theorem readString_unit {n : Nat} (hn : n < 32) (cs : List Char) :
    readString ('\\' :: 'u' :: '0' :: '0' :: hexDigit (n / 16) :: hexDigit (n % 16) :: cs) =
      (readString cs).map fun p => (.unit n :: p.1, p.2) := by
  rw [readString, unit?_hexDigit n hn]
  cases readString cs <;> rfl

/-- A character that needs no escape is read as it is. -/
theorem readString_plain {c : Char} (hquote : c ≠ '"') (hslash : c ≠ '\\') (hc : ¬ c.toNat < 32)
    (cs : List Char) :
    readString (c :: cs) = (readString cs).map fun p => (.char c :: p.1, p.2) := by
  rw [readString, if_neg hc]
  · cases readString cs <;> rfl
  · exact hquote
  · exact fun _ _ _ _ _ h _ => hslash h
  · exact fun _ _ h _ => hslash h

/-- A character of a string is read as one symbol. -/
theorem readString_escapedChar (c : Char) (cs : List Char) :
    readString (escapedChar c ++ cs) =
      (readString cs).map fun p => (Symbol.ofChar c :: p.1, p.2) := by
  unfold escapedChar
  split_ifs with hquote hslash hbackspace htab hnewline hfeed hreturn hcontrol
  iterate 7
    · subst_vars
      exact readString_letter rfl cs
  · have hletter : c ∉ ['\x08', '\t', '\n', '\x0c', '\r'] := by
      simp only [List.mem_cons, List.not_mem_nil, or_false, not_or]
      exact ⟨hbackspace, htab, hnewline, hfeed, hreturn⟩
    rw [Symbol.ofChar, if_pos ⟨hcontrol, hletter⟩]
    exact readString_unit hcontrol cs
  · rw [Symbol.ofChar, if_neg fun h => hcontrol h.1]
    exact readString_plain hquote hslash hcontrol cs

/-- **A string is read up to its closing quote.** -/
theorem readString_quoted (s : String) (rest : List Char) :
    readString (s.toList.flatMap escapedChar ++ '"' :: rest) = some (Symbol.symbols s, rest) := by
  rw [Symbol.symbols]
  induction s.toList with
  | nil => rfl
  | cons c cs ih =>
    rw [List.flatMap_cons, List.append_assoc, readString_escapedChar, ih]
    rfl

end Json
end Alternation
