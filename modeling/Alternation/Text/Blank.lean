/-
# Blank characters and trimming

`SPEC_FULL` §4.6, steps 3 and 5: what is trimmed when clauses are put together.

A character is blank when it has the Unicode property `White_Space`, which holds
of twenty-five characters. Zero-width characters, the Mongolian vowel separator
and the ASCII information separators are not among them.
-/

namespace Alternation
namespace Text

/-- The characters with the property `White_Space`, as runs of code points. -/
def blankRuns : List (Nat × Nat) :=
  [(0x0009, 0x000D), (0x0020, 0x0020), (0x0085, 0x0085), (0x00A0, 0x00A0), (0x1680, 0x1680),
   (0x2000, 0x200A), (0x2028, 0x2029), (0x202F, 0x202F), (0x205F, 0x205F), (0x3000, 0x3000)]

/-- The character has the property `White_Space`. -/
def isBlank (c : Char) : Bool :=
  blankRuns.any fun run => decide (run.1 ≤ c.toNat) && decide (c.toNat ≤ run.2)

example : blankRuns.foldl (fun n run => n + (run.2 - run.1 + 1)) 0 = 25 := rfl

/-- Removes the characters satisfying `p` from both ends. -/
def strip (p : Char → Bool) (cs : List Char) : List Char :=
  ((cs.dropWhile p).reverse.dropWhile p).reverse

/-- Removes blank characters from both ends. -/
def trim (cs : List Char) : List Char := strip isBlank cs

/-- Removes blank characters from both ends of a string. -/
def trimmed (s : String) : String := String.ofList (trim s.toList)

end Text
end Alternation
