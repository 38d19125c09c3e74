/-
# English phrases

`SPEC_FULL` §4.6, steps 3 and 5: `copula`, `quantifier`, `progressive`,
`capitalize_first`, `sentence`, `join_words`, `how_much_question`.

Clauses are put together from lexical slots by joining words with single spaces;
a clause becomes a sentence by a capital and a full stop.

* `joinWords` trims every word and drops the blank ones.
* `sentence` trims its clause, capitalises the first character and adds a full
  stop unless the clause already ends in `.`, `!` or `?`.
-/

import Alternation.Text.Blank
import Alternation.Text.Uppercase

namespace Alternation
namespace Phrase

/-- The form of "to be" for a subject. -/
def copula (plural : Bool) : String := if plural then "are" else "is"

/-- The quantifier of a count noun or of a mass noun. -/
def quantifier (plural : Bool) : String := if plural then "many" else "much"

/-- The progressive form of a verb stem. -/
def progressive (verb : String) : String := verb ++ "ing"

/-- The text with its first character in uppercase. -/
def capitalized : List Char → List Char
  | [] => []
  | c :: cs => Text.upper c ++ cs

/-- The text with its first character in uppercase. -/
def capitalizeFirst (text : String) : String := String.ofList (capitalized text.toList)

/-- The character may end a sentence. -/
def isTerminal (c : Char) : Bool := c == '.' || c == '!' || c == '?'

/-- The text ends in a character that may end a sentence. -/
def isClosed (cs : List Char) : Bool := cs.getLast?.any isTerminal

/-- The text with a full stop, if it has no end yet. -/
def closed (cs : List Char) : List Char := if isClosed cs then cs else cs ++ ['.']

/-- The clause as a sentence. -/
def sentence (clause : String) : String :=
  String.ofList (closed (capitalized (Text.trim clause.toList)))

/-- The words that are not blank, trimmed, with single spaces between them. -/
def joinWords (words : List String) : String :=
  " ".intercalate ((words.map Text.trimmed).filter (· ≠ ""))

/-- Asks for the quantity of something at a place. -/
def howMuchQuestion (noun : String) (plural : Bool) (preposition location : String) : String :=
  joinWords ["How", quantifier plural, noun, copula plural, preposition, location] ++ "?"

end Phrase
end Alternation
