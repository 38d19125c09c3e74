/-
# Name corpora

`SPEC_FULL` §4.1, Name Generator: `NameCorpus` (`new`, `parse_ron`, `len`, `draw`) and
`Gender`.

A corpus holds first names in two lists, one for each gender, and neither list is
empty, so that a name can always be drawn. Without a gender asked for, both
genders are equally likely.

A corpus is read from a RON record with the fields `male` and `female`.
-/

import Alternation.Random.Source
import Alternation.Ron.Document
import Alternation.Store.FileSystem
import Alternation.Table

namespace Alternation

/-- The gender of a name. -/
inductive Gender where
  | male
  | female
deriving DecidableEq, Repr

namespace Gender

/-- The possessive determiner that goes with a name. -/
def possessive : Gender → String
  | male => "his"
  | female => "her"

/-- The gender in words. -/
def display : Gender → String
  | male => "male"
  | female => "female"

end Gender

/-- Why there is no name corpus. -/
inductive NameError where
  | emptyCorpus (gender : Gender)
  | io (cause : OsError)
  | malformed (cause : String)

/-- The fault in words. -/
def NameError.message : NameError → String
  | emptyCorpus gender => "name corpus has no " ++ gender.display ++ " names"
  | io cause => "IO error: " ++ cause.message
  | malformed cause => "RON deserialization error: " ++ cause

/-- First names of both genders. -/
structure NameCorpus where
  male : List String
  female : List String
  male_ne_nil : male ≠ []
  female_ne_nil : female ≠ []

namespace NameCorpus

/-- Common first names. -/
def builtinMale : List String :=
  ["James", "John", "Robert", "Michael", "William", "David", "Richard", "Joseph", "Thomas",
   "Charles", "Daniel", "Matthew", "Anthony", "Mark", "Donald", "Steven", "Paul", "Andrew",
   "Joshua", "Kenneth", "Kevin", "Brian", "George", "Edward", "Ronald", "Timothy", "Jason",
   "Jeffrey", "Ryan", "Jacob", "Gary", "Nicholas", "Eric", "Jonathan", "Stephen", "Larry",
   "Justin", "Scott", "Brandon", "Benjamin", "Samuel", "Gregory", "Frank", "Alexander",
   "Raymond", "Patrick", "Jack", "Dennis", "Jerry", "Tyler", "Aaron", "Henry", "Adam", "Douglas",
   "Nathan", "Peter", "Zachary", "Kyle", "Walter", "Harold", "Carl", "Arthur"]

/-- Common first names. -/
def builtinFemale : List String :=
  ["Mary", "Patricia", "Jennifer", "Linda", "Elizabeth", "Barbara", "Susan", "Jessica", "Sarah",
   "Karen", "Nancy", "Lisa", "Betty", "Margaret", "Sandra", "Ashley", "Kimberly", "Emily",
   "Donna", "Michelle", "Dorothy", "Carol", "Amanda", "Melissa", "Deborah", "Stephanie",
   "Rebecca", "Sharon", "Laura", "Cynthia", "Kathleen", "Amy", "Shirley", "Angela", "Helen",
   "Anna", "Brenda", "Pamela", "Nicole", "Emma", "Samantha", "Katherine", "Christine", "Debra",
   "Rachel", "Catherine", "Carolyn", "Janet", "Ruth", "Maria", "Heather", "Diane", "Virginia",
   "Julie", "Joyce", "Victoria", "Olivia", "Kelly", "Christina", "Lauren", "Joan", "Evelyn"]

/-- The corpus that is used when no other is given. -/
def builtin : NameCorpus where
  male := builtinMale
  female := builtinFemale
  male_ne_nil := List.cons_ne_nil _ _
  female_ne_nil := List.cons_ne_nil _ _

instance : Inhabited NameCorpus := ⟨builtin⟩

/-- The corpus of two lists, unless one of them is empty. -/
def ofLists (male female : List String) : Except NameError NameCorpus :=
  if hm : male = [] then .error (.emptyCorpus .male)
  else if hf : female = [] then .error (.emptyCorpus .female)
  else .ok ⟨male, female, hm, hf⟩

/-- The record that holds a corpus. -/
def schema : Ron.Schema where
  name := "RonCorpus"
  options := []

/-- The two lists that a document writes. -/
def listsOf? (source : String) : Option (List String × List String) := do
  let fields ← schema.read? source
  let male ← (← (← single? fields "male")).strings?
  let female ← (← (← single? fields "female")).strings?
  return (male, female)

/-- The corpus that a document writes. -/
def parse [Complaints] (source : String) : Except NameError NameCorpus :=
  match listsOf? source with
  | some (male, female) => ofLists male female
  | none => .error (.malformed (Complaints.names source))

/-- The corpus in a file. -/
def load [Complaints] (files : FileSystem) (path : String) : Except NameError NameCorpus :=
  match files.readText path with
  | .ok source => parse source
  | .error cause => .error (.io cause)

/-- The names of a gender. -/
def names (corpus : NameCorpus) : Gender → List String
  | .male => corpus.male
  | .female => corpus.female

/-- There is a name of either gender. -/
theorem names_ne_nil (corpus : NameCorpus) (gender : Gender) : corpus.names gender ≠ [] := by
  cases gender
  · exact corpus.male_ne_nil
  · exact corpus.female_ne_nil

/-! ## Drawing -/

variable {σ : Type} [RandomSource σ]

/-- A gender, by the toss of a coin. -/
def drawGender : StateM σ Gender := do
  return if ← RandomSource.coin then .female else .male

/-- A name of the given gender. -/
def drawOf (corpus : NameCorpus) (gender : Gender) : StateM σ String := do
  let i ← RandomSource.below64 (corpus.names gender).length
    (List.length_pos_iff.mpr (corpus.names_ne_nil gender))
  return (corpus.names gender)[i]

/-- A name and its gender, which is drawn first if none is asked for. -/
def draw (corpus : NameCorpus) (gender : Option Gender) : StateM σ (String × Gender) := do
  let gender ←
    match gender with
    | some gender => pure gender
    | none => drawGender
  return (← corpus.drawOf gender, gender)

end NameCorpus
end Alternation
