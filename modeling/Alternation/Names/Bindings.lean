/-
# Bindings of persons

`SPEC_FULL` §4.2, Variable Binding Cache: `BindingCache` (`get`, `len`,
`draw_unique_name`) and `binding_key`; `resolve` is in `Render.Rendering`.

Within one trial every person keeps the name first drawn for it. The bindings map
keys to texts: `PERSON1` to a name, and `PERSON1_POSS` to the possessive of that
name's gender. The names given out are remembered, and no name is given twice.
-/

import Alternation.Names.Corpus
import Alternation.Table

namespace Alternation

/-- The texts bound so far, and the names among them. -/
structure Bindings where
  texts : Table String
  names : List String

namespace Bindings

/-- Nothing is bound. -/
def empty : Bindings := ⟨.empty, []⟩

instance : Inhabited Bindings := ⟨empty⟩

/-- The subtype bound with every person: the possessive determiner. -/
def possessiveSubtype : String := "POSS"

/-- The key of a person, or of something that goes with a person. -/
def key (id : String) (subtype : Option String) : String :=
  match subtype with
  | some subtype => "PERSON" ++ id ++ "_" ++ subtype
  | none => "PERSON" ++ id

/-- The text bound to a placeholder. -/
def get? (bindings : Bindings) (id : String) (subtype : Option String) : Option String :=
  bindings.texts.get? (key id subtype)

/-- The number of bound texts. -/
def size (bindings : Bindings) : Nat := bindings.texts.size

/-- Gives a person a name, and the possessive that goes with it. -/
def bind (bindings : Bindings) (id name : String) (gender : Gender) : Bindings where
  texts :=
    (bindings.texts.insert (key id none) name).insert
      (key id (some possessiveSubtype)) gender.possessive
  names := name :: bindings.names

/-- How many names are drawn at most in search of one that is not in use. -/
def maxDraws : Nat := 1000

variable {σ : Type} [RandomSource σ]

/-- The first of the next `draws` names that is not in use. -/
def drawUnused (corpus : NameCorpus) (used : List String) :
    (draws : Nat) → StateM σ (Option (String × Gender))
  | 0 => return none
  | draws + 1 => do
    let drawn ← corpus.draw none
    if drawn.1 ∈ used then drawUnused corpus used draws else return some drawn

end Bindings
end Alternation
