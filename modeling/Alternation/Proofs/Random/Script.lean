/-
# Scripted draws

`SPEC_FULL` §8, §10.5: rendering is tested with draws that are known beforehand.

A random source that hands out numbers laid down beforehand, each taken modulo the
bound that is asked for, and nought when they have run out.
-/

import Alternation.Random.Source

namespace Alternation
namespace Random

/-- Draws laid down beforehand. -/
structure Script where
  draws : List Nat
deriving DecidableEq, Repr

namespace Script

/-- The next draw, modulo `n`. -/
def below (n : Nat) (pos : 0 < n) : StateM Script (Fin n) := fun s =>
  match s.draws with
  | [] => (⟨0, pos⟩, s)
  | d :: ds => (⟨d % n, Nat.mod_lt d pos⟩, ⟨ds⟩)

instance : RandomSource Script where
  below32 := below
  uniform32 := below
  below64 := below
  coin := do
    let i ← below 2 (by decide)
    return i == 1

end Script
end Random
end Alternation
