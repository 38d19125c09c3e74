/-
# Drawing items and conditions

`SPEC_FULL` §4.4 (`sample_items`) and §4.5 (`sample_conditions`).

Items are drawn without replacement, all at once; conditions one by one, with
replacement, so that a condition listed twice is drawn twice as often.
-/

import Alternation.Random.Sampling
import Alternation.Render.Rendering

namespace Alternation

variable {σ : Type} [RandomSource σ]

/-- Draws `n` of the items in random order; nothing is drawn if there are fewer. -/
def sampleItems {α : Type} (items : List α) (n : Nat) (pool : String) : Drawing σ (List α) := do
  if items.length < n then
    throw (.insufficientMaterials pool n items.length)
  else
    let indices ← ExceptT.lift (Random.sampleIndices items.length n)
    let items := items.toArray
    return indices.filterMap (items[·]?)

/-- Draws `n` conditions from a space that is not empty. -/
def drawConditions (space : List Condition) (pos : 0 < space.length) :
    Nat → StateM σ (List Condition)
  | 0 => return []
  | n + 1 => do
    let i ← RandomSource.below64 space.length pos
    let rest ← drawConditions space pos n
    return space.get i :: rest

/-- Draws `n` conditions; there must be one to draw, even for `n = 0`. -/
def sampleConditions (space : List Condition) (n : Nat) : Drawing σ (List Condition) :=
  if pos : 0 < space.length then ExceptT.lift (drawConditions space pos n)
  else throw .emptyConditionSpace

end Alternation
