/-
# Shuffling, and sampling without replacement

`SPEC_FULL` §4.4, sampling without replacement, and §4.6, the shuffle of the assembler,
by the methods of the random library that §5 names.

`sampleIndices n k` draws `k` different positions below `n`, in the order drawn.
Which of four methods does so depends on the two numbers alone (`Method.choose`):

| method | chosen when |
| --- | --- |
| `inPlace` | `11 < k < 163` and `n < (10 + 8/5 k) k`, or `163 ≤ k` and `n < 270 k` |
| `floydInsert` | otherwise, for `k < 50` |
| `floydShuffle` | otherwise, for `50 ≤ k < 163` |
| `rejection` | otherwise |

From 500000 positions on, `270` gives way to `330 / 9`.
-/

import Alternation.Random.Source

namespace Alternation
namespace Random

variable {σ : Type} [RandomSource σ] {α : Type}

/-! ## Shuffling -/

/-- Swaps the elements at `i`, `i - 1`, …, `1`, each with one at or before it. -/
def shuffleFrom : Nat → Array α → StateM σ (Array α)
  | 0, a => pure a
  | i + 1, a => do
    let j ← RandomSource.below32 (i + 2) (Nat.succ_pos _)
    shuffleFrom i (a.swapIfInBounds (i + 1) j)

/-- The elements of `xs` in random order. -/
def shuffle (xs : List α) : StateM σ (List α) := do
  let a ← shuffleFrom (xs.length - 1) xs.toArray
  return a.toList

/-! ## Sampling in place -/

/-- Swaps the elements at `i`, `i + 1`, …, `i + k - 1`, each with one at or after it. -/
def pickInPlace (i : Nat) : Nat → Array α → StateM σ (Array α)
  | 0, a => pure a
  | k + 1, a =>
    if h : i < a.size then do
      let j ← RandomSource.below32 (a.size - i) (Nat.sub_pos_of_lt h)
      pickInPlace (i + 1) k (a.swapIfInBounds i (i + j))
    else
      pure a

/-- The first `k` places of a partial shuffle of all positions. -/
def sampleInPlace (n k : Nat) : StateM σ (List Nat) := do
  let a ← pickInPlace 0 k (Array.range n)
  return a.toList.take k

/-! ## Floyd's method -/

/-- Puts `j` in front of the first `t`. -/
def insertBefore (t j : Nat) : List Nat → List Nat
  | [] => [j]
  | x :: xs => if x = t then j :: x :: xs else x :: insertBefore t j xs

/-- For each bound `j`, `j + 1`, …: draws `t` at or below it and adds `t`, or the
bound itself, by `collide`, if `t` has been drawn already. -/
def floydFrom (collide : Nat → Nat → List Nat → List Nat) (j : Nat) :
    Nat → List Nat → StateM σ (List Nat)
  | 0, out => pure out
  | k + 1, out => do
    let t ← RandomSource.below32 (j + 1) (Nat.succ_pos _)
    let t : Nat := t
    floydFrom collide (j + 1) k (if t ∈ out then collide t j out else out ++ [t])

/-- Floyd's method that keeps every order equally likely as it goes. -/
def sampleFloydInsert (n k : Nat) : StateM σ (List Nat) :=
  floydFrom insertBefore (n - k) k []

/-- Floyd's method with a shuffle at the end. -/
def sampleFloydShuffle (n k : Nat) : StateM σ (List Nat) := do
  let out ← floydFrom (fun _ j out => out ++ [j]) (n - k) k []
  shuffle out

/-! ## Rejection -/

/-- How often a position that is taken already is drawn anew. -/
def redrawBudget : Nat := 4096

/-- A position that is not taken: the first that is drawn, or after too many
redraws the least. -/
def drawUntaken (n : Nat) (pos : 0 < n) (taken : List Nat) : Nat → StateM σ Nat
  | 0 => pure (((List.range n).find? (· ∉ taken)).getD 0)
  | budget + 1 => do
    let v ← RandomSource.uniform32 n pos
    let v : Nat := v
    if v ∈ taken then drawUntaken n pos taken budget else pure v

/-- Draws `k` further positions that are not among those in `taken`, which is in
reverse order. -/
def rejectFrom (n : Nat) (pos : 0 < n) : Nat → List Nat → StateM σ (List Nat)
  | 0, taken => pure taken.reverse
  | k + 1, taken => do
    let v ← drawUntaken n pos taken redrawBudget
    rejectFrom n pos k (v :: taken)

/-- Draws positions one by one, passing over those that are taken. -/
def sampleRejection (n k : Nat) : StateM σ (List Nat) :=
  if pos : 0 < n then rejectFrom n pos k [] else pure []

/-! ## The choice of method -/

/-- The ways to draw a sample. -/
inductive Method where
  | inPlace
  | floydInsert
  | floydShuffle
  | rejection
deriving DecidableEq, Repr

/-- So many of `n` positions are drawn, 163 or more, that they are best swapped into place. For
long lists the two sides are compared as 32-bit floats. -/
def isDense (n k : Nat) : Bool :=
  if n < 500000 then n < 270 * k else n.toFloat32 < 330 / 9 * k.toFloat32

/-- The method for `k` of `n` positions. -/
def Method.choose (n k : Nat) : Method :=
  if k < 163 then
    -- Long lists have other constants here too, and are too long by either.
    if 11 < k ∧ 5 * n < (50 + 8 * k) * k then .inPlace
    else if k < 50 then .floydInsert else .floydShuffle
  else if isDense n k then .inPlace else .rejection

/-- Draws by the given method. -/
def Method.sample : Method → (n k : Nat) → StateM σ (List Nat)
  | .inPlace => sampleInPlace
  | .floydInsert => sampleFloydInsert
  | .floydShuffle => sampleFloydShuffle
  | .rejection => sampleRejection

/-- Draws `k` different positions below `n`, for `k ≤ n`. -/
def sampleIndices (n k : Nat) : StateM σ (List Nat) := (Method.choose n k).sample n k

end Random
end Alternation
