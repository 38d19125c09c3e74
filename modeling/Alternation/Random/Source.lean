/-
# Sources of random draws

`SPEC_FULL` §5: what the renderer asks of its source of randomness.

Everything that draws at random is written against `RandomSource`, so that one
definition serves both the seeded stream of `Random.Stream` and any other way of
supplying draws. A bounded draw carries the proof that it respects its bound.

| draw | what it is used for |
| --- | --- |
| `below32` | positions while sampling and shuffling |
| `uniform32` | positions in the largest, sparsest samples |
| `below64` | names and conditions |
| `coin` | the gender of a name nobody asked a gender for |
-/

namespace Alternation

/-- A supply of random draws whose state is a `σ`. -/
class RandomSource (σ : Type) where
  /-- A number below `n`, from 32-bit words. -/
  below32 (n : Nat) (pos : 0 < n) : StateM σ (Fin n)
  /-- A number below `n`, from 32-bit words, by the other rejection zone. -/
  uniform32 (n : Nat) (pos : 0 < n) : StateM σ (Fin n)
  /-- A number below `n`, from 64-bit words. -/
  below64 (n : Nat) (pos : 0 < n) : StateM σ (Fin n)
  /-- Heads or tails. -/
  coin : StateM σ Bool

end Alternation
