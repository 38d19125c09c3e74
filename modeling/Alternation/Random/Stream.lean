/-
# The seeded stream

`SPEC_FULL` §5: the standard generator, seeded with a number.

A `Stream` is the output of the ChaCha block function with twelve rounds, keyed
from a 64-bit seed and read word by word.

* `Stream.ofSeed` expands the seed into the eight key words by a 64-bit linear
  congruential step whose state is folded and rotated into each word.
* `Stream.word32` and `Stream.word64` read on: a 64-bit word is two 32-bit ones,
  the low half first.
* The bounded draws scale a word `v` to `v * n / 2 ^ bits` and redraw while the
  low half of `v * n` lies outside the zone in which every result is equally
  likely. Words are redrawn at most `redrawBudget` times; the draw after that
  stands, so a bounded draw always ends and always respects its bound.
-/

import Alternation.Random.Source

namespace Alternation
namespace Random

/-! ## The block function -/

/-- A row of the ChaCha matrix: four words, one for each column. -/
structure Row where
  a : UInt32
  b : UInt32
  c : UInt32
  d : UInt32
deriving DecidableEq, Repr

namespace Row

/-- Combines two rows column by column. -/
def zipWith (f : UInt32 → UInt32 → UInt32) (x y : Row) : Row :=
  ⟨f x.a y.a, f x.b y.b, f x.c y.c, f x.d y.d⟩

/-- Applies `f` in every column. -/
def map (f : UInt32 → UInt32) (x : Row) : Row := ⟨f x.a, f x.b, f x.c, f x.d⟩

/-- Moves every word one column to the left, the first to the end. -/
def turn (x : Row) : Row := ⟨x.b, x.c, x.d, x.a⟩

/-- The words in column order. -/
def toList (x : Row) : List UInt32 := [x.a, x.b, x.c, x.d]

end Row

/-- Rotates the bits of a word to the left. -/
def rotateLeft (r : UInt32) (x : UInt32) : UInt32 := (x <<< r) ||| (x >>> (32 - r))

/-- Rotates the bits of a word to the right. -/
def rotateRight (r : UInt32) (x : UInt32) : UInt32 := (x >>> r) ||| (x <<< (32 - r))

/-- The ChaCha matrix: constants, two rows of key, counter and nonce. -/
structure Matrix where
  r0 : Row
  r1 : Row
  r2 : Row
  r3 : Row
deriving DecidableEq, Repr

namespace Matrix

/-- Half a quarter round in every column at once, with its two rotations. -/
def halfRound (s t : UInt32) (m : Matrix) : Matrix :=
  let r0 := Row.zipWith (· + ·) m.r0 m.r1
  let r3 := (Row.zipWith (· ^^^ ·) m.r3 r0).map (rotateLeft s)
  let r2 := Row.zipWith (· + ·) m.r2 r3
  let r1 := (Row.zipWith (· ^^^ ·) m.r1 r2).map (rotateLeft t)
  ⟨r0, r1, r2, r3⟩

/-- The quarter round in every column. -/
def columnRound (m : Matrix) : Matrix := (m.halfRound 16 12).halfRound 8 7

/-- Brings the diagonals into the columns. -/
def slant (m : Matrix) : Matrix :=
  ⟨m.r0, m.r1.turn, m.r2.turn.turn, m.r3.turn.turn.turn⟩

/-- Brings the diagonals back out of the columns. -/
def unslant (m : Matrix) : Matrix :=
  ⟨m.r0, m.r1.turn.turn.turn, m.r2.turn.turn, m.r3.turn⟩

/-- Bringing the diagonals out again undoes bringing them in. -/
theorem unslant_slant (m : Matrix) : m.slant.unslant = m := rfl

/-- A column round and a diagonal round. -/
def doubleRound (m : Matrix) : Matrix := m.columnRound.slant.columnRound.unslant

/-- Word-wise sum. -/
def add (m n : Matrix) : Matrix :=
  ⟨.zipWith (· + ·) m.r0 n.r0, .zipWith (· + ·) m.r1 n.r1,
   .zipWith (· + ·) m.r2 n.r2, .zipWith (· + ·) m.r3 n.r3⟩

/-- Twelve rounds and the starting matrix added on. -/
def scramble (m : Matrix) : Matrix :=
  (m.doubleRound.doubleRound.doubleRound.doubleRound.doubleRound.doubleRound).add m

end Matrix

/-! ## Seeding -/

/-- The state of the key expansion after one step. -/
def expandStep (state : UInt64) : UInt64 :=
  state * 6364136223846793005 + 11634580027462260723

/-- The key word that a state of the key expansion yields. -/
def expandWord (state : UInt64) : UInt32 :=
  rotateRight (state >>> 59).toUInt32 (((state >>> 18) ^^^ state) >>> 27).toUInt32

/-- Four key words and the state that follows them. -/
def expandRow (state : UInt64) : Row × UInt64 :=
  let s₁ := expandStep state
  let s₂ := expandStep s₁
  let s₃ := expandStep s₂
  let s₄ := expandStep s₃
  (⟨expandWord s₁, expandWord s₂, expandWord s₃, expandWord s₄⟩, s₄)

/-- A position in the word stream of one key. -/
structure Stream where
  /-- The first half of the key. -/
  keyLow : Row
  /-- The second half of the key. -/
  keyHigh : Row
  /-- The number of the next block. -/
  block : UInt64
  /-- The words of the current block that are still to be read. -/
  pending : List UInt32
deriving DecidableEq, Repr

namespace Stream

/-- The beginning of the stream with the given seed. -/
def ofSeed (seed : UInt64) : Stream :=
  let (low, s) := expandRow seed
  let (high, _) := expandRow s
  ⟨low, high, 0, []⟩

/-- The matrix of the next block. -/
def nextBlock (s : Stream) : Matrix :=
  Matrix.scramble
    ⟨⟨0x61707865, 0x3320646e, 0x79622d32, 0x6b206574⟩, s.keyLow, s.keyHigh,
     ⟨s.block.toUInt32, (s.block >>> 32).toUInt32, 0, 0⟩⟩

/-- The next word. -/
def word32 : StateM Stream (BitVec 32) := fun s =>
  match s.pending with
  | w :: ws => (w.toBitVec, { s with pending := ws })
  | [] =>
    let m := s.nextBlock
    (m.r0.a.toBitVec,
      { s with
        block := s.block + 1
        pending := [m.r0.b, m.r0.c, m.r0.d] ++ m.r1.toList ++ m.r2.toList ++ m.r3.toList })

/-- The next two words as one, the low half first. -/
def word64 : StateM Stream (BitVec 64) := do
  let low ← word32
  let high ← word32
  return high ++ low

/-! ## Bounded draws -/

/-- How often a word that is not accepted is drawn anew. -/
def redrawBudget : Nat := 4096

/-- Draws until a word is accepted or the budget is spent. -/
def redraw {bits : Nat} (draw : StateM Stream (BitVec bits)) (accept : BitVec bits → Bool) :
    Nat → StateM Stream (BitVec bits)
  | 0 => draw
  | budget + 1 => do
    let v ← draw
    if accept v then return v else redraw draw accept budget

/-- The part of `v * n` above the lowest `bits` bits, which is below `n`. -/
def scaled {bits : Nat} (v : BitVec bits) (n : Nat) (pos : 0 < n) : Fin n :=
  ⟨v.toNat * n / Nat.pow 2 bits, by
    have wide : 0 < Nat.pow 2 bits := Nat.two_pow_pos bits
    rw [Nat.div_lt_iff_lt_mul wide, Nat.mul_comm n]
    exact Nat.mul_lt_mul_of_pos_right v.isLt pos⟩

/-- Draws below `n`, accepting the words whose low part of `v * n` is at most `zone`. -/
def belowZone {bits : Nat} (draw : StateM Stream (BitVec bits)) (zone n : Nat) (pos : 0 < n) :
    StateM Stream (Fin n) := do
  let v ← redraw draw (fun v => v.toNat * n % Nat.pow 2 bits ≤ zone) redrawBudget
  return scaled v n pos

/-- The greatest multiple `n * 2 ^ i` that fits in `bits` bits, less one. -/
def shiftedZone (bits n : Nat) : Nat := (n <<< (bits - (n.log2 + 1)) - 1) % Nat.pow 2 bits

/-- The greatest multiple of `n` that fits in 32 bits, less one. -/
def modularZone (n : Nat) : Nat := UInt32.size - 1 - (UInt32.size - n) % n

end Stream

instance : RandomSource Stream where
  below32 n pos := Stream.belowZone Stream.word32 (Stream.shiftedZone 32 n) n pos
  uniform32 n pos := Stream.belowZone Stream.word32 (Stream.modularZone n) n pos
  below64 n pos := Stream.belowZone Stream.word64 (Stream.shiftedZone 64 n) n pos
  coin := do
    let v ← Stream.word64
    return !v.msb

end Random
end Alternation
