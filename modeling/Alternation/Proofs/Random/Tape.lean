/-
# Draws from a tape

`SPEC_FULL` §4.4 and §4.5: what it takes for draws to be uniform.

A tape hands out the numbers written on it, one for each draw, as they are.  It
breaks when it has run out, or when the next number is not below the bound that is
asked for, and a broken tape stays broken.

* `Takes m draws a`: off any tape that starts with `draws`, the computation `m` takes
  just these and comes to `a`.
* `Asks m bounds`: the bounds that `m` asks for are these, whatever it has drawn.

So the lists that a computation takes are those that keep to its bounds
(`Asks.exists_takes_iff`), and if every number below a bound is equally likely, then
so are they.
-/

import Alternation.Random.Source
import Mathlib.Data.List.Forall2

namespace Alternation
namespace Random

/-- The numbers still to be handed out, unless the tape is broken. -/
structure Tape where
  left : Option (List Nat)
deriving DecidableEq, Repr

namespace Tape

/-- A tape that is broken. -/
def broken : Tape := ⟨none⟩

/-- A tape with these numbers to hand out. -/
def holding (draws : List Nat) : Tape := ⟨some draws⟩

/-- Hands out the next number, which must be below `n`. -/
def below (n : Nat) (pos : 0 < n) : StateM Tape (Fin n) := fun tape =>
  match tape.left with
  | some (d :: rest) => if h : d < n then (⟨d, h⟩, holding rest) else (⟨0, pos⟩, broken)
  | some [] => (⟨0, pos⟩, broken)
  | none => (⟨0, pos⟩, broken)

instance : RandomSource Tape where
  below32 := below
  uniform32 := below
  below64 := below
  coin := do
    let i ← below 2 Nat.two_pos
    return i.val == 1

end Tape

section

variable {α β : Type} {m : StateM Tape α} {f : α → StateM Tape β} {draws : List Nat}

/-- The computation takes just these draws off the tape and comes to `a`. -/
def Takes (m : StateM Tape α) (draws : List Nat) (a : α) : Prop :=
  ∀ rest, m.run (.holding (draws ++ rest)) = (a, .holding rest)

/-- The computation asks for draws below these bounds: it takes every list that keeps
to them, and breaks every tape that does not start with such a list. -/
structure Asks (m : StateM Tape α) (bounds : List Nat) : Prop where
  broken : (m.run .broken).2 = .broken
  takes : ∀ taken, List.Forall₂ (· < ·) taken bounds → ∃ a, Takes m taken a
  breaks : ∀ draws, (m.run (.holding draws)).2 = .broken ∨
    ∃ taken rest a, draws = taken ++ rest ∧ List.Forall₂ (· < ·) taken bounds ∧ Takes m taken a

/-! ## What is taken -/

/-- A result that is given takes nothing off the tape. -/
theorem takes_pure_iff {a b : α} : Takes (pure a) draws b ↔ draws = [] ∧ a = b := by
  constructor
  · intro h
    obtain ⟨ha, hrest⟩ := Prod.mk.inj (h [])
    rw [List.append_nil] at hrest
    exact ⟨Option.some.inj (congrArg Tape.left hrest), ha⟩
  · rintro ⟨rfl, rfl⟩ rest
    rfl

/-- A draw takes just the number that it comes to. -/
theorem takes_below_iff {n : Nat} {pos : 0 < n} {i : Fin n} :
    Takes (Tape.below n pos) draws i ↔ draws = [i.val] := by
  constructor
  · intro h
    have hrun := h []
    rw [List.append_nil] at hrun
    match draws with
    | [] => exact nomatch congrArg (·.2.left) hrun
    | d :: ds =>
      by_cases hd : d < n
      · have hbelow : (Tape.below n pos).run (.holding (d :: ds)) = (⟨d, hd⟩, .holding ds) :=
          dif_pos hd
        rw [hbelow] at hrun
        obtain ⟨rfl, hrest⟩ := Prod.mk.inj hrun
        rw [Option.some.inj (congrArg Tape.left hrest)]
      · have hbelow : (Tape.below n pos).run (.holding (d :: ds)) = (⟨0, pos⟩, .broken) :=
          dif_neg hd
        rw [hbelow] at hrun
        exact nomatch congrArg (·.2.left) hrun
  · rintro rfl rest
    exact dif_pos i.isLt

/-- What a sequence takes is what its parts take, one after the other. -/
theorem Takes.bind {taken rest : List Nat} {a : α} {b : β} (hm : Takes m taken a)
    (hf : Takes (f a) rest b) : Takes (m >>= f) (taken ++ rest) b := by
  intro tail
  have hrun : (m >>= f).run (.holding (taken ++ rest ++ tail)) =
      (f (m.run (.holding (taken ++ rest ++ tail))).1).run
        (m.run (.holding (taken ++ rest ++ tail))).2 := rfl
  rw [hrun, List.append_assoc, hm]
  exact hf tail

/-! ## What is asked for -/

/-- A result that is given asks for nothing. -/
theorem asks_pure (a : α) : Asks (pure a) [] where
  broken := rfl
  takes taken h := by
    cases h
    exact ⟨a, takes_pure_iff.2 ⟨rfl, rfl⟩⟩
  breaks draws := .inr ⟨[], draws, a, rfl, .nil, takes_pure_iff.2 ⟨rfl, rfl⟩⟩

/-- A draw asks for one number below its bound. -/
theorem asks_below (n : Nat) (pos : 0 < n) : Asks (Tape.below n pos) [n] where
  broken := rfl
  takes taken h := by
    cases h with
    | cons hd hnil =>
      cases hnil
      exact ⟨⟨_, hd⟩, takes_below_iff.2 rfl⟩
  breaks draws := by
    match draws with
    | [] => exact .inl rfl
    | d :: ds =>
      by_cases hd : d < n
      · exact .inr ⟨[d], ds, ⟨d, hd⟩, rfl, .cons hd .nil, takes_below_iff.2 rfl⟩
      · exact .inl (congrArg Prod.snd (dif_neg hd))

/-- **A run of a sequence** takes what its first part takes, and then what the rest
takes. -/
theorem Asks.takes_bind_iff {bounds bounds' : List Nat} {b : β} (hm : Asks m bounds)
    (hf : ∀ a, Asks (f a) bounds') :
    Takes (m >>= f) draws b ↔
      ∃ taken rest a, draws = taken ++ rest ∧ Takes m taken a ∧ Takes (f a) rest b := by
  constructor
  · intro h
    have hrun : ∀ tape, (m >>= f).run tape = (f (m.run tape).1).run (m.run tape).2 :=
      fun _ => rfl
    rcases hm.breaks draws with hbroken | ⟨taken, rest, a, rfl, -, ha⟩
    · have hend := h []
      rw [List.append_nil, hrun, hbroken] at hend
      have hsnd := congrArg Prod.snd hend
      rw [(hf _).broken] at hsnd
      exact nomatch congrArg Tape.left hsnd
    · refine ⟨taken, rest, a, rfl, ha, fun tail => ?_⟩
      have hend := h tail
      rwa [hrun, List.append_assoc, ha] at hend
  · rintro ⟨taken, rest, a, rfl, ha, hb⟩
    exact ha.bind hb

/-- A sequence asks for what its parts ask for, if the second asks for the same whatever the
first comes to. -/
theorem Asks.bind {bounds bounds' : List Nat} (hm : Asks m bounds)
    (hf : ∀ a, Asks (f a) bounds') : Asks (m >>= f) (bounds ++ bounds') where
  broken := by
    have hrun : ((m >>= f).run .broken).2 =
        ((f (m.run .broken).1).run (m.run .broken).2).2 := rfl
    rw [hrun, hm.broken, (hf _).broken]
  takes taken h := by
    obtain ⟨a, ha⟩ := hm.takes _ (List.forall₂_take_append _ _ _ h)
    obtain ⟨b, hb⟩ := (hf a).takes _ (List.forall₂_drop_append _ _ _ h)
    have hrun := ha.bind hb
    rw [List.take_append_drop] at hrun
    exact ⟨b, hrun⟩
  breaks draws := by
    have hrun : ∀ tape, ((m >>= f).run tape).2 =
        ((f (m.run tape).1).run (m.run tape).2).2 := fun _ => rfl
    rcases hm.breaks draws with hbroken | ⟨taken, rest, a, rfl, hbounds, ha⟩
    · left
      rw [hrun, hbroken, (hf _).broken]
    · rcases (hf a).breaks rest with hbroken | ⟨taken', rest', b, rfl, hbounds', hb⟩
      · left
        rw [hrun, ha, hbroken]
      · refine .inr ⟨taken ++ taken', rest', b, (List.append_assoc ..).symm, ?_, ha.bind hb⟩
        exact List.rel_append hbounds hbounds'

/-- What is made of a result takes no more draws. -/
theorem Asks.map {bounds : List Nat} (hm : Asks m bounds) (g : α → β) :
    Asks (do return g (← m)) bounds := by
  have hbind := hm.bind fun a => asks_pure (g a)
  rwa [List.append_nil] at hbind

/-- What is made of a result takes what the result takes. -/
theorem Asks.takes_map_iff {bounds : List Nat} {g : α → β} {b : β} (hm : Asks m bounds) :
    Takes (do return g (← m)) draws b ↔ ∃ a, Takes m draws a ∧ g a = b := by
  rw [hm.takes_bind_iff fun a => asks_pure (g a)]
  constructor
  · rintro ⟨taken, rest, a, rfl, ha, hpure⟩
    obtain ⟨rfl, hb⟩ := takes_pure_iff.1 hpure
    rw [List.append_nil]
    exact ⟨a, ha, hb⟩
  · rintro ⟨a, ha, hb⟩
    exact ⟨draws, [], a, (List.append_nil _).symm, ha, takes_pure_iff.2 ⟨rfl, hb⟩⟩

/-- **The lists that are taken** are those that keep to the bounds. -/
theorem Asks.exists_takes_iff {bounds : List Nat} (h : Asks m bounds) :
    (∃ a, Takes m draws a) ↔ List.Forall₂ (· < ·) draws bounds := by
  constructor
  · rintro ⟨a, ha⟩
    rcases h.breaks draws with hbroken | ⟨taken, rest, b, rfl, hbounds, hb⟩
    · have hend := ha []
      rw [List.append_nil] at hend
      rw [hend] at hbroken
      exact nomatch congrArg Tape.left hbroken
    · have hend := ha []
      rw [List.append_nil, hb] at hend
      obtain rfl := Option.some.inj (congrArg (·.2.left) hend)
      rwa [List.append_nil]
  · exact h.takes draws

/-- The first draw of a computation, and the rest. -/
theorem takes_below_bind_iff {n : Nat} {pos : 0 < n} {f : Fin n → StateM Tape β}
    {bounds : List Nat} {b : β} (hf : ∀ i, Asks (f i) bounds) :
    Takes (Tape.below n pos >>= f) draws b ↔
      ∃ (i : Fin n) (rest : List Nat), draws = i.val :: rest ∧ Takes (f i) rest b := by
  rw [(asks_below n pos).takes_bind_iff hf]
  constructor
  · rintro ⟨taken, rest, i, rfl, hi, hb⟩
    rw [takes_below_iff.1 hi]
    exact ⟨i, rest, rfl, hb⟩
  · rintro ⟨i, rest, rfl, hb⟩
    exact ⟨[i.val], rest, i, rfl, takes_below_iff.2 rfl, hb⟩

end

end Random
end Alternation
