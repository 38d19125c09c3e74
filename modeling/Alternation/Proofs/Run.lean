/-
# Runs

`SPEC_FULL` §5: rendering is synchronous, so a run is a function of the state it starts
from.

Three ways to speak of a run without opening the monad it runs in.

* `Always P m`: from every state, the result of `m` satisfies `P`.
* `Yields m s a s'`: from the state `s`, `m` succeeds with `a` and leaves `s'`.
* `Raises P m`: from every state, an error of `m` satisfies `P`.

A run of a sequence is a run of its first part and one of the rest from where the
first left off (`yields_bind_iff`), and a run over a list is a run for each element,
one after the other (`yields_mapM_iff`).
-/

import Alternation.Render.Rendering
import Mathlib.Data.List.Forall2

namespace Alternation

/-! ## Computations that cannot fail -/

section

variable {σ α β : Type} {P : α → Prop} {Q : β → Prop}

/-- From every state, the result satisfies `P`. -/
def Always (P : α → Prop) (m : StateM σ α) : Prop := ∀ s, P (m.run s).1

/-- A result that is given always is what it is. -/
theorem always_pure {a : α} (h : P a) : Always P (pure a : StateM σ α) := fun _ => h

/-- What always holds of a first result may be used for the second. -/
theorem Always.bind {m : StateM σ α} {f : α → StateM σ β} (hm : Always P m)
    (hf : ∀ a, P a → Always Q (f a)) : Always Q (m >>= f) :=
  fun s => hf _ (hm s) (m.run s).2

/-- What follows from something that always holds, always holds. -/
theorem Always.mono {P' : α → Prop} {m : StateM σ α} (hm : Always P m) (h : ∀ a, P a → P' a) :
    Always P' m :=
  fun s => h _ (hm s)

/-- Nothing is asked of the result. -/
theorem always_true (m : StateM σ α) : Always (fun _ => True) m := fun _ => trivial

/-- What follows a computation matters only for the results that it can have. -/
theorem Always.bind_congr {m : StateM σ α} {f g : α → StateM σ β} (hm : Always P m)
    (hfg : ∀ a, P a → f a = g a) : m >>= f = m >>= g := by
  funext s
  show (f (m.run s).1).run (m.run s).2 = (g (m.run s).1).run (m.run s).2
  rw [hfg _ (hm s)]

end

/-! ## Computations that can fail -/

section

variable {ε σ α β : Type}

/-- A sequence of checks passes if the first one does and then the rest. -/
theorem ok_bind_iff {x : Except ε α} {f : α → Except ε β} {b : β} :
    x >>= f = .ok b ↔ ∃ a, x = .ok a ∧ f a = .ok b := by
  cases x with
  | error e =>
    constructor
    · exact fun h => nomatch h
    · rintro ⟨a, ha, -⟩
      exact nomatch ha
  | ok a =>
    constructor
    · exact fun h => ⟨a, rfl, h⟩
    · rintro ⟨a', ha, h⟩
      rwa [← Except.ok.inj ha] at h

/-- From the state `s`, the computation succeeds with `a` and leaves `s'`. -/
def Yields (m : ExceptT ε (StateM σ) α) (s : σ) (a : α) (s' : σ) : Prop :=
  m.run.run s = (.ok a, s')

/-- A result that is given leaves the state as it is. -/
theorem yields_pure_iff {a b : α} {s s' : σ} :
    Yields (pure a : ExceptT ε (StateM σ) α) s b s' ↔ b = a ∧ s' = s := by
  constructor
  · intro h
    obtain ⟨hb, hs⟩ := Prod.mk.inj h
    exact ⟨(Except.ok.inj hb).symm, hs.symm⟩
  · rintro ⟨rfl, rfl⟩
    rfl

/-- An error is no result. -/
theorem yields_throw_iff {e : ε} {a : α} {s s' : σ} :
    Yields (throw e : ExceptT ε (StateM σ) α) s a s' ↔ False := by
  constructor
  · intro h
    cases (Prod.mk.inj h).1
  · exact False.elim

/-- A computation that cannot fail yields what it returns. -/
theorem yields_lift_iff {m : StateM σ α} {a : α} {s s' : σ} :
    Yields (ExceptT.lift m : ExceptT ε (StateM σ) α) s a s' ↔ m.run s = (a, s') := by
  constructor
  · intro h
    obtain ⟨ha, hs⟩ := Prod.mk.inj h
    exact Prod.ext (Except.ok.inj ha) hs
  · intro h
    show (Except.ok (m.run s).1, (m.run s).2) = _
    rw [h]

/-- A sequence runs its first part, and then the rest unless the first part failed. -/
theorem run_bind (m : ExceptT ε (StateM σ) α) (f : α → ExceptT ε (StateM σ) β) (s : σ) :
    (m >>= f).run.run s =
      match m.run.run s with
      | (.ok a, s') => (f a).run.run s'
      | (.error e, s') => (.error e, s') := by
  have hbind : (m >>= f).run.run s =
      (ExceptT.bindCont f (m.run.run s).1).run (m.run.run s).2 := rfl
  rw [hbind]
  rcases m.run.run s with ⟨e | a, s'⟩
  · rfl
  · rfl

/-- **A run of a sequence** is a run of its first part and one of the rest. -/
theorem yields_bind_iff {m : ExceptT ε (StateM σ) α} {f : α → ExceptT ε (StateM σ) β} {b : β}
    {s s'' : σ} :
    Yields (m >>= f) s b s'' ↔ ∃ a s', Yields m s a s' ∧ Yields (f a) s' b s'' := by
  unfold Yields
  rw [run_bind]
  rcases m.run.run s with ⟨e | a, s'⟩
  · constructor
    · intro h
      cases (Prod.mk.inj h).1
    · rintro ⟨a, t, h, -⟩
      cases (Prod.mk.inj h).1
  · constructor
    · intro h
      exact ⟨a, s', rfl, h⟩
    · rintro ⟨a', t, h, hf⟩
      obtain ⟨ha, rfl⟩ := Prod.mk.inj h
      obtain rfl := Except.ok.inj ha
      exact hf

/-- A run whose first part looks at the state and may fail. -/
theorem run_bind_read (read : σ → Except ε α) (f : α → ExceptT ε (StateM σ) β) (s : σ) :
    ((ExceptT.mk fun s => (read s, s)) >>= f : ExceptT ε (StateM σ) β).run.run s =
      match read s with
      | .ok a => (f a).run.run s
      | .error e => (.error e, s) := by
  have hbind : ((ExceptT.mk fun s => (read s, s)) >>= f : ExceptT ε (StateM σ) β).run.run s =
      StateT.run (m := Id) (ExceptT.bindCont f (read s)) s := rfl
  rw [hbind]
  cases read s with
  | ok a => rfl
  | error e => rfl

/-- An outcome that is seen, through a function, to be a success. -/
theorem exists_ok_of_toOption {r : Except ε α} {f : α → β} {b : β}
    (h : r.toOption.map f = some b) : ∃ a, r = .ok a ∧ f a = b := by
  cases r with
  | error e => exact nomatch h
  | ok a => exact ⟨a, rfl, Option.some.inj h⟩

/-- A run whose result is seen, through a function, to be a success. -/
theorem exists_yields_of_toOption {m : ExceptT ε (StateM σ) α} {s : σ} {f : α → β} {b : β}
    (h : (m.run.run s).1.toOption.map f = some b) : ∃ a s', Yields m s a s' ∧ f a = b := by
  obtain ⟨a, hrun, hvalue⟩ := exists_ok_of_toOption h
  exact ⟨a, _, Prod.ext hrun rfl, hvalue⟩

/-- The same, where the errors are told apart. -/
theorem exists_yields {m : ExceptT ε (StateM σ) α} {s : σ} {f : α → β} {b : β}
    (h : (m.run.run s).1.map f = .ok b) : ∃ a s', Yields m s a s' ∧ f a = b := by
  refine exists_yields_of_toOption ?_
  cases hrun : (m.run.run s).1 with
  | error e =>
    rw [hrun] at h
    exact nomatch h
  | ok a =>
    rw [hrun] at h
    exact congrArg some (Except.ok.inj h)

/-! ## Errors -/

/-- From every state, an error satisfies `P`. -/
def Raises (P : ε → Prop) (m : ExceptT ε (StateM σ) α) : Prop :=
  ∀ s e, (m.run.run s).1 = .error e → P e

section

variable {P : ε → Prop}

/-- A result that is given is no error. -/
theorem raises_pure (a : α) : Raises P (pure a : ExceptT ε (StateM σ) α) :=
  fun _ _ h => nomatch h

/-- An error is raised as it is. -/
theorem raises_throw {e : ε} (h : P e) : Raises P (throw e : ExceptT ε (StateM σ) α) :=
  fun _ _ he => Except.error.inj he ▸ h

/-- A computation that cannot fail raises nothing. -/
theorem raises_lift (m : StateM σ α) : Raises P (ExceptT.lift m : ExceptT ε (StateM σ) α) :=
  fun _ _ h => nomatch h

/-- An error of a sequence is one of its first part, or one of the rest after a result
that the first part can have. -/
theorem Raises.bind {m : ExceptT ε (StateM σ) α} {f : α → ExceptT ε (StateM σ) β}
    (hm : Raises P m) (hf : ∀ s a s', Yields m s a s' → Raises P (f a)) : Raises P (m >>= f) := by
  intro s e he
  rw [run_bind] at he
  rcases hrun : m.run.run s with ⟨e' | a, s'⟩ <;> rw [hrun] at he
  · obtain rfl := Except.error.inj he
    exact hm s e' (by rw [hrun])
  · exact hf s a s' hrun s' e he

/-- An error of runs over a list is one of the run for an element. -/
theorem raises_mapM {f : α → ExceptT ε (StateM σ) β} {as : List α}
    (h : ∀ a ∈ as, Raises P (f a)) : Raises P (as.mapM f) := by
  induction as with
  | nil =>
    rw [List.mapM_nil]
    exact raises_pure []
  | cons a as ih =>
    rw [List.mapM_cons]
    refine (h a (List.mem_cons_self ..)).bind fun _ b _ _ => ?_
    refine (ih fun a' ha' => h a' (List.mem_cons_of_mem _ ha')).bind fun _ bs _ _ => ?_
    exact raises_pure _

end

/-! ## Runs over a list -/

/-- Runs for the elements of a list, each from the state that the one before left. -/
inductive YieldsEach (f : α → ExceptT ε (StateM σ) β) : List α → σ → List β → σ → Prop
  | nil (s : σ) : YieldsEach f [] s [] s
  | cons {a : α} {as : List α} {b : β} {bs : List β} {s s' s'' : σ}
      (head : Yields (f a) s b s') (tail : YieldsEach f as s' bs s'') :
      YieldsEach f (a :: as) s (b :: bs) s''

/-- Computing something for every element of a list is one computation after the other. -/
theorem yields_mapM_iff {f : α → ExceptT ε (StateM σ) β} {as : List α} {bs : List β} {s s'' : σ} :
    Yields (as.mapM f) s bs s'' ↔ YieldsEach f as s bs s'' := by
  induction as generalizing bs s s'' with
  | nil =>
    rw [List.mapM_nil, yields_pure_iff]
    constructor
    · rintro ⟨rfl, rfl⟩
      exact .nil _
    · rintro ⟨⟩
      exact ⟨rfl, rfl⟩
  | cons a as ih =>
    simp only [List.mapM_cons, yields_bind_iff, yields_pure_iff, ih]
    constructor
    · rintro ⟨b, s', hb, bs', t, hbs, rfl, rfl⟩
      exact .cons hb hbs
    · rintro ⟨⟩
      rename_i b bs' s' hb hbs
      exact ⟨b, s', hb, bs', s'', hbs, rfl, rfl⟩

/-- What holds of each run holds of the elements and results pairwise. -/
theorem YieldsEach.forall₂ {f : α → ExceptT ε (StateM σ) β} {as : List α} {bs : List β}
    {s s' : σ} {R : α → β → Prop} (h : YieldsEach f as s bs s')
    (hR : ∀ a s b s', Yields (f a) s b s' → R a b) : List.Forall₂ R as bs := by
  induction h with
  | nil => exact .nil
  | cons head _ ih => exact .cons (hR _ _ _ _ head) ih

/-- There is a result for each element. -/
theorem YieldsEach.length_eq {f : α → ExceptT ε (StateM σ) β} {as : List α} {bs : List β}
    {s s' : σ} (h : YieldsEach f as s bs s') : bs.length = as.length := by
  induction h with
  | nil => rfl
  | cons _ _ ih => rw [List.length_cons, List.length_cons, ih]

/-- What holds of the result of each run holds of all results. -/
theorem YieldsEach.forall_mem {f : α → ExceptT ε (StateM σ) β} {as : List α} {bs : List β}
    {s s' : σ} {P : β → Prop} (h : YieldsEach f as s bs s')
    (hP : ∀ a s b s', Yields (f a) s b s' → P b) : ∀ b ∈ bs, P b := by
  induction h with
  | nil => exact fun _ hb => nomatch hb
  | cons head _ ih => exact List.forall_mem_cons.2 ⟨hP _ _ _ _ head, ih⟩

/-- The same runs, told of what the elements stand for. -/
theorem YieldsEach.map {γ : Type} {f : α → ExceptT ε (StateM σ) β}
    {g : γ → ExceptT ε (StateM σ) β} {as : List α} {bs : List β} {s s' : σ}
    (h : YieldsEach f as s bs s') (k : α → γ) (hfg : ∀ a ∈ as, f a = g (k a)) :
    YieldsEach g (as.map k) s bs s' := by
  induction h with
  | nil => exact .nil _
  | cons head _ ih =>
    rw [hfg _ (List.mem_cons_self ..)] at head
    exact .cons head (ih fun a ha => hfg a (List.mem_cons_of_mem _ ha))

end

/-! ## Runs of a rendering -/

section

variable {σ α : Type}

/-- A check that succeeds leaves the scene as it is. -/
theorem yields_check_iff {r : Except RenderError α} {a : α} {s s' : Scene σ} :
    Yields (Rendering.check r) s a s' ↔ r = .ok a ∧ s' = s := by
  constructor
  · intro h
    obtain ⟨hr, hs⟩ := Prod.mk.inj h
    exact ⟨hr, hs.symm⟩
  · rintro ⟨rfl, rfl⟩
    rfl

/-- A trial is rendered with nothing bound at first, and its bindings are forgotten. -/
theorem yields_fresh_iff {m : Rendering σ α} {a : α} {s s' : σ} :
    Yields m.fresh s a s' ↔ ∃ bindings, Yields m ⟨.empty, s⟩ a ⟨bindings, s'⟩ := by
  constructor
  · intro h
    obtain ⟨hr, rfl⟩ := Prod.mk.inj h
    exact ⟨(m.run.run ⟨.empty, s⟩).2.bindings, Prod.ext hr rfl⟩
  · rintro ⟨bindings, h⟩
    have hr : (m.run.run ⟨.empty, s⟩).1 = .ok a := congrArg Prod.fst h
    have hs : (m.run.run ⟨.empty, s⟩).2.source = s' := congrArg (·.2.source) h
    exact Prod.ext hr hs

end

end Alternation
