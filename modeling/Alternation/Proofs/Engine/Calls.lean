/-
# Calls on an engine, over any history

`SPEC_FULL` §5: successive renders use the seed plus `render_count`; `get_trials`,
`render` and `get_trials_from_store` in any order.

A call renders, and then its outcome is a trial set or an error of rendering, or it is
rejected before (`Outcome.isRender`).  What a call is to render depends on the registry
alone, so one call leaves the engine with one more render, or as it was
(`Call.run_eq`), and a run of calls leaves it with as many more as its outcomes show
(`run_outcomes_snd`).  So each call of a history answers as the same call does on a
fresh engine whose seed is the seed plus the number of renders before it, and a
rejected call could as well not have been made (`outcomes_of_history`).
-/

import Alternation.Proofs.Engine.Admission

namespace Alternation
namespace Engine

/-! ## One call -/

/-- A call on an engine; each call on a store may find other files. -/
inductive Call where
  | trials (name : String) (materials : MaterialsBundle) (materialsId : String)
  | render (e : Experiment) (materials : MaterialsBundle) (materialsId : String)
  | fromStore (files : FileSystem) (store : MaterialsStore) (name : String)
      (parameter : Option String)

/-- Makes the call. -/
def Call.run [Complaints] : Call → StateM Engine Outcome
  | trials name materials materialsId => (Engine.trials name materials materialsId).run
  | render e materials materialsId => (Engine.render e materials materialsId).run
  | fromStore files store name parameter => (Engine.fromStore files store name parameter).run

/-- What the call is to render, or why it is rejected. -/
def Call.prepared [Complaints] (engine : Engine) :
    Call → Except EngineError (Experiment × MaterialsBundle × String)
  | trials name materials materialsId =>
    (engine.experiment name).map fun e => (e, materials, materialsId)
  | render e materials materialsId => .ok (e, materials, materialsId)
  | fromStore files store name parameter => engine.prepare files store name parameter

/-- The call got as far as rendering, whether that succeeded or failed. -/
def Outcome.isRender : Outcome → Bool
  | .ok _ => true
  | .error (.render _) => true
  | .error _ => false

/-- The engine after an outcome. -/
def after (engine : Engine) (outcome : Outcome) : Engine :=
  if outcome.isRender then engine.advance else engine

section

variable {engine : Engine} {call : Call} {error : EngineError}

/-- What rendering comes to counts as a render. -/
theorem isRender_rendered (engine : Engine) (e : Experiment) (materials : MaterialsBundle)
    (materialsId : String) : Outcome.isRender (engine.rendered e materials materialsId) = true := by
  cases h : engine.rendered e materials materialsId with
  | ok set => rfl
  | error error =>
    obtain ⟨cause, rfl⟩ := rendered_eq_render h
    rfl

variable [Complaints]

/-- What keeps a request from being rendered is no error of rendering. -/
theorem isRender_of_prepare {files : FileSystem} {store : MaterialsStore} {name : String}
    {parameter : Option String}
    (h : engine.prepare files store name parameter = .error error) :
    Outcome.isRender (.error error) = false := by
  rcases refused_or_admitted engine.registry name parameter with
    ⟨refusal, refused⟩ | ⟨e, first, second, admitted⟩
  · rw [prepare_of_refused refused] at h
    obtain rfl := Except.error.inj h
    cases refused <;> rfl
  · rw [prepare_of_admitted admitted] at h
    cases hfirst : store.load files first with
    | error cause =>
      rw [hfirst] at h
      obtain rfl := Except.error.inj h
      rfl
    | ok experimental =>
      cases hsecond : store.load files second with
      | error cause =>
        rw [hfirst, hsecond] at h
        obtain rfl := Except.error.inj h
        rfl
      | ok fillers =>
        rw [hfirst, hsecond] at h
        exact nomatch h

/-- A call that is rejected does not count as a render. -/
theorem Call.isRender_of_prepared (h : call.prepared engine = .error error) :
    Outcome.isRender (.error error) = false := by
  cases call with
  | trials name materials materialsId =>
    simp only [prepared, Engine.experiment] at h
    cases hcreate : engine.registry.create? name with
    | some e =>
      rw [hcreate] at h
      cases h
    | none =>
      rw [hcreate] at h
      cases h
      rfl
  | render e materials materialsId => cases h
  | fromStore files store name parameter => exact isRender_of_prepare h

/-- A call is rejected, and the engine stays as it was; or it takes the next render. -/
theorem Call.run_eq (call : Call) (engine : Engine) :
    call.run.run engine =
      match call.prepared engine with
      | .ok (e, materials, materialsId) =>
        (engine.rendered e materials materialsId, engine.advance)
      | .error error => (.error error, engine) := by
  cases call with
  | trials name materials materialsId =>
    simp only [run, prepared, Engine.trials]
    refine (run_bind_read (fun engine => engine.experiment name) _ engine).trans ?_
    cases engine.experiment name with
    | ok e => rfl
    | error error => rfl
  | render e materials materialsId => rfl
  | fromStore files store name parameter => exact run_fromStore engine files store name parameter

/-- **One call** leaves one more render behind, or nothing, and its outcome shows which. -/
theorem Call.run_snd (call : Call) (engine : Engine) :
    (call.run.run engine).2 = engine.after (call.run.run engine).1 := by
  rw [Call.run_eq]
  cases h : call.prepared engine with
  | ok ready =>
    obtain ⟨e, materials, materialsId⟩ := ready
    exact (if_pos (isRender_rendered engine e materials materialsId)).symm
  | error error =>
    dsimp only
    rw [after, Call.isRender_of_prepared h]
    rfl

/-- A fresh engine that draws from the same stream. -/
def restarted (engine : Engine) : Engine :=
  .ofSeed engine.registry engine.names (engine.seed + UInt64.ofNat engine.renderCount)

omit [Complaints] in
/-- A restarted engine draws from the stream that the engine has come to. -/
theorem stream_restarted (engine : Engine) : engine.restarted.stream = engine.stream := by
  have hzero : UInt64.ofNat 0 = 0 := rfl
  unfold Engine.stream restarted ofSeed
  rw [hzero, UInt64.add_zero]

/-- A restarted engine prepares a call as the engine does. -/
theorem Call.prepared_restarted (call : Call) (engine : Engine) :
    call.prepared engine.restarted = call.prepared engine := by
  cases call <;> rfl

/-- What a call comes to depends on the seed and the number of renders by their sum. -/
theorem Call.run_restarted (call : Call) (engine : Engine) :
    (call.run.run engine.restarted).1 = (call.run.run engine).1 := by
  rw [Call.run_eq, Call.run_eq, Call.prepared_restarted]
  cases call.prepared engine with
  | ok ready =>
    show engine.restarted.rendered _ _ _ = engine.rendered _ _ _
    unfold Engine.rendered
    rw [stream_restarted]
    rfl
  | error error => rfl

end

/-! ## Histories -/

/-- Makes the calls one after the other. -/
def outcomes [Complaints] (calls : List Call) : StateM Engine (List Outcome) := calls.mapM Call.run

/-- The engine after more renders. -/
def advanceBy (engine : Engine) (renders : Nat) : Engine :=
  { engine with renderCount := engine.renderCount + renders }

section

variable [Complaints] {engine : Engine}

/-- A history is its first call, and then the others on the engine that it leaves. -/
theorem run_outcomes_cons (call : Call) (calls : List Call) (engine : Engine) :
    (outcomes (call :: calls)).run engine =
      ((call.run.run engine).1 :: ((outcomes calls).run (call.run.run engine).2).1,
        ((outcomes calls).run (call.run.run engine).2).2) := by
  unfold outcomes
  rw [List.mapM_cons]
  rfl

/-- A history goes on from the engine that its first part leaves. -/
theorem run_outcomes_append (earlier later : List Call) (engine : Engine) :
    (outcomes (earlier ++ later)).run engine =
      (((outcomes earlier).run engine).1 ++
          ((outcomes later).run ((outcomes earlier).run engine).2).1,
        ((outcomes later).run ((outcomes earlier).run engine).2).2) := by
  induction earlier generalizing engine with
  | nil => rfl
  | cons call earlier ih =>
    rw [List.cons_append, run_outcomes_cons, run_outcomes_cons, ih]
    rfl

/-- **A run of calls** leaves as many more renders as its outcomes show. -/
theorem run_outcomes_snd (calls : List Call) (engine : Engine) :
    ((outcomes calls).run engine).2 =
      engine.advanceBy (((outcomes calls).run engine).1.countP Outcome.isRender) := by
  induction calls generalizing engine with
  | nil => rfl
  | cons call calls ih =>
    rw [run_outcomes_cons]
    dsimp only
    rw [ih, Call.run_snd, List.countP_cons]
    unfold after
    split
    · rename_i hrender
      simp only [advance, advanceBy, Nat.add_assoc, Nat.add_comm]
    · rfl

end

/-- **What an engine answers after any history.**  It counts the calls that got as far
as rendering.  The next call answers as it would on a fresh engine whose seed is the
seed plus that number, modulo `2 ^ 64`; and if it is rejected, every later call answers
as if it had not been made. -/
theorem outcomes_of_history [Complaints] (registry : Registry) (names : NameCorpus) (seed : UInt64)
    (earlier : List Call) :
    let engine := ((outcomes earlier).run (.ofSeed registry names seed)).2
    let renders := ((outcomes earlier).run (.ofSeed registry names seed)).1.countP Outcome.isRender
    engine.renderCount = renders ∧
    ∀ (call : Call) (later : List Call), ∃ outcome following last,
      (outcomes (earlier ++ call :: later)).run (.ofSeed registry names seed) =
        (((outcomes earlier).run (.ofSeed registry names seed)).1 ++ outcome :: following,
          last) ∧
      outcome =
        (call.run.run (.ofSeed registry names (seed + UInt64.ofNat renders))).1 ∧
      (outcome.isRender = false →
        (outcomes (earlier ++ later)).run (.ofSeed registry names seed) =
          (((outcomes earlier).run (.ofSeed registry names seed)).1 ++ following, last)) := by
  intro engine renders
  have hengine : engine = (ofSeed registry names seed).advanceBy renders :=
    run_outcomes_snd earlier (.ofSeed registry names seed)
  have hcount : engine.renderCount = renders := by
    rw [hengine]
    exact Nat.zero_add renders
  have hfresh : engine.restarted = .ofSeed registry names (seed + UInt64.ofNat renders) := by
    rw [restarted, hcount, hengine]
    rfl
  refine ⟨hcount, fun call later => ?_⟩
  refine ⟨(call.run.run engine).1, ((outcomes later).run (call.run.run engine).2).1,
    ((outcomes later).run (call.run.run engine).2).2, ?_, ?_, fun hrejected => ?_⟩
  · rw [run_outcomes_append, run_outcomes_cons]
  · rw [← hfresh, Call.run_restarted]
  · have hstays : (call.run.run engine).2 = engine := by
      rw [Call.run_snd, after, hrejected]
      rfl
    rw [run_outcomes_append, hstays]

end Engine
end Alternation
