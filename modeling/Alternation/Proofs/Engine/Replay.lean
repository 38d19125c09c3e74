/-
# Replaying a recorded session

`SPEC_FULL` §6: the identifiers of a request are echoed as `materials_id`, joined by
commas.

A session records the materials identifiers that it was rendered from, joined by a comma.
This is the normal form of the parameter that the request came with: the entries of any
list of identifiers have no comma in them and are tight (`MaterialsId.IsEntry`), so they
come apart again as they were joined (`MaterialsId.split_intercalate`).

What a request comes to depends on its parameter through the entries only
(`Engine.fromStore_congr`), so the recorded identifiers, sent as the parameter, render the
same session from the same stream (`Engine.replay_of_fromStore`).
-/

import Alternation.Proofs.Engine.Calls
import Alternation.Proofs.Experiment.Lead

namespace Alternation

/-! ## Lists of identifiers -/

namespace MaterialsId

/-- The text can be an entry of a list: it is tight, and no comma is in it. -/
structure IsEntry (s : String) : Prop extends Text.Tight s where
  comma_not_mem : ',' ∉ s.toList

/-- **The entries of a list** are tight, and no comma is in them. -/
theorem isEntry_of_mem_split {list entry : String} (h : entry ∈ split list) : IsEntry entry := by
  obtain ⟨part, hpart, rfl, -⟩ := Text.mem_kept_iff.1 h
  refine ⟨Text.tight_of_mem_kept h, fun hcomma => ?_⟩
  rw [Text.trimmed, String.toList_ofList] at hcomma
  exact not_mem_of_mem_splitString hpart (Text.mem_of_mem_strip hcomma)

/-- Entries that are joined with commas come apart again. -/
theorem split_intercalate {entries : List String} (h : ∀ entry ∈ entries, IsEntry entry) :
    split (",".intercalate entries) = entries := by
  cases entries with
  | nil => rfl
  | cons entry entries =>
    have hparts : splitString ',' (",".intercalate (entry :: entries)) = entry :: entries :=
      splitString_intercalate (List.cons_ne_nil _ _) fun part hpart => (h part hpart).comma_not_mem
    rw [split_eq_kept, hparts, Text.kept_eq_self fun part hpart => (h part hpart).toTight]

/-- The list in normal form: the entries, joined with commas. -/
def normalized (list : String) : String := ",".intercalate (split list)

/-- A normal form has the entries of the list it was made from. -/
theorem split_normalized (list : String) : split (normalized list) = split list :=
  split_intercalate fun _ => isEntry_of_mem_split

end MaterialsId

namespace Engine

section

variable [Complaints] {engine after : Engine} {files : FileSystem} {store : MaterialsStore} {name : String}
  {session : TrialSet}

/-- What a request comes to depends on the entries of its parameter. -/
theorem fromStore_congr {parameter parameter' : Option String}
    (h : entries parameter = entries parameter') :
    fromStore files store name parameter = fromStore files store name parameter' := by
  have hprepare (engine : Engine) :
      engine.prepare files store name parameter = engine.prepare files store name parameter' := by
    rw [prepare, prepare, materialsIds_eq, materialsIds_eq, h]
  simp only [fromStore, hprepare]

/-- A request with the normal form of a list is the request with the list. -/
theorem fromStore_normalized (list : String) :
    fromStore files store name (some (MaterialsId.normalized list)) =
      fromStore files store name (some list) :=
  fromStore_congr (MaterialsId.split_normalized list)

omit [Complaints] in
/-- A session that is rendered records the identifiers that it was rendered from. -/
theorem materialsId_of_rendered {e : Experiment} {materials : MaterialsBundle}
    {materialsId : String} (h : engine.rendered e materials materialsId = .ok session) :
    session.materialsId = materialsId := by
  rw [Engine.rendered] at h
  cases hrun : (e.assemble engine.names materials materialsId).run engine.stream with
  | mk outcome source =>
    rw [hrun] at h
    cases outcome with
    | error cause => exact nomatch h
    | ok rendered =>
      obtain rfl := Except.ok.inj h
      obtain ⟨_, _, _, _, _, -, -, -, rfl⟩ := Experiment.yields_assemble_iff.1 hrun
      rfl

/-- **The recorded identifiers** are the parameter of the request, in normal form. -/
theorem exists_materialsId_eq {parameter : Option String}
    (h : Yields (fromStore files store name parameter) engine session after) :
    ∃ list, parameter = some list ∧ session.materialsId = MaterialsId.normalized list := by
  have houtcome : ((fromStore files store name parameter).run.run engine).1 = .ok session :=
    congrArg Prod.fst h
  rcases refused_or_admitted engine.registry name parameter with
    ⟨error, refused⟩ | ⟨e, first, second, admitted⟩
  · rw [run_fromStore, prepare_of_refused refused] at houtcome
    exact nomatch houtcome
  · have hsettled : Settled engine files store e first second _ _ := settled_of_admitted admitted
    rw [houtcome] at hsettled
    have htwo := admitted.two
    cases hsettled with
    | rendered load_first load_second render =>
      cases parameter with
      | none => exact nomatch htwo
      | some list =>
        refine ⟨list, rfl, ?_⟩
        have hsplit : MaterialsId.split list = [first, second] := htwo
        rw [materialsId_of_rendered render, MaterialsId.normalized, hsplit,
          String.intercalate_cons_cons, String.intercalate_singleton]

end

/-- **Replay.**  The entries of a list of identifiers are tight and have no comma in them,
and joined with commas they come apart again.  A session that comes out of a store records
the entries of the parameter so; and whoever sends these as the parameter, to the same
engine or to another with the same experiments and names whose seed and number of renders
have the same sum, gets the same session. -/
theorem replay_of_fromStore [Complaints] (files : FileSystem) (store : MaterialsStore) (name : String) :
    (∀ list : String, (∀ entry ∈ MaterialsId.split list, MaterialsId.IsEntry entry) ∧
      MaterialsId.split (",".intercalate (MaterialsId.split list)) = MaterialsId.split list) ∧
    ∀ (engine after : Engine) (parameter : Option String) (session : TrialSet),
      Yields (fromStore files store name parameter) engine session after →
      (∃ list, parameter = some list ∧
        session.materialsId = ",".intercalate (MaterialsId.split list)) ∧
      Yields (fromStore files store name (some session.materialsId)) engine session after ∧
      ∀ again : Engine, again.registry = engine.registry → again.names = engine.names →
        again.seed + UInt64.ofNat again.renderCount =
          engine.seed + UInt64.ofNat engine.renderCount →
        ((fromStore files store name (some session.materialsId)).run.run again).1 =
          .ok session := by
  refine ⟨fun list => ⟨fun _ => MaterialsId.isEntry_of_mem_split,
    MaterialsId.split_normalized list⟩, fun engine after parameter session h => ?_⟩
  obtain ⟨list, rfl, hid⟩ := exists_materialsId_eq h
  have hreplay : Yields (fromStore files store name (some session.materialsId)) engine session
      after := by
    rw [hid, fromStore_normalized]
    exact h
  refine ⟨⟨list, rfl, hid⟩, hreplay, fun again hregistry hnames hstream => ?_⟩
  have hfresh : again.restarted = engine.restarted := by
    rw [restarted, restarted, hregistry, hnames, hstream]
  let call := Call.fromStore files store name (some session.materialsId)
  calc (call.run.run again).1
      = (call.run.run again.restarted).1 := (call.run_restarted again).symm
    _ = (call.run.run engine).1 := by rw [hfresh, call.run_restarted]
    _ = .ok session := congrArg Prod.fst hreplay

/-! ## A session of one trial -/

/-- One experiment: a choice between two sentences, and nothing else. -/
def oneChoice : Registry :=
  .ofList [("one_choice", { Design.sprayLoadWeight with totalTrials := 1, experimentalTrials := 0 })]

/-- A store with two sets, of which the first is empty. -/
def paintAndCats : FileSystem := .ofReads
  [("materials/paint.json", .ok "\x7b\"name\":\"paint\"\x7d".toUTF8),
   ("materials/cats.json", .ok
    "[\"cats\",[\x7b\"id\":1,\"good_sentence\":\"cats sleep\",\"bad_sentence\":\"cats sleeps\",\"manipulation\":\"agreement\",\"bad_ungrammatical\":true\x7d]]".toUTF8)]

/-- Blanks of every kind and empty entries are gone from the recorded identifiers. -/
theorem replay_of_fromStore_paintAndCats :
    letI := Complaints.silent
    ∃ session after,
      Yields (fromStore paintAndCats ⟨"materials"⟩ "one_choice" (some " paint ,, cats\u3000,"))
        ⟨oneChoice, .tomAndAnn, 7, 3⟩ session after ∧
      session.materialsId = "paint,cats" ∧
      session.trials.flatMap Trial.sentenceTexts = ["Cats sleep.", "Cats sleeps."] ∧
      ((fromStore paintAndCats ⟨"materials"⟩ "one_choice" (some "paint,cats")).run.run
        ⟨oneChoice, .tomAndAnn, 10, 0⟩).1 = .ok session := by
  let := Complaints.silent
  have hrun : (((fromStore paintAndCats ⟨"materials"⟩ "one_choice"
      (some " paint ,, cats\u3000,")).run.run ⟨oneChoice, .tomAndAnn, 7, 3⟩).1.toOption.map
        fun session => (session.materialsId, session.trials.flatMap Trial.sentenceTexts)) =
      some ("paint,cats", ["Cats sleep.", "Cats sleeps."]) := by decide +kernel
  obtain ⟨session, after, hyields, hshown⟩ := exists_yields_of_toOption hrun
  obtain ⟨hid, htexts⟩ := Prod.mk.inj hshown
  obtain ⟨-, -, hagain⟩ := (replay_of_fromStore paintAndCats ⟨"materials"⟩ "one_choice").2 _ _ _ _
    hyields
  rw [hid] at hagain
  exact ⟨session, after, hyields, hid, htexts, hagain ⟨oneChoice, .tomAndAnn, 10, 0⟩ rfl rfl rfl⟩

end Engine
end Alternation
