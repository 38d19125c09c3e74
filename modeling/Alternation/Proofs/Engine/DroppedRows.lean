/-
# Rows that are dropped leave no trace

`SPEC_FULL` §3 and §4.4: items that fail the filter are excluded before sampling.

An experiment draws from usable items, and its fillers from the items of their rating
classes, or from all of them.  Two bundles of materials are *alike* for an experiment if
these pools are the same, item by item and in the same order, and the sets have the same
names.  From one stream both then come to the same end, the trial set or the error, and
leave the same stream (`Experiment.assemble_congr`): no draw is bounded by the rows of a
file, and no error counts them.

Rows that are in no pool may be added, deleted and edited anywhere
(`Experiment.alike_of_edited`).  One edit leaves the pools as they are
(`RowEdit.filter_eq`), so any number of them does.
-/

import Alternation.Proofs.Engine.Admission
import Alternation.Proofs.Experiment.Session

namespace Alternation

/-! ## Editing rows -/

/-- One row is added, deleted or written anew; what goes and what comes are dropped. -/
inductive RowEdit (dropped : Item → Prop) : List Item → List Item → Prop
  | add {before after : List Item} {row : Item} (h : dropped row) :
    RowEdit dropped (before ++ after) (before ++ row :: after)
  | delete {before after : List Item} {row : Item} (h : dropped row) :
    RowEdit dropped (before ++ row :: after) (before ++ after)
  | rewrite {before after : List Item} {row row' : Item} (h : dropped row) (h' : dropped row') :
    RowEdit dropped (before ++ row :: after) (before ++ row' :: after)

/-- The rows of a set have been edited, any number of times; it has kept its name. -/
structure MaterialsSet.Edited (dropped : Item → Prop) (set set' : MaterialsSet) : Prop where
  name : set'.name = set.name
  rows : Relation.ReflTransGen (RowEdit dropped) set.items set'.items

section

variable {dropped : Item → Prop} {rows rows' : List Item} {p : Item → Bool}

/-- An edit of rows that a filter drops is not seen behind the filter. -/
theorem RowEdit.filter_eq (h : RowEdit dropped rows rows')
    (hp : ∀ row, dropped row → p row = false) : rows'.filter p = rows.filter p := by
  cases h with
  | add hrow => simp [List.filter_append, hp _ hrow]
  | delete hrow => simp [List.filter_append, hp _ hrow]
  | rewrite hrow hrow' => simp [List.filter_append, hp _ hrow, hp _ hrow']

/-- Any number of edits of rows that a filter drops is not seen behind the filter. -/
theorem filter_eq_of_edits (h : Relation.ReflTransGen (RowEdit dropped) rows rows')
    (hp : ∀ row, dropped row → p row = false) : rows'.filter p = rows.filter p := by
  induction h with
  | refl => rfl
  | tail _ hedit ih => exact (hedit.filter_eq hp).trans ih

/-- Where no row is dropped, none is edited. -/
theorem MaterialsSet.Edited.items_eq {set set' : MaterialsSet} (h : set.Edited dropped set')
    (hnone : ∀ row, ¬ dropped row) : set'.items = set.items := by
  have hkept := filter_eq_of_edits (p := fun _ => true) h.rows
    fun row hrow => absurd hrow (hnone row)
  rwa [List.filter_true, List.filter_true] at hkept

end

/-! ## Bundles that are alike -/

namespace Fillers

/-- Fillers of the kind are drawn from the same items, in the same order. -/
def SamePools (set set' : MaterialsSet) : Fillers → Prop
  | balanced first second _ =>
    rated set'.items first = rated set.items first ∧
      rated set'.items second = rated set.items second
  | completion _ => set'.items = set.items
  | options => set'.items = set.items

/-- Rows that no filler is drawn from may be edited. -/
theorem samePools_of_edited {kind : Fillers} {set set' : MaterialsSet}
    (h : set.Edited (fun row => ¬ kind.Eligible row) set') : kind.SamePools set set' := by
  cases kind with
  | balanced first second format =>
    have hclass (rating : String) (hr : some rating = some first ∨ some rating = some second) :
        rated set'.items rating = rated set.items rating := by
      refine filter_eq_of_edits h.rows fun row hrow => decide_eq_false fun hrated => hrow ?_
      exact hr.imp hrated.trans hrated.trans
    exact ⟨hclass first (.inl rfl), hclass second (.inr rfl)⟩
  | completion join => exact h.items_eq fun _ hrow => hrow trivial
  | options => exact h.items_eq fun _ hrow => hrow trivial

/-- Fillers that are drawn from the same pools are built by the same program. -/
theorem build_congr {σ : Type} [RandomSource σ] {kind : Fillers} {set set' : MaterialsSet}
    (hname : set'.name = set.name)
    (hpools : kind.SamePools set set') (corpus : NameCorpus) (count : Nat) :
    (kind.build corpus set' count : Drawing σ (List Trial)) = kind.build corpus set count := by
  cases kind with
  | balanced first second format =>
    simp only [build, sampleRated, hname, hpools.1, hpools.2]
  | completion join =>
    have hitems : set'.items = set.items := hpools
    simp only [build, hname, hitems]
  | options =>
    have hitems : set'.items = set.items := hpools
    simp only [build, hname, hitems]

end Fillers

namespace Experiment

/-- The experiment draws from the same items in both bundles, in the same order, and the
sets have the same names. -/
structure Alike (e : Experiment) (materials materials' : MaterialsBundle) : Prop where
  experimental_name : materials'.experimental.name = materials.experimental.name
  usable : e.kind.usable materials'.experimental = e.kind.usable materials.experimental
  fillers_name : materials'.fillers.name = materials.fillers.name
  pools : e.fillers.SamePools materials.fillers materials'.fillers

/-- Rows have been edited that the experiment does not draw from: experimental ones that
are not usable, and fillers of no class that it uses. -/
structure Edited (e : Experiment) (materials materials' : MaterialsBundle) : Prop where
  experimental : materials.experimental.Edited
    (fun row => row.isUsable e.kind.requiredFields e.kind.flagFields = false)
    materials'.experimental
  fillers : materials.fillers.Edited (fun row => ¬ e.fillers.Eligible row) materials'.fillers

/-- Likeness of bundles carries over. -/
theorem Alike.trans {e : Experiment} {m m' m'' : MaterialsBundle} (h : e.Alike m m')
    (h' : e.Alike m' m'') : e.Alike m m'' where
  experimental_name := h'.experimental_name.trans h.experimental_name
  usable := h'.usable.trans h.usable
  fillers_name := h'.fillers_name.trans h.fillers_name
  pools := by
    have hpools := h.pools
    have hpools' := h'.pools
    cases hkind : e.fillers <;> rw [hkind] at hpools hpools'
    · exact ⟨hpools'.1.trans hpools.1, hpools'.2.trans hpools.2⟩
    · exact hpools'.trans hpools
    · exact hpools'.trans hpools

/-- **Rows that are not drawn from may be edited.** -/
theorem alike_of_edited {e : Experiment} {materials materials' : MaterialsBundle}
    (h : e.Edited materials materials') : e.Alike materials materials' where
  experimental_name := h.experimental.name
  usable := filter_eq_of_edits h.experimental.rows fun _ hrow => hrow
  fillers_name := h.fillers.name
  pools := Fillers.samePools_of_edited h.fillers

section

variable {σ : Type} [RandomSource σ] {e : Experiment} {materials materials' : MaterialsBundle}

/-- **Bundles that are alike** are rendered alike, draw for draw. -/
theorem assemble_congr (h : e.Alike materials materials') (corpus : NameCorpus)
    (materialsId : String) :
    (e.assemble corpus materials' materialsId : Drawing σ TrialSet) =
      e.assemble corpus materials materialsId := by
  unfold assemble renderExperimental
  rw [h.usable, h.experimental_name, Fillers.build_congr h.fillers_name h.pools]

end
end Experiment

namespace Engine

/-- Which experiment a request is for, and what its materials are called, does not depend
on the files. -/
theorem prepare_unique [Complaints] {engine : Engine} {files files' : FileSystem} {store : MaterialsStore}
    {name : String} {parameter : Option String} {e e' : Experiment} {m m' : MaterialsBundle}
    {id id' : String} (h : engine.prepare files store name parameter = .ok (e, m, id))
    (h' : engine.prepare files' store name parameter = .ok (e', m', id')) : e' = e ∧ id' = id := by
  rcases refused_or_admitted engine.registry name parameter with
    ⟨refusal, refused⟩ | ⟨known, first, second, admitted⟩
  · rw [prepare_of_refused refused] at h
    exact nomatch h
  · rw [prepare_of_admitted admitted] at h h'
    obtain ⟨_, -, h⟩ := ok_bind_iff.1 h
    obtain ⟨_, -, h⟩ := ok_bind_iff.1 h
    obtain ⟨_, -, h'⟩ := ok_bind_iff.1 h'
    obtain ⟨_, -, h'⟩ := ok_bind_iff.1 h'
    cases h
    cases h'
    exact ⟨rfl, rfl⟩

/-- An engine renders bundles that are alike in the same way, errors included. -/
theorem render_congr {e : Experiment} {materials materials' : MaterialsBundle}
    (h : e.Alike materials materials') (engine : Engine) (materialsId : String) :
    (render e materials' materialsId).run.run engine =
      (render e materials materialsId).run.run engine := by
  show (engine.rendered e materials' materialsId, engine.advance) =
    (engine.rendered e materials materialsId, engine.advance)
  rw [rendered, rendered, Experiment.assemble_congr h]

end Engine

/-- **Dropped rows leave no trace.**  Take two bundles that are alike for an experiment,
and edit any rows of the second that the experiment does not draw from.  Whatever the
corpus and the stream, both come to the same end, a trial set or an error, and leave the
same stream.  So a seeded engine renders both to the same end, and it answers a request
alike and is left alike when the files of its store hold the one or the other. -/
theorem Experiment.assemble_of_alike [Complaints] {e : Experiment} {m m' m'' : MaterialsBundle}
    (halike : e.Alike m m') (hedited : e.Edited m' m'') :
    (∀ (σ : Type) [RandomSource σ] (corpus : NameCorpus) (materialsId : String) (source : σ),
      (e.assemble corpus m'' materialsId).run.run source =
        (e.assemble corpus m materialsId).run.run source) ∧
    (∀ (engine : Engine) (materialsId : String),
      (Engine.render e m'' materialsId).run.run engine =
        (Engine.render e m materialsId).run.run engine) ∧
    ∀ (engine : Engine) (files files' : FileSystem) (store : MaterialsStore) (name : String)
      (parameter : Option String) (id id' : String),
      engine.prepare files store name parameter = .ok (e, m, id) →
      engine.prepare files' store name parameter = .ok (e, m'', id') →
      (Engine.fromStore files' store name parameter).run.run engine =
        (Engine.fromStore files store name parameter).run.run engine := by
  have h := halike.trans (alike_of_edited hedited)
  refine ⟨fun σ _ corpus materialsId source => by rw [assemble_congr h],
    fun engine materialsId => Engine.render_congr h engine materialsId,
    fun engine files files' store name parameter id id' hready hready' => ?_⟩
  obtain ⟨-, rfl⟩ := Engine.prepare_unique hready hready'
  rw [Engine.run_fromStore, Engine.run_fromStore, hready, hready']
  exact Engine.render_congr h engine id'

/-- The materials of `paintAndCats` with another row in each of the sets. -/
def MaterialsBundle.paintAndCats.withRows (experimental filler : Item) : MaterialsBundle where
  experimental := ⟨"paint", [sprayed 1 "paint" "wall", experimental, sprayed 2 "water" "lawn"]⟩
  fillers := ⟨"cats", [rated 3 "low" "cats sleep", filler, rated 4 "high" "%PERSON1% sleeps"]⟩

open MaterialsBundle.paintAndCats in
/-- A row marked for exclusion is there or not, or there is one without most of its
fields, and a filler is of one class or another: Ann sprays water on the lawn. -/
theorem Experiment.assemble_of_alike_paintAndCats :
    ∃ m' m'' : MaterialsBundle, Experiment.oneSlider.Alike .paintAndCats m' ∧
      Experiment.oneSlider.Edited m' m'' ∧
      m'.experimental.items.length = 3 ∧ m''.fillers.items.length = 3 ∧
      ((Experiment.oneSlider.assemble .tomAndAnn m'' "paint,cats").run.run
        (⟨[1, 1, 1]⟩ : Random.Script)).1.map
          (fun session => session.trials.map (·.presentation.sentence)) = .ok
        [some "Ann sprayed water on the lawn.", some "Cats sleep.", some "Tom sleeps."] := by
  have hmarked : ((sprayed 5 "mud" "door").set "exclude" (.bool true)).isUsable
      Experiment.oneSlider.kind.requiredFields Experiment.oneSlider.kind.flagFields = false := by
    decide +kernel
  have hbare : (Item.empty.set "S" (.text "she")).isUsable
      Experiment.oneSlider.kind.requiredFields Experiment.oneSlider.kind.flagFields = false := by
    decide +kernel
  have hineligible (rating : String) (hne : rating ≠ "low" ∧ rating ≠ "high") (id : Int64) :
      ¬ Experiment.oneSlider.fillers.Eligible (rated id rating "dogs bark") := by
    rintro (h | h) <;> rw [text?_rated] at h
    · exact hne.1 (Option.some.inj h)
    · exact hne.2 (Option.some.inj h)
  have halike : Experiment.oneSlider.Alike .paintAndCats
      (withRows ((sprayed 5 "mud" "door").set "exclude" (.bool true))
        (rated 6 "middle" "dogs bark")) := {
    experimental_name := rfl
    usable := by
      simp [TrialKind.usable, usableItems, List.filter_cons, hmarked, withRows,
        MaterialsBundle.paintAndCats]
    fillers_name := rfl
    pools := by
      constructor <;>
        simp [Fillers.rated, text?_rated, withRows, MaterialsBundle.paintAndCats] }
  have hedited : Experiment.oneSlider.Edited
      (withRows ((sprayed 5 "mud" "door").set "exclude" (.bool true))
        (rated 6 "middle" "dogs bark"))
      (withRows (Item.empty.set "S" (.text "she")) (rated 7 "other" "dogs bark")) := {
    experimental := ⟨rfl, .single (@RowEdit.rewrite _ [_] _ _ _ hmarked hbare)⟩
    fillers := ⟨rfl, .single (@RowEdit.rewrite _ [_] _ _ _ (hineligible "middle" (by decide) 6)
      (hineligible "other" (by decide) 7))⟩ }
  let := Complaints.silent
  obtain ⟨hruns, -, -⟩ := Experiment.assemble_of_alike halike hedited
  refine ⟨_, _, halike, hedited, rfl, rfl, ?_⟩
  rw [hruns]
  exact Experiment.run_oneSlider

end Alternation
