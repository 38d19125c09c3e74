/-
# Lint agrees with the engine

`README`, *Running*: the report of the materials linter, and the items that
`filter_items` keeps.

What is found in a materials set is what an experiment makes of it.

* The items that are counted are those that the experiment draws from
  (`Lint.usable_findings`); the rows are those of the other items, in order, each with
  its reasons (`Lint.dropped_findings`).
* They are what is printed.  The character that a line begins with tells what it reports
  (`Lint.mark`), so the warnings of a report are its rows (`Lint.warnings_report`), and the
  line with the count has the count of the usable items (`Lint.countLine_mem_report_iff`).
* A shortage is reported exactly if there are fewer usable items than experimental trials
  (`Lint.mem_report_iff`).  Then no random source is drawn from and every run fails for
  want of items (`Experiment.run_of_short`), and else none does
  (`Experiment.raises_of_not_short`): whatever goes wrong in a trial, it is not that.
-/

import Alternation.Proofs.Experiment.Criterion
import Alternation.Tool.Lint

namespace Alternation

/-! ## Usable items and the others -/

section

variable (item : Item) (required flags : List String)

/-- There is no reason to drop an item just if it is usable. -/
theorem Item.isEmpty_dropReasons :
    (item.dropReasons required flags).isEmpty = item.isUsable required flags := by
  rw [Bool.eq_iff_iff, List.isEmpty_iff, Item.dropReasons_eq_nil_iff]

end

namespace Tool.Lint

/-- **The items that are counted** are the usable ones. -/
theorem usable_findings (items : List Item) (required flags : List String) :
    (findings items required flags).usable = (usableItems items required flags).length := by
  show items.countP (fun item => (item.dropReasons required flags).isEmpty) = _
  simp only [Item.isEmpty_dropReasons]
  exact List.countP_eq_length_filter

/-- The row of an item, wherever it stands. -/
theorem droppedRow?_eq (required flags : List String) (entry : Item × Nat) :
    droppedRow? required flags entry =
      (Option.guard (fun entry => !entry.1.isUsable required flags) entry).map
        fun entry => (labelOf entry.1 entry.2, entry.1.dropReasons required flags) := by
  have husable := entry.1.isEmpty_dropReasons required flags
  unfold droppedRow?
  cases hreasons : entry.1.dropReasons required flags with
  | nil =>
    rw [hreasons] at husable
    simp [Option.guard, ← husable]
  | cons reason reasons =>
    rw [hreasons] at husable
    simp [Option.guard, ← husable, hreasons]

/-- **The rows** are those of the items that are not usable, in order. -/
theorem dropped_findings (items : List Item) (required flags : List String) :
    (findings items required flags).dropped =
      (items.zipIdx.filter fun entry => !entry.1.isUsable required flags).map fun entry =>
        (labelOf entry.1 entry.2, entry.1.dropReasons required flags) := by
  rw [← List.filterMap_eq_filter, List.map_filterMap]
  exact congrArg (List.filterMap · items.zipIdx) (funext (droppedRow?_eq required flags))

/-- Every row has a reason. -/
theorem ne_nil_of_mem_dropped {items : List Item} {required flags : List String}
    {row : String × List DropReason} (h : row ∈ (findings items required flags).dropped) :
    row.2 ≠ [] := by
  rw [dropped_findings] at h
  obtain ⟨entry, hentry, rfl⟩ := List.mem_map.1 h
  have hdropped := (List.mem_filter.1 hentry).2
  intro hnil
  rw [Item.dropReasons_eq_nil_iff] at hnil
  simp [hnil] at hdropped

/-! ## The report -/

/-- The line that says how many items are missing. -/
def shortLine (k : Nat) : String := "ERROR: pool is " ++ toString k ++ " items short"

/-- The line that says how many items are usable. -/
def countLine (e : Experiment) (set : MaterialsSet) (usable : Nat) : String :=
  toString usable ++ " of " ++ toString set.items.length ++ " items usable; " ++ e.name ++
    " needs " ++ toString e.experimentalTrials

/-- The lines in front of the rows. -/
def heading (e : Experiment) (set : MaterialsSet) : List String :=
  ["", "=== Materials Lint Report: " ++ set.name ++ " ===", "",
    "Required fields: " ++ ", ".intercalate e.kind.requiredFields] ++
  (if e.kind.flagFields = [] then []
    else ["Required flags: " ++ ", ".intercalate e.kind.flagFields])

/-- How a line begins, which tells what it reports. -/
def mark (line : String) : Option Char := line.toList.head?

section

variable {e : Experiment} {set : MaterialsSet}

/-- A number is read back from its digits. -/
theorem eq_of_repr {m n : Nat} (h : m.repr = n.repr) : m = n := by
  have hread := congrArg (fun digits => Nat.ofDigitChars 10 digits.toList 0) h
  simpa using hread

/-- The shortage line tells how many trials were asked for. -/
theorem shortLine_inj {k k' : Nat} (h : shortLine k = shortLine k') : k = k' := by
  have hnumbers := (String.append_right_inj _).1 ((String.append_left_inj _).1 h)
  exact eq_of_repr hnumbers

/-- The count line tells how many items there are. -/
theorem countLine_inj {n n' : Nat} (h : countLine e set n = countLine e set n') : n = n' := by
  simp only [countLine, String.append_assoc] at h
  exact eq_of_repr ((String.append_left_inj _).1 h)

/-- The shortage line begins as an error. -/
@[simp] theorem mark_shortLine (k : Nat) : mark (shortLine k) = some 'E' := by
  simp [mark, shortLine]

/-- The line of a dropped item begins as a warning. -/
@[simp] theorem mark_droppedLine (row : String × List DropReason) :
    mark (droppedLine row) = some 'W' := by
  simp [mark, droppedLine]

/-- A number begins with a digit. -/
theorem isDigit_mark_toString_append (n : Nat) (rest : String) :
    (mark (toString n ++ rest)).any Char.isDigit = true := by
  have hdigits : (toString n).toList = Nat.toDigits 10 n := Nat.toList_repr
  rw [mark, String.toList_append, hdigits, List.head?_append_of_ne_nil _ Nat.toDigits_ne_nil,
    List.head?_eq_some_head Nat.toDigits_ne_nil, Option.any_some]
  exact Nat.isDigit_of_mem_toDigits (by decide) (by decide) (List.head_mem _)

/-- The count line begins with its count. -/
theorem isDigit_mark_countLine (e : Experiment) (set : MaterialsSet) (n : Nat) :
    (mark (countLine e set n)).any Char.isDigit = true := by
  simp only [countLine, String.append_assoc]
  exact isDigit_mark_toString_append _ _

/-- How the lines in front of the rows begin. -/
theorem mark_of_mem_heading {line : String} (h : line ∈ heading e set) :
    mark line ∈ [none, some '=', some 'R'] := by
  unfold heading at h
  rcases List.mem_append.1 h with h | h
  · have hall : ∀ line ∈ ["", "=== Materials Lint Report: " ++ set.name ++ " ===", "",
        "Required fields: " ++ ", ".intercalate e.kind.requiredFields],
        mark line ∈ [none, some '=', some 'R'] := by simp [mark]
    exact hall line h
  · split at h
    · exact nomatch h
    · rw [List.mem_singleton.1 h]
      simp [mark]

/-- The rows, as they are printed. -/
def rows (e : Experiment) (set : MaterialsSet) : List String :=
  (findings set.items e.kind.requiredFields e.kind.flagFields).dropped.map droppedLine

/-- The line on the shortage, if there is one. -/
def shortage (e : Experiment) (set : MaterialsSet) : List String :=
  ((shortage? e (findings set.items e.kind.requiredFields e.kind.flagFields)).map shortLine).toList

/-- A report is its heading, the rows, the count and the shortage. -/
theorem report_eq (e : Experiment) (set : MaterialsSet) :
    report e set = heading e set ++ (rows e set ++ (["", countLine e set
      (findings set.items e.kind.requiredFields e.kind.flagFields).usable] ++ shortage e set)) := by
  simp only [report, heading, List.append_assoc]
  rfl

/-- Every row begins as a warning. -/
theorem mark_of_mem_rows {line : String} (h : line ∈ rows e set) : mark line = some 'W' := by
  obtain ⟨row, -, rfl⟩ := List.mem_map.1 h
  exact mark_droppedLine row

/-- What is said of a shortage begins as an error. -/
theorem mark_of_mem_shortage {line : String} (h : line ∈ shortage e set) :
    mark line = some 'E' := by
  obtain ⟨k, -, rfl⟩ := Option.map_eq_some_iff.1 (Option.mem_toList.1 h)
  exact mark_shortLine k

/-- The lines of a report, those that are always there by how they begin. -/
theorem mem_report_cases {line : String} (h : line ∈ report e set) :
    mark line ∈ [none, some '=', some 'R'] ∨ line ∈ rows e set ∨
      line = countLine e set (findings set.items e.kind.requiredFields e.kind.flagFields).usable ∨
      line ∈ shortage e set := by
  rw [report_eq, List.mem_append, List.mem_append, List.mem_append, List.mem_cons,
    List.mem_singleton] at h
  rcases h with h | h | (rfl | h) | h
  · exact .inl (mark_of_mem_heading h)
  · exact .inr (.inl h)
  · exact .inl (List.mem_cons_self ..)
  · exact .inr (.inr (.inl h))
  · exact .inr (.inr (.inr h))

/-- **The warnings** are the rows that were found, in order. -/
theorem warnings_report (e : Experiment) (set : MaterialsSet) :
    (report e set).filter (fun line => mark line == some 'W') =
      (findings set.items e.kind.requiredFields e.kind.flagFields).dropped.map droppedLine := by
  have hheading : (heading e set).filter (fun line => mark line == some 'W') = [] :=
    List.filter_eq_nil_iff.2 fun line hline hmark => by
      have hmem := mark_of_mem_heading hline
      rw [eq_of_beq hmark] at hmem
      exact absurd hmem (by decide)
  have hcount : ["", countLine e set
      (findings set.items e.kind.requiredFields e.kind.flagFields).usable].filter
        (fun line => mark line == some 'W') = [] :=
    List.filter_eq_nil_iff.2 fun line hline hmark => by
      have hdigit := isDigit_mark_countLine e set
        (findings set.items e.kind.requiredFields e.kind.flagFields).usable
      rcases List.mem_pair.1 hline with rfl | rfl
      · exact absurd hmark (by decide)
      · rw [eq_of_beq hmark] at hdigit
        exact absurd hdigit (by decide)
  have hrows : (rows e set).filter (fun line => mark line == some 'W') = rows e set :=
    List.filter_eq_self.2 fun line hline => by rw [mark_of_mem_rows hline, beq_self_eq_true]
  have hshortage : (shortage e set).filter (fun line => mark line == some 'W') = [] :=
    List.filter_eq_nil_iff.2 fun line hline => by
      rw [mark_of_mem_shortage hline]
      decide
  rw [report_eq, List.filter_append, List.filter_append, List.filter_append, hheading, hrows,
    hcount, hshortage, List.nil_append, List.append_nil, List.append_nil, rows]

/-- **The count** that is reported is the one that was found, and no other. -/
theorem countLine_mem_report_iff {n : Nat} :
    countLine e set n ∈ report e set ↔
      n = (findings set.items e.kind.requiredFields e.kind.flagFields).usable := by
  have hdigit := isDigit_mark_countLine e set n
  constructor
  · intro h
    rcases mem_report_cases h with hmark | hrow | hcount | hshort
    · have hnone : ∀ c ∈ [none, some '=', some 'R'], c.any Char.isDigit = false := by decide
      rw [hnone _ hmark] at hdigit
      exact nomatch hdigit
    · rw [mark_of_mem_rows hrow] at hdigit
      exact absurd hdigit (by decide)
    · exact countLine_inj hcount
    · rw [mark_of_mem_shortage hshort] at hdigit
      exact absurd hdigit (by decide)
  · rintro rfl
    rw [report_eq]
    simp

/-- The line on the shortage, which is there if fewer items are usable than are needed. -/
theorem shortLine_mem_shortage_iff {k : Nat} :
    shortLine k ∈ shortage e set ↔ (e.kind.usable set).length < e.experimentalTrials ∧
      k = e.experimentalTrials - (e.kind.usable set).length := by
  have husable : (findings set.items e.kind.requiredFields e.kind.flagFields).usable =
      (e.kind.usable set).length := usable_findings ..
  unfold shortage shortage?
  rw [husable]
  by_cases hshort : (e.kind.usable set).length < e.experimentalTrials
  · rw [if_pos hshort, Option.map_some, Option.toList_some, List.mem_singleton,
      and_iff_right hshort]
    exact ⟨shortLine_inj, congrArg shortLine⟩
  · rw [if_neg hshort]
    exact ⟨nofun, fun h => absurd h.1 hshort⟩

/-- **A shortage is reported** if there is one, and no other line says so. -/
theorem mem_report_iff {k : Nat} :
    shortLine k ∈ report e set ↔ (e.kind.usable set).length < e.experimentalTrials ∧
      k = e.experimentalTrials - (e.kind.usable set).length := by
  rw [← shortLine_mem_shortage_iff]
  constructor
  · intro h
    rcases mem_report_cases h with hmark | hrow | hcount | hshort
    · rw [mark_shortLine] at hmark
      exact absurd hmark (by decide)
    · exact absurd ((mark_shortLine k).symm.trans (mark_of_mem_rows hrow)) (by decide)
    · have hdigit := isDigit_mark_countLine e set
        (findings set.items e.kind.requiredFields e.kind.flagFields).usable
      rw [← hcount, mark_shortLine] at hdigit
      exact absurd hdigit (by decide)
    · exact hshort
  · intro h
    rw [report_eq]
    simp [h]

end

end Tool.Lint

/-! ## Agreement -/

namespace Experiment

variable {σ : Type} [RandomSource σ] {e : Experiment} {set : MaterialsSet}

/-- **Too few usable items:** nothing is drawn, and the error says how many there are. -/
theorem run_of_short (h : (e.kind.usable set).length < e.experimentalTrials) (corpus : NameCorpus)
    (source : σ) :
    (e.renderExperimental corpus set).run.run source =
      (.error (.insufficientMaterials set.name e.experimentalTrials (e.kind.usable set).length),
        source) := by
  unfold renderExperimental
  rw [run_bind, run_sampleItems_of_short h]

/-- **Enough usable items:** whatever goes wrong, there is no want of items. -/
theorem raises_of_not_short (h : ¬ (e.kind.usable set).length < e.experimentalTrials)
    (corpus : NameCorpus) :
    Raises (fun error => ∀ pool requested available,
        error ≠ .insufficientMaterials pool requested available)
      (e.renderExperimental corpus set : Drawing σ (List Trial)) := by
  exact raises_renderExperimental (fun hshort => absurd hshort h) (fun _ => nofun)
    fun item _ c _ => (Recipe.experimental e.kind c).raises_fresh item set.name

end Experiment

instance : Inhabited Random.Stream := ⟨.ofSeed 0⟩

/-- **Lint agrees with the engine.**  For every experiment and materials set:

* as many items are counted as the experiment draws from, and the rows are those of the
  other items, in order, each with at least one reason; an item without a reason is a
  usable one;
* a shortage of `k` items is reported exactly if, whatever the corpus and the random
  source, the experimental trials fail for want of items, `k` too few, and draw nothing;
* if no shortage is reported, they never fail for want of items;
* the warnings that are printed are the rows, in order, and the count that is printed is that
  of the usable items. -/
theorem Tool.Lint.report_agrees {σ : Type} [RandomSource σ] [Inhabited σ] (e : Experiment)
    (set : MaterialsSet) :
    (findings set.items e.kind.requiredFields e.kind.flagFields).usable =
      (usableItems set.items e.kind.requiredFields e.kind.flagFields).length ∧
    (findings set.items e.kind.requiredFields e.kind.flagFields).dropped =
      (set.items.zipIdx.filter fun entry =>
        !entry.1.isUsable e.kind.requiredFields e.kind.flagFields).map (fun entry =>
          (labelOf entry.1 entry.2, entry.1.dropReasons e.kind.requiredFields e.kind.flagFields)) ∧
    (∀ row ∈ (findings set.items e.kind.requiredFields e.kind.flagFields).dropped, row.2 ≠ []) ∧
    (∀ item : Item, item.dropReasons e.kind.requiredFields e.kind.flagFields = [] ↔
      item.isUsable e.kind.requiredFields e.kind.flagFields = true) ∧
    (∀ k, shortLine k ∈ report e set ↔ ∀ corpus (source : σ), ∃ available,
      available = (findings set.items e.kind.requiredFields e.kind.flagFields).usable ∧
      k = e.experimentalTrials - available ∧
      (e.renderExperimental corpus set).run.run source =
        (.error (.insufficientMaterials set.name e.experimentalTrials available), source)) ∧
    ((∀ k, shortLine k ∉ report e set) → ∀ corpus (source : σ) pool requested available,
      ((e.renderExperimental corpus set).run.run source).1 ≠
        .error (.insufficientMaterials pool requested available)) ∧
    (report e set).filter (fun line => mark line == some 'W') =
      (findings set.items e.kind.requiredFields e.kind.flagFields).dropped.map droppedLine ∧
    ∀ n, countLine e set n ∈ report e set ↔
      n = (findings set.items e.kind.requiredFields e.kind.flagFields).usable := by
  have husable := usable_findings set.items e.kind.requiredFields e.kind.flagFields
  refine ⟨husable, dropped_findings .., fun row hrow => ne_nil_of_mem_dropped hrow,
    fun item => item.dropReasons_eq_nil_iff .., fun k => ?_, fun hnone corpus source _ _ _ h => ?_,
    warnings_report e set, fun n => countLine_mem_report_iff⟩
  · rw [mem_report_iff]
    constructor
    · rintro ⟨hshort, hk⟩ corpus source
      exact ⟨_, husable.symm, hk, Experiment.run_of_short hshort corpus source⟩
    · intro hfails
      obtain ⟨available, havailable, hk, hrun⟩ := hfails .builtin default
      rw [husable] at havailable
      refine ⟨?_, by rw [hk, havailable]; rfl⟩
      by_contra hshort
      exact Experiment.raises_of_not_short hshort .builtin default _ (congrArg Prod.fst hrun) _ _ _ rfl
  · by_cases hshort : (e.kind.usable set).length < e.experimentalTrials
    · exact absurd (mem_report_iff.2 ⟨hshort, rfl⟩) (hnone _)
    · exact Experiment.raises_of_not_short hshort corpus source _ h _ _ _ rfl

/-- One item too few, and enough. -/
theorem Tool.Lint.report_agrees_of_oneSlider :
    shortLine 1 ∈ report .oneSlider ⟨"nothing", []⟩ ∧
    (∀ corpus (source : Random.Stream),
      (Experiment.oneSlider.renderExperimental corpus ⟨"nothing", []⟩).run.run source =
        (.error (.insufficientMaterials "nothing" 1 0), source)) ∧
    (∀ k, shortLine k ∉ report .oneSlider MaterialsBundle.paintAndCats.experimental) ∧
    ∀ corpus (source : Random.Stream) pool requested available,
      ((Experiment.oneSlider.renderExperimental corpus
        MaterialsBundle.paintAndCats.experimental).run.run source).1 ≠
          .error (.insufficientMaterials pool requested available) := by
  have hshort : shortLine 1 ∈ report .oneSlider ⟨"nothing", []⟩ :=
    mem_report_iff.2 ⟨by decide, rfl⟩
  have htwo : (Experiment.oneSlider.kind.usable
      MaterialsBundle.paintAndCats.experimental).length = 2 := by decide +kernel
  have hnone : ∀ k, shortLine k ∉ report .oneSlider MaterialsBundle.paintAndCats.experimental := by
    intro k hk
    have hlt : (Experiment.oneSlider.kind.usable
        MaterialsBundle.paintAndCats.experimental).length < 1 := (mem_report_iff.1 hk).1
    omega
  obtain ⟨-, -, -, -, hfails, -, -, -⟩ :=
    report_agrees (σ := Random.Stream) .oneSlider ⟨"nothing", []⟩
  obtain ⟨-, -, -, -, -, hnever, -, -⟩ :=
    report_agrees (σ := Random.Stream) .oneSlider MaterialsBundle.paintAndCats.experimental
  refine ⟨hshort, fun corpus source => ?_, hnone, hnever hnone⟩
  obtain ⟨available, rfl, -, hrun⟩ := (hfails 1).1 hshort corpus source
  exact hrun

end Alternation
