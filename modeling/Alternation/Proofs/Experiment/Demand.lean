/-
# What a trial demands of its item

`SPEC_FULL` §4.3 and §7: the fields that each `build_trial` and each filler's `render`
process, and the errors that missing ones raise.

Every recipe reads certain fields (`Recipe.demand`), besides the flags that every usable
item has.  Two things depend on the condition: the slots of it that are read must be set
(`Recipe.Serves`), and where the location is given, the clause that does not alternate is
made of other fields than where the agent is (`Swarm.nonalternatingDemand`).

**Rendering the trial hinges on that and on nothing else** (`Recipe.hinges_build`).  There
is one lemma for each reader of the program; a demand lists the fields in the order in
which they are read, so what a reader demands is what its steps demand, one after the
other.  An experiment reads no text that it does not require of its items
(`TrialKind.texts_subset_requiredFields`).
-/

import Alternation.Proofs.Experiment.Presentation
import Alternation.Proofs.Experiment.Recipe
import Alternation.Proofs.Render.Demand

namespace Alternation

/-! ## Slots of a condition -/

namespace Condition

/-- The slot holds 0 or 1. -/
def HasFlag (c : Condition) (index : Nat) : Prop :=
  c.get? index = some 0 ∨ c.get? index = some 1

instance (c : Condition) (index : Nat) : Decidable (c.HasFlag index) :=
  inferInstanceAs (Decidable (_ ∨ _))

/-- A flag is read from its slot, if the slot serves. -/
theorem explained_requireFlag {item : Item} {served : Prop} {c : Condition} {index : Nat}
    (h : served → c.HasFlag index) : Explained item served True (c.requireFlag index) := by
  rw [requireFlag_eq]
  split
  · exact .success trivial
  · exact .success trivial
  · rename_i h0 h1
    exact .slot fun hserved => (h hserved).elim h0 h1

/-- A slot that is read as a flag holds 0 or 1. -/
theorem get?_of_requireFlag {c : Condition} {index : Nat} {flag : Bool}
    (h : c.requireFlag index = .ok flag) : c.get? index = some (if flag then 1 else 0) := by
  rw [requireFlag_eq] at h
  split at h
  · rename_i hget
    rw [hget, ← Except.ok.inj h]
    rfl
  · rename_i hget
    rw [hget, ← Except.ok.inj h]
    rfl
  · exact nomatch h

/-- The flag of a slot tells whether it holds 1. -/
theorem eq_of_requireFlag {c : Condition} {index : Nat} {flag : Bool}
    (h : c.requireFlag index = .ok flag) : flag = (c.get? index == some 1) := by
  rw [get?_of_requireFlag h]
  cases flag <;> rfl

end Condition

/-! ## The swarm alternation -/

namespace Swarm

/-- The fields of the slots that the clauses share. -/
def slotDemand : Demand where
  rendered := ["A", "L", "V", "L det", "P", "prompt P", "conj"]

/-- The fields of the clause that does not alternate. -/
def nonalternatingDemand (agentGiven : Bool) : Demand :=
  if agentGiven then { rendered := ["non alternating given A", "non alternating given A.P"] }
  else {
    rendered := ["non alternating given A", "non alternating given L"]
    optional := ["non alternating given L.det"] }

/-- The same, where the frame has that clause. -/
def controlDemand (nonalternating agentGiven : Bool) : Demand :=
  if nonalternating then nonalternatingDemand agentGiven else ∅

/-- The fields of the pronouns and of the setups. -/
def givenDemand : Demand where
  rendered :=
    ["given A pron subj", "given A pron obj", "given L pron subj", "given L pron obj", "given A",
      "given L"]

/-- The fields of the clauses. -/
def frameDemand (frame : Frame) (c : Condition) : Demand :=
  match frame with
  | .topic => { rendered := ["topic A", "topic L"] }
  | .given nonalternating => givenDemand ++ controlDemand nonalternating (c.get? 0 == some 1)

/-- The fields that a trial reads, the flags apart. -/
def demand (frame : Frame) (c : Condition) : Demand :=
  slotDemand ++ frameDemand frame c ++ { present := ["id"] }

/-- The condition sets the slots that are read. -/
def Serves (frame : Frame) (task : Task) (c : Condition) : Prop :=
  (frame ≠ .topic ∨ task.showsLead = true → c.HasFlag 0) ∧
    (task.showsCritical = true → c.HasFlag 1 ∨ c.get? 1 = some 2 ∧ frame = .given true)

instance (frame : Frame) (task : Task) (c : Condition) : Decidable (Serves frame task c) :=
  inferInstanceAs (Decidable (_ ∧ _))

section

variable {σ : Type} [RandomSource σ] {corpus : NameCorpus} {item : Item} {served : Prop}

/-- The lexical slots demand their fields, the flags first. -/
theorem hinges_readSlots :
    Hinges corpus item served ((({ present := flagFields } : Demand) ++ slotDemand).Met item)
      (readSlots corpus item : Rendering σ Slots) := by
  have hflag (field : String) :
      Hinges corpus item served (Demand.Met { present := [field] } item)
        (Rendering.check (item.requireFlag field) : Rendering σ Bool) :=
    hinges_check (explained_requireFlag field)
  exact Hinges.of_demand
    ((hinges_process "A").seq fun _ => (hinges_process "L").seq fun _ =>
      (hinges_process "V").seq fun _ => (hflag "A countable?").seq fun _ =>
      (hflag "L plural?").seq fun _ => (hinges_process "L det").seq fun _ =>
      (hinges_process "P").seq fun _ => (hinges_process "prompt P").seq fun _ =>
      (hinges_process "conj").seq fun _ => hinges_return _) rfl

/-- The pronouns demand four fields. -/
theorem hinges_readPronouns :
    Hinges corpus item served
      (Demand.Met { rendered := ["given A pron subj", "given A pron obj", "given L pron subj",
        "given L pron obj"] } item) (readPronouns corpus item : Rendering σ Pronouns) :=
  Hinges.of_demand
    ((hinges_process "given A pron subj").seq fun _ =>
      (hinges_process "given A pron obj").seq fun _ =>
      (hinges_process "given L pron subj").seq fun _ =>
      (hinges_process "given L pron obj").seq fun _ => hinges_return _) rfl

/-- Two clauses by role demand a field each. -/
theorem hinges_readByRole (agentField locationField : String) :
    Hinges corpus item served (Demand.Met { rendered := [agentField, locationField] } item)
      (readByRole corpus item agentField locationField : Rendering σ (ByRole String)) :=
  Hinges.of_demand
    ((hinges_process agentField).seq fun _ => (hinges_process locationField).seq fun _ =>
      hinges_return _) rfl

/-- The clause that does not alternate demands the fields of the given entity. -/
theorem hinges_readNonalternating (slots : Slots) (pronouns : Pronouns) (agentGiven : Bool) :
    Hinges corpus item served ((nonalternatingDemand agentGiven).Met item)
      (readNonalternating corpus item slots pronouns agentGiven : Rendering σ String) := by
  cases agentGiven with
  | true =>
    exact Hinges.of_demand
      ((hinges_process "non alternating given A").seq fun _ =>
        (hinges_process "non alternating given A.P").seq fun _ => hinges_return _) rfl
  | false =>
    exact Hinges.of_demand
      ((hinges_process "non alternating given A").seq fun _ =>
        (hinges_processOptional "non alternating given L.det").seq fun _ =>
        (hinges_process "non alternating given L").seq fun _ => hinges_return _) rfl

/-- A control demands what its clause does, and where there is none, nothing is demanded. -/
theorem hinges_readControl (nonalternating : Bool) (slots : Slots) (pronouns : Pronouns)
    (agentGiven : Bool) :
    Hinges corpus item served ((controlDemand nonalternating agentGiven).Met item)
      (readControl corpus item nonalternating slots pronouns agentGiven :
        Rendering σ (Option String)) := by
  cases nonalternating with
  | true => exact Hinges.map (hinges_readNonalternating slots pronouns agentGiven) some
  | false => exact hinges_return none

/-- The clauses are rendered if their fields can be, where slot 0 is set. -/
theorem hinges_readClauses {frame : Frame} {c : Condition}
    (hserved : served → frame ≠ .topic → c.HasFlag 0) (slots : Slots) :
    Hinges corpus item served ((frameDemand frame c).Met item)
      (readClauses corpus item frame c slots : Rendering σ (Lead × CriticalClauses)) := by
  cases frame with
  | topic =>
    exact Hinges.of_demand ((hinges_readByRole "topic A" "topic L").seq fun _ =>
      hinges_return _) rfl
  | given nonalternating =>
    have hflag : Hinges corpus item served True
        (Rendering.check (c.requireFlag 0) : Rendering σ Bool) :=
      hinges_check (Condition.explained_requireFlag fun h => hserved h nofun)
    have hcontrol (scene scene' : Scene σ) (pronouns : Pronouns) (agentGiven : Bool)
        (h : Yields (Rendering.check (c.requireFlag 0)) scene agentGiven scene') :
        Hinges corpus item served ((controlDemand nonalternating (c.get? 0 == some 1)).Met item)
          (readControl corpus item nonalternating slots pronouns agentGiven :
            Rendering σ (Option String)) := by
      rw [← Condition.eq_of_requireFlag (yields_check_iff.1 h).1]
      exact hinges_readControl nonalternating slots pronouns agentGiven
    have hgiven : givenDemand =
      { rendered := ["given A pron subj", "given A pron obj", "given L pron subj",
        "given L pron obj"] } ++ { rendered := ["given A", "given L"] } := rfl
    refine Hinges.congr (Hinges.bind hinges_readPronouns fun _ pronouns _ _ =>
      Hinges.bind (hinges_readByRole "given A" "given L") fun _ clauses _ _ =>
        hflag.bind fun scene agentGiven scene' hagentGiven =>
          (hcontrol scene scene' pronouns agentGiven hagentGiven).bind fun _ control _ _ =>
            hinges_pure _) ?_
    simp only [frameDemand, hgiven, Demand.met_append_iff, and_assoc, true_and, and_true]

/-- **The swarm lexicon** demands the fields of its slots and then those of its frame. -/
theorem hinges_readLexicon {frame : Frame} {c : Condition}
    (hserved : served → frame ≠ .topic → c.HasFlag 0) :
    Hinges corpus item served
      ((({ present := flagFields } : Demand) ++ slotDemand ++ frameDemand frame c).Met item)
      (readLexicon corpus item frame c : Rendering σ SwarmLexicon) := by
  refine Hinges.congr (Hinges.bind hinges_readSlots fun _ slots _ _ =>
    Hinges.bind (hinges_readClauses hserved slots) fun _ clauses _ _ => hinges_pure _) ?_
  simp only [Demand.met_append_iff, and_true]

/-- Where the frame has a clause that does not alternate, it is among the slots. -/
theorem nonalternating_of_readLexicon {c : Condition} {scene scene' : Scene σ}
    {lexicon : SwarmLexicon}
    (h : Yields (readLexicon corpus item (.given true) c) scene lexicon scene') :
    ∃ clause, lexicon.critical.nonalternating = some clause := by
  simp only [readLexicon, readClauses, readControl, if_true, yields_bind_iff, yields_pure_iff] at h
  obtain ⟨slots, _, -, clauses, _, ⟨_, _, -, _, _, -, _, _, -, control, _, hcontrol, rfl, -⟩, rfl, -⟩ := h
  rw [← bind_pure_comp, yields_bind_iff] at hcontrol
  obtain ⟨clause, _, -, hpure⟩ := hcontrol
  exact ⟨clause, (yields_pure_iff.1 hpure).1⟩

/-- What leads is chosen by slot 0. -/
theorem explained_selectLead {lexicon : SwarmLexicon} {c : Condition}
    (hserved : served → c.HasFlag 0) : Explained item served True (selectLead lexicon c) :=
  (Condition.explained_requireFlag hserved).seq fun _ => .success trivial

/-- The critical clause is chosen by slot 1; two asks for the clause that does not alternate. -/
theorem explained_selectCritical {critical : CriticalClauses} {c : Condition}
    (hserved : served → c.HasFlag 1 ∨
      c.get? 1 = some 2 ∧ ∃ clause, critical.nonalternating = some clause) :
    Explained item served True (selectCritical critical c) := by
  rw [selectCritical_eq]
  split
  · exact .success trivial
  · exact .success trivial
  · split
    · exact .success trivial
    · rename_i hget _ hnone
      refine .slot fun h => ?_
      rcases hserved h with (h0 | h1) | ⟨-, clause, hclause⟩
      · exact nomatch h0.symm.trans hget
      · exact nomatch h1.symm.trans hget
      · exact nomatch hclause.symm.trans hnone
  · rename_i h0 h1 h2
    exact .slot fun h => (hserved h).elim (fun hflag => hflag.elim h0 h1) fun h => h2 h.1

/-- What is shown hinges on the slots of the condition alone. -/
theorem explained_present {frame : Frame} {task : Task} {c : Condition} {lexicon : SwarmLexicon}
    (hcontrol : frame = .given true → ∃ clause, lexicon.critical.nonalternating = some clause) :
    Explained item (Serves frame task c) True (present task lexicon c) := by
  have hlead (hshows : task.showsLead = true) :
      Explained item (Serves frame task c) True (selectLead lexicon c) :=
    explained_selectLead fun h => h.1 (.inr hshows)
  have hcritical (hshows : task.showsCritical = true) :
      Explained item (Serves frame task c) True (selectCritical lexicon.critical c) :=
    explained_selectCritical fun h => (h.2 hshows).imp_right (And.imp_right hcontrol)
  cases task with
  | constructionMeaning | acceptability => exact (hcritical rfl).seq fun _ => .success trivial
  | topicality | givenness => exact (hlead rfl).seq fun _ => .success trivial
  | fullComprehension | prefixedAcceptability =>
    exact Explained.seq ((hlead rfl).seq fun _ => (hcritical rfl).seq fun _ => .success trivial)
      fun _ => .success trivial

/-- **A trial of the swarm alternation** hinges on what its frame and its condition
demand. -/
theorem hinges_build (frame : Frame) (task : Task) (c : Condition) (materialsId : String) :
    Hinges corpus item (Serves frame task c)
      ((({ present := flagFields } : Demand) ++ demand frame c).Met item)
      (build corpus frame task item c materialsId : Rendering σ Trial) := by
  have hserved : Serves frame task c → frame ≠ .topic → c.HasFlag 0 := fun h hframe =>
    h.1 (.inl hframe)
  have hpresent (scene scene' : Scene σ) (lexicon : SwarmLexicon)
      (h : Yields (readLexicon corpus item frame c) scene lexicon scene') :
      Explained item (Serves frame task c) True (present task lexicon c) := by
    refine explained_present fun hframe => ?_
    rw [hframe] at h
    exact nonalternating_of_readLexicon h
  refine Hinges.congr (Hinges.bind (hinges_readLexicon hserved) fun scene lexicon scene' hread =>
    Hinges.bind (hinges_check (hpresent scene scene' lexicon hread)) fun _ _ _ _ =>
      Hinges.bind (hinges_check (explained_requireValue "id")) fun _ _ _ _ => hinges_pure _) ?_
  simp only [demand, Demand.met_append_iff, and_assoc, true_and, and_true]

end
end Swarm

/-! ## The spray-load alternation -/

namespace SprayLoad

/-- The fields of the lexical slots. -/
def lexicalDemand : Demand where
  rendered := ["S", "T", "T heavy", "L", "L heavy", "V", "V pres", "V past simp", "P"]
  optional := ["Prompt P"]
  written := ["scale type"]

/-- What the task makes of the slots: a slider needs a scale that is known. -/
def taskDemand : Task → Demand
  | .constructionMeaning _ => { words := [("scale type", ["cover", "fill"])] }
  | .weight => ∅

/-- The fields that a trial reads, the flags apart. -/
def demand (task : Task) : Demand := lexicalDemand ++ taskDemand task ++ { present := ["id"] }

/-- The condition sets the slots that are read. -/
def Serves (task : Task) (c : Condition) : Prop :=
  (task ≠ .weight → c.HasFlag 0) ∧ c.HasFlag 1 ∧ c.HasFlag 2

instance (task : Task) (c : Condition) : Decidable (Serves task c) :=
  inferInstanceAs (Decidable (_ ∧ _))

section

variable {σ : Type} [RandomSource σ] {corpus : NameCorpus} {item : Item} {served : Prop}

/-- A phrase demands its two forms and its flag. -/
theorem hinges_readPhrase (lightField heavyField flagField : String) :
    Hinges corpus item served
      (Demand.Met { rendered := [lightField, heavyField], present := [flagField] } item)
      (readPhrase corpus item lightField heavyField flagField : Rendering σ WeightedPhrase) :=
  Hinges.of_demand
    ((hinges_process lightField).seq fun _ => (hinges_process heavyField).seq fun _ =>
      Hinges.seq (hinges_check (explained_requireFlag flagField)) fun _ => hinges_return _) rfl

/-- A verb demands its three forms. -/
theorem hinges_readVerb :
    Hinges corpus item served (Demand.Met { rendered := ["V", "V pres", "V past simp"] } item)
      (readVerb corpus item : Rendering σ VerbForms) :=
  Hinges.of_demand
    ((hinges_process "V").seq fun _ => (hinges_process "V pres").seq fun _ =>
      (hinges_process "V past simp").seq fun _ => hinges_return _) rfl

/-- **The spray-load lexicon** demands its flags and its phrases. -/
theorem hinges_readLexicon :
    Hinges corpus item served ((({ present := flagFields } : Demand) ++ lexicalDemand).Met item)
      (readLexicon corpus item : Rendering σ SprayLoadLexicon) :=
  Hinges.of_demand
    ((hinges_process "S").seq fun _ => (hinges_readPhrase "T" "T heavy" "T plural?").seq fun _ =>
      (hinges_readPhrase "L" "L heavy" "L plural?").seq fun _ => hinges_readVerb.seq fun _ =>
      Hinges.seq (hinges_check (explained_requireText "scale type")) fun _ =>
      (hinges_process "P").seq fun _ => (hinges_processOptional "Prompt P").seq fun _ =>
      hinges_return _) rfl

/-- The scale is as it is written in the item. -/
theorem scaleType_of_readLexicon {scene scene' : Scene σ} {lexicon : SprayLoadLexicon}
    (h : Yields (readLexicon corpus item) scene lexicon scene') :
    item.text? "scale type" = some lexicon.scaleType := by
  simp only [readLexicon, yields_bind_iff, yields_pure_iff, yields_check_iff] at h
  obtain ⟨_, _, -, _, _, -, _, _, -, _, _, -, scaleType, _, ⟨hscale, -⟩, _, _, -, _, _, -, rfl, -⟩ := h
  exact Item.text?_of_requireText hscale

/-- The scale must be one of the two words. -/
theorem explained_sliderLabels {lexicon : SprayLoadLexicon}
    (hscale : item.text? "scale type" = some lexicon.scaleType) :
    Explained item served (Demand.Met { words := [("scale type", ["cover", "fill"])] } item)
      (sliderLabels item lexicon) := by
  have hmet : Demand.Met { words := [("scale type", ["cover", "fill"])] } item ↔
      lexicon.scaleType = "cover" ∨ lexicon.scaleType = "fill" := by
    simp [Demand.met_iff, hscale]
  refine Explained.congr ?_ hmet.symm
  unfold sliderLabels scaleOf?
  split
  · rename_i hlabels
    split at hlabels
    · exact .success (.inl ‹_›)
    · exact .success (.inr ‹_›)
    · exact nomatch hlabels
  · rename_i hlabels
    split at hlabels
    · exact nomatch hlabels
    · exact nomatch hlabels
    · rename_i hcover hfill
      exact .item rfl fun h => h.elim hcover hfill

/-- A choice is read from three flags. -/
theorem explained_ofCondition {c : Condition}
    (hserved : served → c.HasFlag 0 ∧ c.HasFlag 1 ∧ c.HasFlag 2) :
    Explained item served True (Choice.ofCondition c) :=
  (Condition.explained_requireFlag fun h => (hserved h).1).seq fun _ =>
    (Condition.explained_requireFlag fun h => (hserved h).2.1).seq fun _ =>
      (Condition.explained_requireFlag fun h => (hserved h).2.2).seq fun _ => .success trivial

/-- The sentence of a choice is always there. -/
theorem explained_lookup {lexicon : SprayLoadLexicon} {choice : Choice} {c : Condition} :
    Explained item served True (lookup (allSentences lexicon) choice c) := by
  rw [lookup_allSentences]
  exact .success trivial

/-- What is shown hinges on the scale, where there is a slider, and on the slots of the
condition. -/
theorem explained_present {task : Task} {c : Condition} {lexicon : SprayLoadLexicon}
    (hscale : item.text? "scale type" = some lexicon.scaleType) :
    Explained item (Serves task c) ((taskDemand task).Met item) (present task item lexicon c) := by
  cases task with
  | constructionMeaning images =>
    refine (explained_ofCondition fun h => ⟨h.1 nofun, h.2⟩).seq fun choice =>
      explained_lookup.seq fun chosen => ?_
    exact ((explained_sliderLabels hscale).bind fun _ _ => .success trivial).congr
      (and_iff_left trivial)
  | weight =>
    exact (Condition.explained_requireFlag fun h => h.2.1).seq fun locationHeavy =>
      (Condition.explained_requireFlag fun h => h.2.2).seq fun themeHeavy =>
        explained_lookup.seq fun _ => explained_lookup.seq fun _ => .success (Demand.met_empty item)

/-- **A trial of the spray-load alternation** hinges on what its task demands. -/
theorem hinges_build (task : Task) (c : Condition) (materialsId : String) :
    Hinges corpus item (Serves task c)
      ((({ present := flagFields } : Demand) ++ demand task).Met item)
      (build corpus task item c materialsId : Rendering σ Trial) := by
  refine Hinges.congr (Hinges.bind hinges_readLexicon fun scene lexicon scene' hread =>
    Hinges.bind (hinges_check (explained_present (scaleType_of_readLexicon hread)))
      fun _ _ _ _ => Hinges.bind (hinges_check (explained_requireValue "id"))
        fun _ _ _ _ => hinges_pure _) ?_
  simp only [demand, Demand.met_append_iff, and_assoc, and_true]

end
end SprayLoad

/-! ## Fillers -/

namespace Fillers

/-- The fields of a balanced filler. -/
def balancedDemand (format : BalancedFormat) : Demand :=
  { rendered := ["sentence"] } ++
    (match format with
      | .prompted | .promptedSequence => { rendered := ["prompt"] }
      | .acceptability => ∅
      | .slider => { rendered := ["label_max", "prompt"], written := ["scale type"] }) ++
    { present := ["id"] }

/-- The fields of a completion filler. -/
def completionDemand (join : CompletionJoin) : Demand :=
  { rendered := ["prefix", "good_completion", "bad_completion"] } ++
    (match join with
      | .conjoined => { rendered := ["conj"] }
      | .sentences => ∅) ++
    { present := ["id", "manipulation"] }

/-- The fields of a filler with two sentences. -/
def optionsDemand : Demand where
  rendered := ["good_sentence", "bad_sentence"]
  present := ["id", "manipulation", "bad_ungrammatical"]

variable {σ : Type} [RandomSource σ] {corpus : NameCorpus} {item : Item} {served : Prop}

/-- **A balanced filler** demands the fields of its format. -/
theorem hinges_buildBalanced (format : BalancedFormat) (rating materialsId : String) :
    Hinges corpus item served ((balancedDemand format).Met item)
      (buildBalanced corpus format item rating materialsId : Rendering σ Trial) := by
  have hid : Hinges corpus item served (Demand.Met { present := ["id"] } item)
      (Rendering.check item.requireId : Rendering σ Value) :=
    hinges_check (explained_requireValue "id")
  cases format with
  | prompted | promptedSequence =>
    exact Hinges.of_demand ((hinges_process "sentence").seq fun _ =>
      Hinges.seq ((hinges_process "prompt").seq fun _ => hinges_return _) fun _ =>
        hid.seq fun _ => hinges_return _) rfl
  | acceptability =>
    exact Hinges.of_demand ((hinges_process "sentence").seq fun _ =>
      Hinges.seq (hinges_return _) fun _ => hid.seq fun _ => hinges_return _) rfl
  | slider =>
    exact Hinges.of_demand ((hinges_process "sentence").seq fun _ =>
      Hinges.seq ((hinges_process "label_max").seq fun _ =>
        Hinges.seq (hinges_check (explained_requireText "scale type")) fun _ =>
          (hinges_process "prompt").seq fun _ => hinges_return _) fun _ =>
        hid.seq fun _ => hinges_return _) rfl

/-- **A completion** demands the fields of its kind. -/
theorem hinges_buildCompletion (join : CompletionJoin) (materialsId : String) :
    Hinges corpus item served ((completionDemand join).Met item)
      (buildCompletion corpus join item materialsId : Rendering σ Trial) := by
  have hvalue (field : String) : Hinges corpus item served (Demand.Met { present := [field] } item)
      (Rendering.check (item.requireValue field) : Rendering σ Value) :=
    hinges_check (explained_requireValue field)
  cases join with
  | conjoined =>
    exact Hinges.of_demand ((hinges_process "prefix").seq fun _ =>
      (hinges_process "good_completion").seq fun _ => (hinges_process "bad_completion").seq fun _ =>
      Hinges.seq ((hinges_process "conj").seq fun _ => hinges_return _) fun _ =>
      (hvalue "id").seq fun _ => (hvalue "manipulation").seq fun _ => hinges_return _) rfl
  | sentences =>
    exact Hinges.of_demand ((hinges_process "prefix").seq fun _ =>
      (hinges_process "good_completion").seq fun _ => (hinges_process "bad_completion").seq fun _ =>
      Hinges.seq (hinges_return _) fun _ =>
      (hvalue "id").seq fun _ => (hvalue "manipulation").seq fun _ => hinges_return _) rfl

/-- **A pair of options** demands its fields. -/
theorem hinges_buildOptions (materialsId : String) :
    Hinges corpus item served (optionsDemand.Met item)
      (buildOptions corpus item materialsId : Rendering σ Trial) := by
  have hvalue (field : String) : Hinges corpus item served (Demand.Met { present := [field] } item)
      (Rendering.check (item.requireValue field) : Rendering σ Value) :=
    hinges_check (explained_requireValue field)
  exact Hinges.of_demand ((hinges_process "good_sentence").seq fun _ =>
    (hinges_process "bad_sentence").seq fun _ => (hvalue "id").seq fun _ =>
    (hvalue "manipulation").seq fun _ => (hvalue "bad_ungrammatical").seq fun _ =>
    hinges_return _) rfl

end Fillers

/-! ## Every recipe -/

namespace TrialKind

/-- The fields that a trial reads, the flags apart. -/
def demand (kind : TrialKind) (c : Condition) : Demand :=
  match kind with
  | swarm frame _ _ => Swarm.demand frame c
  | sprayLoad task _ => SprayLoad.demand task

/-- The condition sets the slots that are read. -/
def Serves (kind : TrialKind) (c : Condition) : Prop :=
  match kind with
  | swarm frame task _ => Swarm.Serves frame task c
  | sprayLoad task _ => SprayLoad.Serves task c

instance (kind : TrialKind) (c : Condition) : Decidable (kind.Serves c) :=
  match kind with
  | swarm frame task _ => inferInstanceAs (Decidable (Swarm.Serves frame task c))
  | sprayLoad task _ => inferInstanceAs (Decidable (SprayLoad.Serves task c))

/-- **Every text that is read is required**, so a usable item lacks none of them; it may
hold something else than text there. -/
theorem texts_subset_requiredFields (kind : TrialKind) (c : Condition) :
    (kind.demand c).texts ⊆ kind.requiredFields := by
  cases kind with
  | swarm frame task space =>
    cases frame with
    | topic =>
      have hclosed : (Swarm.slotDemand ++ { rendered := ["topic A", "topic L"] }).texts ⊆
          Swarm.requiredFields .topic := by decide
      exact hclosed
    | given nonalternating =>
      -- Which entity is given makes a difference, so both cases are looked at.
      have hclosed : ∀ nonalternating agentGiven,
          (Swarm.slotDemand ++ (Swarm.givenDemand ++
            Swarm.controlDemand nonalternating agentGiven) ++ { present := ["id"] }).texts ⊆
          Swarm.requiredFields (.given nonalternating) := by decide
      exact hclosed nonalternating (c.get? 0 == some 1)
  | sprayLoad task space =>
    have hclosed : SprayLoad.lexicalDemand.texts ⊆ SprayLoad.requiredFields := by decide
    cases task with
    | constructionMeaning images => exact hclosed
    | weight => exact hclosed

end TrialKind

namespace Recipe

/-- The flags that are read. -/
def flagFields : Recipe → List String
  | experimental kind _ => kind.flagFields
  | balanced _ _ | completion _ | options => []

/-- The fields that are read, the flags apart. -/
def demand : Recipe → Demand
  | experimental kind c => kind.demand c
  | balanced format _ => Fillers.balancedDemand format
  | completion join => Fillers.completionDemand join
  | options => Fillers.optionsDemand

/-- The condition, if there is one, sets the slots that are read. -/
def Serves : Recipe → Prop
  | experimental kind c => kind.Serves c
  | balanced _ _ | completion _ | options => True

/-- **Rendering a trial hinges on what its recipe demands**, and on nothing else. -/
theorem hinges_build {σ : Type} [RandomSource σ] {corpus : NameCorpus} {item : Item}
    (recipe : Recipe) (materialsId : String) :
    Hinges corpus item recipe.Serves
      ((({ present := recipe.flagFields } : Demand) ++ recipe.demand).Met item)
      (recipe.build corpus item materialsId : Rendering σ Trial) := by
  cases recipe with
  | experimental kind c =>
    cases kind with
    | swarm frame task space => exact Swarm.hinges_build frame task c materialsId
    | sprayLoad task space => exact SprayLoad.hinges_build task c materialsId
  | balanced format rating => exact Fillers.hinges_buildBalanced format rating materialsId
  | completion join => exact Fillers.hinges_buildCompletion join materialsId
  | options => exact Fillers.hinges_buildOptions materialsId

end Recipe
end Alternation
