/-
# Anaphors as substituted noun phrases

`SPEC_FULL` §4.6, swarm family, *NP frame* and *Anaphor frame*: `lexicon` in both.

In the given frame a pronoun takes up the entity that was introduced.  The critical clauses
are those of the topic frame with the pronoun in the place of the noun phrase:
`Slots.givenClauses_of_agent` says so where the agent is given, and
`Slots.givenClauses_of_location` where the location is, whose determiner goes with it.

A pronoun that has the place of the noun phrase in the materials is read as the noun phrase
would be, so long as none of the fields that the clauses are made of mentions anybody
(`SlotTexts`).  So the clauses of the given frame are clauses of the topic frame for a
changed item (`given_eq_topic`).
-/

import Alternation.Proofs.Experiment.Demand
import Alternation.Proofs.Render.Plain
import Alternation.Proofs.Text.Words

namespace Alternation

/-- The item with a field that holds what another field of it holds. -/
def Item.copied (item : Item) (source field : String) : Item :=
  match item.get? source with
  | some value => item.set field value
  | none => item

/-- Copying a field that holds text sets the other one to the text. -/
theorem Item.copied_eq {item : Item} {source field text : String}
    (h : item.text? source = some text) : item.copied source field = item.set field (.text text) := by
  rw [copied, get?_of_text? h]

/-- A blank word before others takes no place. -/
theorem Phrase.joinWords_place (us ws : List String) (word : String) :
    joinWords (us ++ [joinWords ["", word]] ++ ws) = joinWords (us ++ [word] ++ ws) := by
  have hkept : Text.kept ["", word] = Text.kept [word] := rfl
  rw [joinWords_splice, joinWords_eq, joinWords_eq]
  simp only [Text.kept_append, hkept]

namespace Swarm

/-! ## Clauses -/

namespace Slots

variable (s : Slots) (pronouns : Pronouns) (control : Option String)

/-- **The agent is given:** its pronoun stands in its place, subject or object. -/
theorem givenClauses_of_agent :
    (s.givenClauses pronouns true control).agent =
        { s with agent := pronouns.agentSubject }.topicClauses.agent ∧
      (s.givenClauses pronouns true control).location =
        { s with agent := pronouns.agentObject }.topicClauses.location := by
  simp only [givenClauses, topicClauses, agentClause, locationClause, place, if_true, and_self]

/-- **The location is given:** its pronoun stands in the place of it and its determiner,
object or subject. -/
theorem givenClauses_of_location :
    (s.givenClauses pronouns false control).agent =
        { s with location := pronouns.locationObject
                 locationDeterminer := "" }.topicClauses.agent ∧
      (s.givenClauses pronouns false control).location =
        { s with location := pronouns.locationSubject
                 locationDeterminer := "" }.topicClauses.location := by
  have hobject := Phrase.joinWords_place [s.agent, Phrase.copula s.agentPlural,
    Phrase.progressive s.verb, s.preposition] [] pronouns.locationObject
  have hsubject := Phrase.joinWords_place [] [Phrase.copula s.locationPlural,
    Phrase.progressive s.verb, "with", s.agent] pronouns.locationSubject
  simp only [List.cons_append, List.nil_append, List.append_nil] at hobject hsubject
  simp only [givenClauses, topicClauses, agentClause, locationClause, place, Bool.false_eq_true,
    if_false, hobject, hsubject, and_self]

end Slots

/-! ## Slots of plain fields -/

/-- The fields that noun phrases, the verb and the preposition are read from. -/
def slotFields : List String := ["A", "L", "V", "L det", "P"]

/-- The fields of the pronouns. -/
def pronounFields : List String :=
  ["given A pron subj", "given A pron obj", "given L pron subj", "given L pron obj"]

/-- The slots hold what the fields of the item hold. -/
structure SlotTexts (item : Item) (slots : Slots) : Prop where
  agent : item.text? "A" = some slots.agent
  location : item.text? "L" = some slots.location
  verb : item.text? "V" = some slots.verb
  agentPlural : item.requireFlag "A countable?" = .ok slots.agentPlural
  locationPlural : item.requireFlag "L plural?" = .ok slots.locationPlural
  determiner : item.text? "L det" = some slots.locationDeterminer
  preposition : item.text? "P" = some slots.preposition

/-- The pronouns are those of the item. -/
structure PronounTexts (item : Item) (pronouns : Pronouns) : Prop where
  agentSubject : item.text? "given A pron subj" = some pronouns.agentSubject
  agentObject : item.text? "given A pron obj" = some pronouns.agentObject
  locationSubject : item.text? "given L pron subj" = some pronouns.locationSubject
  locationObject : item.text? "given L pron obj" = some pronouns.locationObject

section

variable {σ : Type} [RandomSource σ] {corpus : NameCorpus} {item item' : Item} {slots : Slots}
  {pronouns : Pronouns} {scene scene' : Scene σ}

/-- Slots of plain fields are the texts of the item; only the prompt preposition and the
conjunction are processed. -/
theorem yields_readSlots_iff (plain : ∀ field ∈ slotFields, item.Plain field) :
    Yields (readSlots corpus item) scene slots scene' ↔ SlotTexts item slots ∧
      ∃ middle, Yields (Rendering.process corpus item "prompt P") scene slots.promptPreposition
          middle ∧
        Yields (Rendering.process corpus item "conj") middle slots.conjunction scene' := by
  simp only [slotFields, List.forall_mem_cons] at plain
  obtain ⟨hA, hL, hV, hdet, hP, -⟩ := plain
  simp only [readSlots, yields_bind_iff, yields_check_iff, yields_pure_iff,
    yields_process_of_plain hA, yields_process_of_plain hL, yields_process_of_plain hV,
    yields_process_of_plain hdet, yields_process_of_plain hP]
  constructor
  · rintro ⟨_, _, ⟨agent, rfl⟩, _, _, ⟨location, rfl⟩, _, _, ⟨verb, rfl⟩, _, _,
      ⟨agentPlural, rfl⟩, _, _, ⟨locationPlural, rfl⟩, _, _, ⟨determiner, rfl⟩, _, _,
      ⟨preposition, rfl⟩, _, middle, hprompt, _, _, hconj, rfl, rfl⟩
    exact ⟨⟨agent, location, verb, agentPlural, locationPlural, determiner, preposition⟩, middle,
      hprompt, hconj⟩
  · rintro ⟨texts, middle, hprompt, hconj⟩
    exact ⟨_, _, ⟨texts.agent, rfl⟩, _, _, ⟨texts.location, rfl⟩, _, _, ⟨texts.verb, rfl⟩, _, _,
      ⟨texts.agentPlural, rfl⟩, _, _, ⟨texts.locationPlural, rfl⟩, _, _, ⟨texts.determiner, rfl⟩,
      _, _, ⟨texts.preposition, rfl⟩, _, middle, hprompt, _, _, hconj, rfl, rfl⟩

/-- Pronouns of plain fields are the texts of the item, and nothing is drawn for them. -/
theorem yields_readPronouns_iff (plain : ∀ field ∈ pronounFields, item.Plain field) :
    Yields (readPronouns corpus item) scene pronouns scene' ↔
      PronounTexts item pronouns ∧ scene' = scene := by
  simp only [pronounFields, List.forall_mem_cons] at plain
  obtain ⟨hAs, hAo, hLs, hLo, -⟩ := plain
  simp only [readPronouns, yields_bind_iff, yields_pure_iff, yields_process_of_plain hAs,
    yields_process_of_plain hAo, yields_process_of_plain hLs, yields_process_of_plain hLo]
  constructor
  · rintro ⟨_, _, ⟨agentSubject, rfl⟩, _, _, ⟨agentObject, rfl⟩, _, _, ⟨locationSubject, rfl⟩, _, _,
      ⟨locationObject, rfl⟩, rfl, rfl⟩
    exact ⟨⟨agentSubject, agentObject, locationSubject, locationObject⟩, rfl⟩
  · rintro ⟨texts, rfl⟩
    exact ⟨_, _, ⟨texts.agentSubject, rfl⟩, _, _, ⟨texts.agentObject, rfl⟩, _, _,
      ⟨texts.locationSubject, rfl⟩, _, _, ⟨texts.locationObject, rfl⟩, rfl, rfl⟩

/-- Slots that hold what the same fields hold are the same as far as the clauses go. -/
theorem SlotTexts.eq {slots' : Slots} (h : SlotTexts item slots) (h' : SlotTexts item slots') :
    slots' = { slots with
      promptPreposition := slots'.promptPreposition
      conjunction := slots'.conjunction } := by
  obtain ⟨agent, location, verb, agentPlural, locationPlural, determiner, preposition, _, _⟩ :=
    slots'
  obtain rfl : agent = slots.agent := Option.some.inj (h'.agent.symm.trans h.agent)
  obtain rfl : location = slots.location := Option.some.inj (h'.location.symm.trans h.location)
  obtain rfl : verb = slots.verb := Option.some.inj (h'.verb.symm.trans h.verb)
  obtain rfl : agentPlural = slots.agentPlural :=
    Except.ok.inj (h'.agentPlural.symm.trans h.agentPlural)
  obtain rfl : locationPlural = slots.locationPlural :=
    Except.ok.inj (h'.locationPlural.symm.trans h.locationPlural)
  obtain rfl : determiner = slots.locationDeterminer :=
    Option.some.inj (h'.determiner.symm.trans h.determiner)
  obtain rfl : preposition = slots.preposition :=
    Option.some.inj (h'.preposition.symm.trans h.preposition)
  rfl

/-! ## Frames -/

/-- The lexical slots, with what comes before the critical clause and the critical clauses. -/
def Slots.lexicon (s : Slots) (lead : Lead) (critical : CriticalClauses) : SwarmLexicon where
  agent := s.agent
  location := s.location
  verb := s.verb
  agentPlural := s.agentPlural
  locationPlural := s.locationPlural
  locationDeterminer := s.locationDeterminer
  preposition := s.preposition
  promptPreposition := s.promptPreposition
  conjunction := s.conjunction
  lead
  critical

/-- The critical clauses of a trial, if it is one of this alternation. -/
def criticalOf (trial : Trial) : Option CriticalClauses :=
  match trial.lexicon with
  | some (.swarm lexicon) => some lexicon.critical
  | _ => none

/-- The frame builds a trial of the item, with these critical clauses. -/
def Renders (corpus : NameCorpus) (frame : Frame) (task : Task) (item : Item)
    (condition : Condition) (materialsId : String) (scene : Scene σ) (critical : CriticalClauses)
    (scene' : Scene σ) : Prop :=
  ∃ trial, Yields (build corpus frame task item condition materialsId) scene trial scene' ∧
    criticalOf trial = some critical

/-- A trial is rendered just if its slots and clauses are read, and presentation and
identifier succeed. -/
theorem renders_iff {frame : Frame} {task : Task} {condition : Condition} {materialsId : String}
    {critical : CriticalClauses} :
    Renders corpus frame task item condition materialsId scene critical scene' ↔
      ∃ slots middle lead, Yields (readSlots corpus item) scene slots middle ∧
        Yields (readClauses corpus item frame condition slots) middle (lead, critical) scene' ∧
        (∃ presentation, present task (slots.lexicon lead critical) condition = .ok presentation) ∧
        ∃ itemId, item.requireId = .ok itemId := by
  constructor
  · rintro ⟨trial, hbuild, hcritical⟩
    obtain ⟨lexicon, presentation, itemId, hread, hpresent, hid, rfl⟩ := yields_build_iff.1 hbuild
    simp only [readLexicon, yields_bind_iff, yields_pure_iff] at hread
    obtain ⟨slots, middle, hslots, ⟨lead, critical⟩, _, hclauses, rfl, rfl⟩ := hread
    obtain rfl := Option.some.inj hcritical
    exact ⟨slots, middle, lead, hslots, hclauses, ⟨presentation, hpresent⟩, itemId, hid⟩
  · rintro ⟨slots, middle, lead, hslots, hclauses, ⟨presentation, hpresent⟩, itemId, hid⟩
    have hread : Yields (readLexicon corpus item frame condition) scene
        (slots.lexicon lead critical) scene' := by
      simp only [readLexicon, yields_bind_iff, yields_pure_iff]
      exact ⟨slots, middle, hslots, (lead, critical), _, hclauses, rfl, rfl⟩
    exact ⟨_, yields_build_iff.2 ⟨_, presentation, itemId, hread, hpresent, hid, rfl⟩, rfl⟩

section

variable {task : Task} {condition : Condition} {materialsId : String} {critical : CriticalClauses}

/-- **The given frame** of an item whose fields mention nobody. -/
theorem exists_givenClauses {nonalternating : Bool}
    (plain : ∀ field ∈ slotFields ++ pronounFields, item.Plain field)
    (h : Renders corpus (.given nonalternating) task item condition materialsId scene critical
      scene') :
    ∃ slots pronouns agentGiven control, SlotTexts item slots ∧ PronounTexts item pronouns ∧
      condition.requireFlag 0 = .ok agentGiven ∧
      critical = slots.givenClauses pronouns agentGiven control := by
  obtain ⟨hslots, hpronouns⟩ := List.forall_mem_append.1 plain
  obtain ⟨slots, _, lead, hread, hclauses, -, -⟩ := renders_iff.1 h
  simp only [readClauses, yields_bind_iff, yields_check_iff, yields_pure_iff] at hclauses
  obtain ⟨pronouns, _, hpronounsRead, _, _, -, agentGiven, _, ⟨hflag, rfl⟩, control, _, -, heq, -⟩ :=
    hclauses
  exact ⟨slots, pronouns, agentGiven, control, ((yields_readSlots_iff hslots).1 hread).1,
    ((yields_readPronouns_iff hpronouns).1 hpronounsRead).1, hflag, (Prod.mk.inj heq).2⟩

/-- The fields of the noun phrases. -/
def phraseFields : List String := ["A", "L", "L det"]

/-- The second item is the first with other noun phrases, which mention nobody either. -/
structure Rephrased (item item' : Item) : Prop where
  same : ∀ field, field ∉ phraseFields → item'.get? field = item.get? field
  plain : ∀ field ∈ phraseFields, item'.Plain field

/-- An item with plain fields is a rephrasing of itself. -/
theorem Rephrased.refl (plain : ∀ field ∈ slotFields, item.Plain field) : Rephrased item item where
  same := fun _ _ => rfl
  plain := by
    simp only [slotFields, phraseFields, List.forall_mem_cons] at plain ⊢
    obtain ⟨hA, hL, -, hdet, -⟩ := plain
    exact ⟨hA, hL, hdet, List.forall_mem_nil _⟩

/-- A noun phrase may be set to any text that mentions nobody. -/
theorem Rephrased.set {field text : String} (h : Rephrased item item') (hfield : field ∈ phraseFields)
    (plain : ∀ p, .person p ∉ Segment.parse text) :
    Rephrased item (item'.set field (.text text)) where
  same := fun other hother => by
    rw [Item.get?_set, if_neg (ne_of_mem_of_not_mem hfield hother).symm, h.same other hother]
  plain := fun other hother text' htext' => by
    rw [Item.text?_set] at htext'
    split at htext'
    · obtain rfl := Option.some.inj htext'
      exact plain
    · exact h.plain other hother text' htext'

/-- The fields of a rephrased item stay plain. -/
theorem Rephrased.plain_slots (h : Rephrased item item')
    (plain : ∀ field ∈ slotFields, item.Plain field) : ∀ field ∈ slotFields, item'.Plain field := by
  intro field hfield
  by_cases hphrase : field ∈ phraseFields
  · exact h.plain field hphrase
  · intro text htext
    rw [Item.text?_congr (h.same field hphrase)] at htext
    exact plain field hfield text htext

/-- The slots of an item with other noun phrases. -/
theorem SlotTexts.rephrase (texts : SlotTexts item slots) (h : Rephrased item item')
    {agent location determiner : String} (hagent : item'.text? "A" = some agent)
    (hlocation : item'.text? "L" = some location)
    (hdeterminer : item'.text? "L det" = some determiner) :
    SlotTexts item' { slots with
      agent := agent
      location := location
      locationDeterminer := determiner } where
  agent := hagent
  location := hlocation
  verb := (Item.text?_congr (h.same "V" (by decide))).trans texts.verb
  agentPlural := by
    rw [Item.requireFlag_eq_ok_iff, h.same "A countable?" (by decide)]
    exact Item.requireFlag_eq_ok_iff.1 texts.agentPlural
  locationPlural := by
    rw [Item.requireFlag_eq_ok_iff, h.same "L plural?" (by decide)]
    exact Item.requireFlag_eq_ok_iff.1 texts.locationPlural
  determiner := hdeterminer
  preposition := (Item.text?_congr (h.same "P" (by decide))).trans texts.preposition

/-- The topic clauses are read alike, since rephrasing leaves their fields alone. -/
theorem yields_readByRole_rephrase (h : Rephrased item item') {clauses : ByRole String} :
    Yields (readByRole corpus item' "topic A" "topic L") scene clauses scene' ↔
      Yields (readByRole corpus item "topic A" "topic L") scene clauses scene' := by
  simp only [readByRole, yields_bind_iff, yields_process_congr (h.same "topic A" (by decide)),
    yields_process_congr (h.same "topic L" (by decide))]

/-- The clauses that can be selected in the topic frame are the same for all slots. -/
theorem exists_selectCritical {slots' : Slots} {clause : String}
    (h : selectCritical slots.topicClauses condition = .ok clause) :
    ∃ clause', selectCritical slots'.topicClauses condition = .ok clause' := by
  rw [selectCritical_eq] at h ⊢
  split at h
  · exact ⟨_, rfl⟩
  · exact ⟨_, rfl⟩
  · exact nomatch h
  · exact nomatch h

/-- **The topic frame** of an item with other noun phrases, where it builds the item itself. -/
theorem Renders.rephrase (h : Renders corpus .topic task item condition materialsId scene critical
      scene')
    (plain : ∀ field ∈ slotFields, item.Plain field) (texts : SlotTexts item slots)
    (hrephrased : Rephrased item item') {agent location determiner : String}
    (hagent : item'.text? "A" = some agent) (hlocation : item'.text? "L" = some location)
    (hdeterminer : item'.text? "L det" = some determiner) :
    Renders corpus .topic task item' condition materialsId scene
      { slots with
        agent := agent
        location := location
        locationDeterminer := determiner }.topicClauses scene' := by
  obtain ⟨slots', _, lead, hread, hclauses, ⟨presentation, hpresent⟩, itemId, hid⟩ :=
    renders_iff.1 h
  obtain ⟨texts', middle, hprompt, hconj⟩ := (yields_readSlots_iff plain).1 hread
  simp only [readClauses, yields_bind_iff, yields_pure_iff] at hclauses
  obtain ⟨clauses, _, htopic, heq, rfl⟩ := hclauses
  obtain ⟨rfl, rfl⟩ := Prod.mk.inj heq
  rw [texts'.eq texts]
  have hread' : Yields (readSlots corpus item') scene { slots' with
      agent := agent
      location := location
      locationDeterminer := determiner } _ :=
    (yields_readSlots_iff (hrephrased.plain_slots plain)).2
      ⟨texts'.rephrase hrephrased hagent hlocation hdeterminer, middle,
        (yields_process_congr (hrephrased.same "prompt P" (by decide))).2 hprompt,
        (yields_process_congr (hrephrased.same "conj" (by decide))).2 hconj⟩
  refine renders_iff.2 ⟨_, _, .topic clauses, hread', ?_, ?_, itemId, ?_⟩
  · simp only [readClauses, yields_bind_iff, yields_pure_iff]
    exact ⟨clauses, _, (yields_readByRole_rephrase hrephrased).2 htopic, rfl, rfl⟩
  · obtain ⟨leading, clause, hlead, hcritical, -⟩ := present_eq_ok_iff.1 hpresent
    by_cases hshown : task.showsCritical = true
    · obtain ⟨clause', hclause'⟩ := exists_selectCritical (hcritical hshown)
      exact ⟨_, present_eq_ok_iff.2 ⟨leading, clause', hlead, fun _ => hclause', rfl⟩⟩
    · exact ⟨_, present_eq_ok_iff.2 ⟨leading, clause, hlead, fun h => absurd h hshown, rfl⟩⟩
  · rw [Item.requireId, Item.requireValue_eq_ok_iff] at hid ⊢
    rwa [hrephrased.same "id" (by decide)]

section

variable {source pronoun : String}
  (h : Renders corpus .topic task item condition materialsId scene critical scene')
  (plain : ∀ field ∈ slotFields ++ pronounFields, item.Plain field) (texts : SlotTexts item slots)
  (hsource : source ∈ pronounFields) (htext : item.text? source = some pronoun)

include h plain texts hsource htext

/-- The topic frame, with a pronoun for the agent. -/
theorem Renders.copy_agent :
    Renders corpus .topic task (item.copied source "A") condition materialsId scene
      { slots with agent := pronoun }.topicClauses scene' := by
  obtain ⟨hslots, hpronouns⟩ := List.forall_mem_append.1 plain
  rw [Item.copied_eq htext]
  refine h.rephrase hslots texts ((Rephrased.refl hslots).set (by decide)
    (hpronouns source hsource pronoun htext)) ?_ ?_ ?_
  · rw [Item.text?_set, if_pos rfl]
  · rw [Item.text?_set, if_neg (by decide), texts.location]
  · rw [Item.text?_set, if_neg (by decide), texts.determiner]

/-- The topic frame, with a pronoun for the location and its determiner. -/
theorem Renders.copy_location :
    Renders corpus .topic task ((item.copied source "L").set "L det" (.text "")) condition
      materialsId scene
      { slots with location := pronoun, locationDeterminer := "" }.topicClauses scene' := by
  obtain ⟨hslots, hpronouns⟩ := List.forall_mem_append.1 plain
  rw [Item.copied_eq htext]
  refine h.rephrase hslots texts (((Rephrased.refl hslots).set (by decide)
    (hpronouns source hsource pronoun htext)).set (by decide)
      (Segment.no_person_of_not_mem (by decide))) ?_ ?_ ?_
  · rw [Item.text?_set, if_neg (by decide), Item.text?_set, if_neg (by decide), texts.agent]
  · rw [Item.text?_set, if_neg (by decide), Item.text?_set, if_pos rfl]
  · rw [Item.text?_set, if_pos rfl]

end

/-- **The given frame is the topic frame with pronouns for noun phrases.**  Take an item whose
noun phrases, verb, preposition and pronouns mention nobody, and on which both frames build.
Slot 0 says which entity is given.  If it is the agent, the agent clause is that of the topic
frame for the item whose agent is the subject pronoun, and the location clause that for the
item whose agent is the object pronoun.  If it is the location, they are the clauses for the
items whose location is the object pronoun, and the subject pronoun, with no determiner. -/
theorem given_eq_topic {nonalternating : Bool} {task' : Task} {condition' : Condition}
    {materialsId' : String} {topical : CriticalClauses} {setting setting' : Scene σ}
    (plain : ∀ field ∈ slotFields ++ pronounFields, item.Plain field)
    (topic : Renders corpus .topic task item condition materialsId scene topical scene')
    (given : Renders corpus (.given nonalternating) task' item condition' materialsId' setting
      critical setting') :
    condition'.HasFlag 0 ∧
    (condition'.get? 0 = some 1 →
      (∃ changed, Renders corpus .topic task (item.copied "given A pron subj" "A") condition
        materialsId scene changed scene' ∧ critical.agent = changed.agent) ∧
      ∃ changed, Renders corpus .topic task (item.copied "given A pron obj" "A") condition
        materialsId scene changed scene' ∧ critical.location = changed.location) ∧
    (condition'.get? 0 = some 0 →
      (∃ changed, Renders corpus .topic task
        ((item.copied "given L pron obj" "L").set "L det" (.text "")) condition
        materialsId scene changed scene' ∧ critical.agent = changed.agent) ∧
      ∃ changed, Renders corpus .topic task
        ((item.copied "given L pron subj" "L").set "L det" (.text "")) condition
        materialsId scene changed scene' ∧ critical.location = changed.location) := by
  obtain ⟨slots, pronouns, agentGiven, control, texts, hpron, hflag, rfl⟩ :=
    exists_givenClauses plain given
  have hget := Condition.get?_of_requireFlag hflag
  cases agentGiven with
  | true =>
    obtain ⟨hsubject, hobject⟩ := slots.givenClauses_of_agent pronouns control
    refine ⟨.inr hget, fun _ => ⟨⟨_, ?_, hsubject⟩, _, ?_, hobject⟩, fun hzero =>
      absurd (hget.symm.trans hzero) (by decide)⟩
    · exact topic.copy_agent plain texts (by decide) hpron.agentSubject
    · exact topic.copy_agent plain texts (by decide) hpron.agentObject
  | false =>
    obtain ⟨hobject, hsubject⟩ := slots.givenClauses_of_location pronouns control
    refine ⟨.inl hget, fun hone => absurd (hget.symm.trans hone) (by decide),
      fun _ => ⟨⟨_, ?_, hobject⟩, _, ?_, hsubject⟩⟩
    · exact topic.copy_location plain texts (by decide) hpron.locationObject
    · exact topic.copy_location plain texts (by decide) hpron.locationSubject

end

end

/-- Bees that swarm; blanks stand around the cells, and persons are mentioned elsewhere. -/
def swarmingBees : Item where
  fields := .ofList <|
    [("id", .int 7), ("A countable?", .bool true), ("L plural?", .null)] ++
    [("A", "bees "), ("L", " garden"), ("V", "swarm"), ("P", "in"), ("prompt P", "in"),
      ("L det", "the "), ("topic A", "as for bees"), ("topic L", "as for the garden"),
      ("conj", "%PERSON1% saw that"), ("given A", "%PERSON1% heard bees"),
      ("given L", "%PERSON2% saw a garden"), ("given A pron subj", "they"),
      ("given A pron obj", "them"), ("given L pron subj", " it"),
      ("given L pron obj", "it ")].map fun e => (e.1, .text e.2)

/-- The garden is given, and its pronoun stands for it in both clauses. -/
theorem given_eq_topic_of_bees :
    ∃ (topical critical changed changed' : CriticalClauses) (scene setting : Scene Random.Script),
      Renders .tomAndAnn .topic .topicality swarmingBees (.ofDigits [0, 1]) "bees"
        ⟨.empty, ⟨[0, 0]⟩⟩ topical scene ∧
      topical = ⟨"bees are swarming in the garden", "the garden is swarming with bees", none⟩ ∧
      Renders .tomAndAnn (.given false) .givenness swarmingBees (.ofDigits [0, 1]) "bees"
        ⟨.empty, ⟨[0, 0, 1, 0]⟩⟩ critical setting ∧
      critical = ⟨"bees are swarming in it", "it is swarming with bees", none⟩ ∧
      Renders .tomAndAnn .topic .topicality
        ((swarmingBees.copied "given L pron obj" "L").set "L det" (.text "")) (.ofDigits [0, 1])
        "bees" ⟨.empty, ⟨[0, 0]⟩⟩ changed scene ∧
      critical.agent = changed.agent ∧
      Renders .tomAndAnn .topic .topicality
        ((swarmingBees.copied "given L pron subj" "L").set "L det" (.text "")) (.ofDigits [0, 1])
        "bees" ⟨.empty, ⟨[0, 0]⟩⟩ changed' scene ∧
      critical.location = changed'.location := by
  have htopic : ((build .tomAndAnn .topic .topicality swarmingBees (.ofDigits [0, 1])
      "bees").run.run (⟨.empty, ⟨[0, 0]⟩⟩ : Scene Random.Script)).1.map criticalOf =
        .ok (some ⟨"bees are swarming in the garden", "the garden is swarming with bees",
          none⟩) := by decide +kernel
  have hgiven : ((build .tomAndAnn (.given false) .givenness swarmingBees (.ofDigits [0, 1])
      "bees").run.run (⟨.empty, ⟨[0, 0, 1, 0]⟩⟩ : Scene Random.Script)).1.map criticalOf =
        .ok (some ⟨"bees are swarming in it", "it is swarming with bees", none⟩) := by decide +kernel
  have hplain : ∀ field ∈ slotFields ++ pronounFields, swarmingBees.Plain field := by
    have hpercent : ∀ field ∈ slotFields ++ pronounFields,
        ∀ text ∈ swarmingBees.text? field, '%' ∉ text.toList := by decide +kernel
    exact fun field hfield text htext => Segment.no_person_of_not_mem (hpercent field hfield text htext)
  obtain ⟨trial, scene, hyields, hcritical⟩ := exists_yields htopic
  obtain ⟨trial', setting, hyields', hcritical'⟩ := exists_yields hgiven
  obtain ⟨-, -, hlocation⟩ := given_eq_topic hplain ⟨trial, hyields, hcritical⟩
    ⟨trial', hyields', hcritical'⟩
  obtain ⟨⟨changed, hchanged, hagent⟩, changed', hchanged', hlocation⟩ := hlocation (by decide)
  exact ⟨_, _, changed, changed', scene, setting, ⟨trial, hyields, hcritical⟩, rfl,
    ⟨trial', hyields', hcritical'⟩, rfl, hchanged, hagent, hchanged', hlocation⟩

end Swarm
end Alternation
