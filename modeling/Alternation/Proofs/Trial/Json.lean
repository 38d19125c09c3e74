/-
# The JSON of a trial loses nothing

`SPEC_FULL` §3, *Trial*, and §10.4: the JSON of `Trial`.

A trial is one flat object, into which its identifiers, its lexical slots and what the
participant sees are put side by side.  Both the slots of the swarm alternation and what is
seen of a completion have a `conjunction`, and collections of sentences are written without
a tag, so not every `Trial` can be told from its object.  The trials that are built can:
they are `Trial.Flat`, that is

* only experimental trials have lexical slots, and these do not show a conjunction;
* sentences for each key of a condition have the keys of the spray-load alternation.

A flat trial is a row of `Trial.fields` with distinct names (`Trial.Flat.nodup_fields`),
and each field is found under its name (`lookup_record`), so the fields can be read off the
object one after the other (`Trial.Flat.eq_of_lookup`).
-/

import Alternation.Proofs.Experiment.Recipe
import Alternation.Proofs.Json.Record
import Alternation.Proofs.Materials.Finite

namespace Alternation

open Json (Fields record optional record_append record_map_some record_keys_sublist lookup_record
  lookup_record_eq_none eq_of_lookup_record)

/-! ## Values are told by their JSON -/

section

open Function (Injective)

/-- A text is told by its JSON. -/
theorem Json.str_injective : Injective Json.str := fun _ _ => Json.str.inj

/-- A value is told by its JSON. -/
theorem Value.toJson_injective : Injective Value.toJson := by
  intro v v' h
  cases v <;> cases v' <;> simp_all [Value.toJson, Int64.toInt_inj]

/-- A slot is told by its JSON. -/
theorem Condition.slotJson_injective : Injective Condition.slotJson := by
  intro s s' h
  cases s <;> cases s' <;> simp_all [slotJson, UInt8.toNat_inj]

/-- A condition has no text in it, so it is not taken for the name of a filler. -/
theorem Condition.slots_ne_filler (c : Condition) (rest : List Json) :
    c.slots.map slotJson ≠ .str "filler" :: rest := by
  intro h
  obtain ⟨s, slots, -, hs, -⟩ := List.map_eq_cons_iff.1 h
  cases s <;> exact nomatch hs

/-- The name of a condition is told by its JSON. -/
theorem ConditionId.toJson_injective : Injective ConditionId.toJson := by
  intro c c' h
  cases c with
  | experimental c =>
    cases c' with
    | experimental c' =>
      have hmap := List.map_injective_iff.2 Condition.slotJson_injective (Json.arr.inj h)
      exact congrArg (fun slots => experimental ⟨slots⟩) hmap
    | filler classes => exact absurd (Json.arr.inj h) (c.slots_ne_filler _)
  | filler classes =>
    cases c' with
    | experimental c' => exact absurd (Json.arr.inj h).symm (c'.slots_ne_filler _)
    | filler classes' =>
      obtain ⟨-, hmap⟩ := List.cons.inj (Json.arr.inj h)
      exact congrArg filler (List.map_injective_iff.2 Value.toJson_injective hmap)

/-- Clauses by role are told by their JSON. -/
theorem ByRole.toJson_injective : Injective ByRole.toJson := by
  rintro ⟨agent, location⟩ ⟨agent', location'⟩ h
  simp_all [ByRole.toJson]

/-- A good and a bad text are told by their JSON. -/
theorem GoodBad.toJson_injective : Injective GoodBad.toJson := by
  rintro ⟨good, bad⟩ ⟨good', bad'⟩ h
  simp_all [GoodBad.toJson]

/-- Options are told by their JSON. -/
theorem SentenceOptions.toJson_injective : Injective SentenceOptions.toJson := by
  rintro (⟨_, _⟩ | ⟨_, _⟩) (⟨_, _⟩ | ⟨_, _⟩) h <;> simp_all [SentenceOptions.toJson, GoodBad.toJson]

/-- A measure is told by its name. -/
theorem Measure.name_injective : Injective Measure.name := by
  rintro (_ | _) (_ | _) h <;> simp_all [Measure.name]

/-- Critical clauses are told by their JSON. -/
theorem CriticalClauses.toJson_injective : Injective CriticalClauses.toJson := by
  rintro ⟨agent, location, _ | _⟩ ⟨agent', location', _ | _⟩ h <;>
    simp_all [CriticalClauses.toJson, Json.optional]

/-- A phrase in its two forms is told by its JSON. -/
theorem WeightedPhrase.toJson_injective : Injective WeightedPhrase.toJson := by
  rintro ⟨light, heavy, plural⟩ ⟨light', heavy', plural'⟩ h
  simp_all [WeightedPhrase.toJson]

/-- The forms of a verb are told by their JSON. -/
theorem VerbForms.toJson_injective : Injective VerbForms.toJson := by
  rintro ⟨base, present, past⟩ ⟨base', present', past'⟩ h
  simp_all [VerbForms.toJson]

/-- A kind of image is told by its key. -/
theorem ImageKind.key_injective : Injective ImageKind.key := by
  rintro (_ | _ | _ | _) (_ | _ | _ | _) h <;> simp_all [ImageKind.key]

end

/-- Sentences for each key of a condition have the keys of the spray-load alternation. -/
def Sentences.Keyed : Sentences → Prop
  | byCondition entries =>
    entries.map Prod.fst = SprayLoad.Choice.all.map SprayLoad.Choice.key
  | _ => True

/-- Pairs are not taken for sentences for each key, of which there are eight. -/
theorem Sentences.toJson_inj {s s' : Sentences} (hs : s.Keyed) (hs' : s'.Keyed)
    (h : s.toJson = s'.toJson) : s = s' := by
  have hpair : ∀ {entries : List (String × String)} {m m' : String × Json},
      (byCondition entries).Keyed → entries.map (fun e => (e.1, Json.str e.2)) ≠ [m, m'] := by
    intro entries m m' hkeys h
    have hlength := congrArg List.length h
    have hlength' := congrArg List.length hkeys
    rw [List.length_map] at hlength hlength'
    exact nomatch (show 2 = 8 from hlength.symm.trans hlength')
  cases s with
  | sequence list =>
    cases s' with
    | sequence list' =>
      exact congrArg sequence (List.map_injective_iff.2 Json.str_injective (Json.arr.inj h))
    | _ => exact nomatch h
  | byRole pair =>
    cases s' with
    | byRole pair' => exact congrArg byRole (ByRole.toJson_injective h)
    | byCondition entries => exact absurd (Json.obj.inj h).symm (hpair hs')
    | _ => simp [toJson, ByRole.toJson, GoodBad.toJson] at h
  | goodBad pair =>
    cases s' with
    | goodBad pair' => exact congrArg goodBad (GoodBad.toJson_injective h)
    | byCondition entries => exact absurd (Json.obj.inj h).symm (hpair hs')
    | _ => simp [toJson, ByRole.toJson, GoodBad.toJson] at h
  | byCondition entries =>
    cases s' with
    | byCondition entries' =>
      refine congrArg byCondition (List.map_injective_iff.2 ?_ (Json.obj.inj h))
      rintro ⟨key, sentence⟩ ⟨key', sentence'⟩ he
      simp_all
    | sequence list => exact nomatch h
    | _ => exact absurd (Json.obj.inj h) (hpair hs)

/-! ## The fields of a trial -/

namespace Lead

/-- The clauses that make an entity the topic. -/
def topic? : Lead → Option (ByRole String)
  | topic clauses => some clauses
  | given _ _ => none

/-- The clauses that introduce an entity. -/
def setup? : Lead → Option (ByRole String)
  | topic _ => none
  | given _ clauses => some clauses

/-- The pronouns that take an entity up. -/
def pronouns? : Lead → Option Pronouns
  | topic _ => none
  | given pronouns _ => some pronouns

end Lead

namespace SwarmLexicon

/-- The fields for the slots of a swarm trial, whatever comes before its critical clause. -/
def fields (l : SwarmLexicon) : Fields :=
  [("agent", some (.str l.agent)), ("location", some (.str l.location)),
   ("verb", some (.str l.verb)), ("agent_plural", some (.bool l.agentPlural)),
   ("location_plural", some (.bool l.locationPlural)),
   ("location_determiner", some (.str l.locationDeterminer)),
   ("preposition", some (.str l.preposition)),
   ("prompt_preposition", some (.str l.promptPreposition)),
   ("conjunction", some (.str l.conjunction)),
   ("agent_pronoun_subject", l.lead.pronouns?.map fun p => .str p.agentSubject),
   ("agent_pronoun_object", l.lead.pronouns?.map fun p => .str p.agentObject),
   ("location_pronoun_subject", l.lead.pronouns?.map fun p => .str p.locationSubject),
   ("location_pronoun_object", l.lead.pronouns?.map fun p => .str p.locationObject),
   ("topic_clause", l.lead.topic?.map ByRole.toJson),
   ("setup_clause", l.lead.setup?.map ByRole.toJson),
   ("critical_clause", some l.critical.toJson)]

/-- The members of a swarm lexicon are the record of its fields. -/
theorem members_eq (l : SwarmLexicon) : l.members = record l.fields := by
  obtain ⟨_, _, _, _, _, _, _, _, _, _ | _, _⟩ := l <;> rfl

/-- A swarm lexicon is told by its fields. -/
theorem fields_injective : Function.Injective fields := by
  intro l l' h
  obtain ⟨agent, location, verb, agentPlural, locationPlural, determiner, preposition,
    promptPreposition, conjunction, lead, critical⟩ := l
  obtain ⟨agent', location', verb', agentPlural', locationPlural', determiner', preposition',
    promptPreposition', conjunction', lead', critical'⟩ := l'
  simp only [fields, List.cons.injEq, Prod.mk.injEq, Option.some.injEq, Json.str.injEq,
    Json.bool.injEq, true_and, and_true] at h
  obtain ⟨rfl, rfl, rfl, rfl, rfl, rfl, rfl, rfl, rfl, hagentSubject, hagentObject,
    hlocationSubject, hlocationObject, htopic, hsetup, hcritical⟩ := h
  rw [CriticalClauses.toJson_injective hcritical]
  cases lead with
  | topic clauses =>
    cases lead' with
    | topic clauses' => rw [ByRole.toJson_injective (Option.some.inj htopic)]
    | given pronouns' clauses' => exact nomatch htopic
  | given pronouns clauses =>
    cases lead' with
    | topic clauses' => exact nomatch htopic
    | given pronouns' clauses' =>
      have hpronouns : pronouns = pronouns' := by
        obtain ⟨_, _, _, _⟩ := pronouns
        obtain ⟨_, _, _, _⟩ := pronouns'
        simp_all [Lead.pronouns?]
      rw [hpronouns, ByRole.toJson_injective (Option.some.inj hsetup)]

end SwarmLexicon

namespace SprayLoadLexicon

/-- The fields for the slots of a spray-load trial. -/
def fields (l : SprayLoadLexicon) : Fields := l.members.map fun m => (m.1, some m.2)

/-- The members of a spray-load lexicon are the record of its fields. -/
theorem members_eq (l : SprayLoadLexicon) : l.members = record l.fields :=
  (record_map_some l.members).symm

/-- A spray-load lexicon is told by its fields. -/
theorem fields_injective : Function.Injective fields := by
  intro l l' h
  obtain ⟨images, subject, theme, location, verb, scaleType, preposition, promptPreposition⟩ := l
  obtain ⟨images', subject', theme', location', verb', scaleType', preposition',
    promptPreposition'⟩ := l'
  simp only [fields, members, List.map_cons, List.map_nil, List.cons.injEq, Prod.mk.injEq,
    Option.some.injEq, Json.str.injEq, Json.obj.injEq, true_and, and_true] at h
  obtain ⟨himages, rfl, htheme, hlocation, hverb, rfl, rfl, rfl⟩ := h
  have himages' : images = images' := by
    refine List.map_injective_iff.2 ?_ himages
    rintro ⟨kind, path⟩ ⟨kind', path'⟩ he
    obtain ⟨hkey, hpath⟩ := Prod.mk.inj he
    exact Prod.ext (ImageKind.key_injective hkey) (Json.str.inj hpath)
  rw [himages', WeightedPhrase.toJson_injective htheme, WeightedPhrase.toJson_injective hlocation,
    VerbForms.toJson_injective hverb]

end SprayLoadLexicon

namespace Lexicon

/-- The fields for lexical slots. -/
def fields : Lexicon → Fields
  | swarm l => l.fields
  | sprayLoad l => l.fields

/-- The members of a lexicon are the record of its fields. -/
theorem members_eq (l : Lexicon) : l.members = record l.fields := by
  cases l with
  | swarm l => exact l.members_eq
  | sprayLoad l => exact l.members_eq

/-- Both have no slots, or both have those of the same alternation. -/
inductive SameKind : Option Lexicon → Option Lexicon → Prop
  | none : SameKind none none
  | swarm (l l' : SwarmLexicon) : SameKind (some (.swarm l)) (some (.swarm l'))
  | sprayLoad (l l' : SprayLoadLexicon) : SameKind (some (.sprayLoad l)) (some (.sprayLoad l'))

namespace SameKind

variable {l l' : Option Lexicon}

/-- Lexicons of one kind have the same names of fields. -/
theorem keys_eq (h : SameKind l l') :
    (l.elim [] fields).map Prod.fst = (l'.elim [] fields).map Prod.fst := by
  cases h <;> rfl

/-- Lexicons of one kind are both there or both not. -/
theorem isSome_eq (h : SameKind l l') : l.isSome = l'.isSome := by
  cases h <;> rfl

/-- Lexicons of one kind are told by their fields. -/
theorem eq_of_fields (h : SameKind l l') (hfields : l.elim [] fields = l'.elim [] fields) :
    l = l' := by
  cases h with
  | none => rfl
  | swarm l l' => rw [SwarmLexicon.fields_injective hfields]
  | sprayLoad l l' => rw [SprayLoadLexicon.fields_injective hfields]

end SameKind
end Lexicon

namespace Presentation

/-- The fields for what a participant sees, but for the conjunction. -/
def shownFields (p : Presentation) : Fields :=
  [("sentence", p.sentence.map .str), ("sentences", p.sentences.map Sentences.toJson),
   ("sentence_options", p.options.map SentenceOptions.toJson), ("prompt", p.prompt.map .str),
   ("slider_labels", p.sliderLabels.map fun l => .arr [.str l.1, .str l.2]),
   ("measure", p.measure.map fun m => .str m.name)]

/-- The members of a presentation are the record of what is shown, and the conjunction. -/
theorem members_eq (p : Presentation) :
    p.members = record (p.shownFields ++ [("conjunction", p.conjunction.map .str)]) := by
  simp [members, shownFields, record]

/-- A presentation is told by what is shown and the conjunction. -/
theorem eq_of_shownFields {p p' : Presentation} (hp : ∀ s ∈ p.sentences, s.Keyed)
    (hp' : ∀ s ∈ p'.sentences, s.Keyed) (h : p.shownFields = p'.shownFields)
    (hconjunction : p.conjunction = p'.conjunction) : p = p' := by
  obtain ⟨sentence, sentences, options, prompt, labels, measure, conjunction⟩ := p
  obtain ⟨sentence', sentences', options', prompt', labels', measure', conjunction'⟩ := p'
  simp only [shownFields, List.cons.injEq, Prod.mk.injEq, true_and, and_true] at h
  obtain ⟨hsentence, hsentences, hoptions, hprompt, hlabels, hmeasure⟩ := h
  have hsentences' : sentences = sentences' := by
    cases sentences with
    | none =>
      cases sentences' with
      | none => rfl
      | some s' => exact nomatch hsentences
    | some s =>
      cases sentences' with
      | none => exact nomatch hsentences
      | some s' =>
        rw [Sentences.toJson_inj (hp s rfl) (hp' s' rfl) (Option.some.inj hsentences)]
  have hlabels' : labels = labels' := by
    refine Option.map_injective ?_ hlabels
    rintro ⟨least, greatest⟩ ⟨least', greatest'⟩ he
    simp_all
  rw [Option.map_injective Json.str_injective hsentence, hsentences',
    Option.map_injective SentenceOptions.toJson_injective hoptions,
    Option.map_injective Json.str_injective hprompt, hlabels',
    Option.map_injective (Json.str_injective.comp Measure.name_injective) hmeasure,
    show conjunction = conjunction' from hconjunction]

end Presentation

namespace Trial

/-- The fields for the identifiers of a trial. -/
def headFields (t : Trial) : Fields :=
  [("materials_id", t.materialsId.map .str), ("item_id", some t.itemId.toJson),
   ("condition_id", some t.conditionId.toJson)]

/-- The fields of a trial.  What is seen of one with lexical slots has no conjunction. -/
def fields (t : Trial) : Fields :=
  t.headFields ++ t.lexicon.elim [] Lexicon.fields ++ t.presentation.shownFields ++
    if t.lexicon.isSome then [] else [("conjunction", t.presentation.conjunction.map .str)]

/-- What holds of the trials that are built, and lets them be told from their JSON. -/
structure Flat (t : Trial) : Prop where
  /-- Only experimental trials have lexical slots, and these do not show a conjunction. -/
  conjunction : t.lexicon.isSome = true → t.presentation.conjunction = none
  keyed : ∀ s ∈ t.presentation.sentences, s.Keyed

namespace Flat

variable {t t' : Trial}

/-- A trial without lexical slots is flat, if its sentences are keyed. -/
theorem of_filler (h : t.lexicon = none) (hkeyed : ∀ s ∈ t.presentation.sentences, s.Keyed) :
    t.Flat where
  conjunction hsome := by
    rw [h] at hsome
    cases hsome
  keyed := hkeyed

/-- The members of a flat trial are the record of its fields. -/
theorem members_eq (h : t.Flat) : t.members = record t.fields := by
  have hhead : optional "materials_id" (t.materialsId.map .str) ++
      [("item_id", t.itemId.toJson), ("condition_id", t.conditionId.toJson)] =
        record t.headFields := rfl
  rw [members, hhead, t.presentation.members_eq, fields]
  simp only [record_append, List.append_assoc]
  cases hlexicon : t.lexicon with
  | none => rfl
  | some l =>
    rw [h.conjunction (by rw [hlexicon]; rfl), Option.elim_some, Option.elim_some,
      l.members_eq]
    rfl

/-- The names of the fields of a trial are distinct. -/
theorem nodup_fields (t : Trial) : (t.fields.map Prod.fst).Nodup := by
  obtain ⟨materialsId, itemId, conditionId, _ | _ | _, presentation⟩ := t <;>
    simp [fields, headFields, Presentation.shownFields, Lexicon.fields, SwarmLexicon.fields,
      SprayLoadLexicon.fields, SprayLoadLexicon.members]

/-- **The names of the members are distinct.** -/
theorem nodup_members (h : t.Flat) : (t.members.map Prod.fst).Nodup := by
  rw [h.members_eq]
  exact (nodup_fields t).sublist (record_keys_sublist _)

/-- A member is found under the name of its field. -/
theorem lookup_members (h : t.Flat) {key : String} {value : Option Json}
    (hmem : (key, value) ∈ t.fields) : t.members.lookup key = value := by
  rw [h.members_eq]
  exact lookup_record (nodup_fields t) hmem

/-- Nothing is found under a name that is not one of a field. -/
theorem lookup_members_eq_none (h : t.Flat) {key : String} (hkey : key ∉ t.fields.map Prod.fst) :
    t.members.lookup key = none := by
  rw [h.members_eq]
  exact lookup_record_eq_none hkey

/-- The name of the condition is found in the object. -/
theorem lookup_conditionId (h : t.Flat) :
    t.members.lookup "condition_id" = some t.conditionId.toJson :=
  h.lookup_members (by simp [fields, headFields])

/-- **The trial is a filler** just if its condition starts with the word. -/
theorem isFiller_iff (h : t.Flat) : t.isFiller = true ↔
    ∃ rest, t.toJson.get? "condition_id" = some (.arr (.str "filler" :: rest)) := by
  show _ ↔ ∃ rest, t.members.lookup "condition_id" = _
  rw [h.lookup_conditionId]
  unfold isFiller
  cases t.conditionId with
  | experimental c =>
    constructor
    · exact nofun
    · rintro ⟨rest, h⟩
      exact absurd (Json.arr.inj (Option.some.inj h)) (c.slots_ne_filler rest)
  | filler classes => exact ⟨fun _ => ⟨_, rfl⟩, fun _ => rfl⟩

/-- The first fields tell the identifiers. -/
theorem eq_of_headFields (h : t.headFields = t'.headFields) :
    t.materialsId = t'.materialsId ∧ t.itemId = t'.itemId ∧ t.conditionId = t'.conditionId := by
  simp only [headFields, List.cons.injEq, Prod.mk.injEq, Option.some.injEq, true_and,
    and_true] at h
  obtain ⟨hmaterials, hitem, hcondition⟩ := h
  exact ⟨Option.map_injective Json.str_injective hmaterials, Value.toJson_injective hitem,
    ConditionId.toJson_injective hcondition⟩

/-- Only the slots of a swarm trial have an agent. -/
theorem lookup_agent (h : t.Flat) : t.members.lookup "agent" =
    match t.lexicon with
    | some (.swarm l) => some (.str l.agent)
    | _ => none := by
  cases hlexicon : t.lexicon with
  | none =>
    exact h.lookup_members_eq_none (by
      simp [fields, hlexicon, headFields, Presentation.shownFields])
  | some lexicon =>
    cases lexicon with
    | swarm l =>
      exact h.lookup_members (by simp [fields, hlexicon, Lexicon.fields, SwarmLexicon.fields])
    | sprayLoad l =>
      exact h.lookup_members_eq_none (by
        simp [fields, hlexicon, headFields, Presentation.shownFields, Lexicon.fields,
          SprayLoadLexicon.fields, SprayLoadLexicon.members])

/-- Only the slots of a spray-load trial have a subject. -/
theorem lookup_subject (h : t.Flat) : t.members.lookup "subject" =
    match t.lexicon with
    | some (.sprayLoad l) => some (.str l.subject)
    | _ => none := by
  cases hlexicon : t.lexicon with
  | none =>
    exact h.lookup_members_eq_none (by
      simp [fields, hlexicon, headFields, Presentation.shownFields])
  | some lexicon =>
    cases lexicon with
    | swarm l =>
      exact h.lookup_members_eq_none (by
        simp [fields, hlexicon, headFields, Presentation.shownFields, Lexicon.fields,
          SwarmLexicon.fields])
    | sprayLoad l =>
      exact h.lookup_members (by
        simp [fields, hlexicon, Lexicon.fields, SprayLoadLexicon.fields, SprayLoadLexicon.members])

/-- Trials in which the same is found under each name have slots of the same kind. -/
theorem sameKind_of_lookup (h : t.Flat) (h' : t'.Flat)
    (hlookup : ∀ key, t.members.lookup key = t'.members.lookup key) :
    Lexicon.SameKind t.lexicon t'.lexicon := by
  have hagent := hlookup "agent"
  have hsubject := hlookup "subject"
  rw [h.lookup_agent, h'.lookup_agent] at hagent
  rw [h.lookup_subject, h'.lookup_subject] at hsubject
  rcases hlexicon : t.lexicon with _ | l | l <;> rcases hlexicon' : t'.lexicon with _ | l' | l' <;>
    rw [hlexicon, hlexicon'] at hagent hsubject
  · exact .none
  · exact nomatch hagent
  · exact nomatch hsubject
  · exact nomatch hagent
  · exact .swarm l l'
  · exact nomatch hagent
  · exact nomatch hsubject
  · exact nomatch hagent
  · exact .sprayLoad l l'

/-- **A trial is told by what is found under each name.** -/
theorem eq_of_lookup (h : t.Flat) (h' : t'.Flat)
    (hlookup : ∀ key, t.members.lookup key = t'.members.lookup key) : t = t' := by
  have hkind := sameKind_of_lookup h h' hlookup
  have hsome := hkind.isSome_eq
  -- Trials of one kind have fields of the same names, so the fields are equal.
  have hfields : t.fields = t'.fields := by
    refine eq_of_lookup_record ?_ (nodup_fields t) (by rwa [← h.members_eq, ← h'.members_eq])
    simp only [fields, List.map_append, hkind.keys_eq, hsome]
    split <;> rfl
  have hlength : (t.lexicon.elim [] Lexicon.fields).length =
      (t'.lexicon.elim [] Lexicon.fields).length := by
    simpa only [List.length_map] using congrArg List.length hkind.keys_eq
  unfold fields at hfields
  simp only [List.append_assoc] at hfields
  obtain ⟨hhead, hfields⟩ := List.append_inj hfields rfl
  obtain ⟨hslots, hfields⟩ := List.append_inj hfields hlength
  obtain ⟨hshown, hlast⟩ := List.append_inj hfields rfl
  have hlexicon := hkind.eq_of_fields hslots
  have hconjunction : t.presentation.conjunction = t'.presentation.conjunction := by
    cases hsome' : t.lexicon.isSome with
    | true => rw [h.conjunction hsome', h'.conjunction (hsome ▸ hsome')]
    | false =>
      rw [← hsome, hsome', if_neg Bool.false_ne_true, if_neg Bool.false_ne_true] at hlast
      have hvalue := (Prod.mk.inj (List.cons.inj hlast).1).2
      exact Option.map_injective Json.str_injective hvalue
  have hpresentation := Presentation.eq_of_shownFields h.keyed h'.keyed hshown hconjunction
  obtain ⟨hmaterials, hitem, hcondition⟩ := eq_of_headFields hhead
  obtain ⟨materialsId, itemId, conditionId, lexicon, presentation⟩ := t
  obtain ⟨materialsId', itemId', conditionId', lexicon', presentation'⟩ := t'
  rw [mk.injEq]
  exact ⟨hmaterials, hitem, hcondition, hlexicon, hpresentation⟩

end Flat

end Trial

/-! ## Floats in the JSON of a trial -/

/-- The JSON of a finite value has finite floats. -/
theorem Value.IsFinite.allFinite_toJson {v : Value} (h : v.IsFinite) : v.toJson.AllFinite := by
  cases v <;> exact h

/-- Members that are all text have no floats. -/
theorem allFinite_texts {α : Type} (key text : α → String) (list : List α) :
    Json.AllFiniteMembers (list.map fun a => (key a, .str (text a))) := by
  rw [Json.allFiniteMembers_iff]
  rintro m hm
  obtain ⟨a, -, rfl⟩ := List.mem_map.1 hm
  trivial

/-- The JSON of critical clauses has no floats. -/
theorem CriticalClauses.allFinite_toJson (c : CriticalClauses) : c.toJson.AllFinite := by
  obtain ⟨agent, location, _ | clause⟩ := c
  · exact ⟨trivial, trivial, trivial⟩
  · exact ⟨trivial, trivial, trivial, trivial⟩

/-- The fields of a lexicon have no floats. -/
theorem Lexicon.allFinite_fields (l : Lexicon) : ∀ f ∈ l.fields, ∀ j ∈ f.2, j.AllFinite := by
  cases l with
  | swarm l =>
    simp [fields, SwarmLexicon.fields, Json.AllFinite, ByRole.toJson, Json.AllFiniteMembers,
      CriticalClauses.allFinite_toJson]
  | sprayLoad l =>
    simp [fields, SprayLoadLexicon.fields, SprayLoadLexicon.members, Json.AllFinite,
      WeightedPhrase.toJson, VerbForms.toJson, Json.AllFiniteMembers, allFinite_texts]

/-- The JSON of sentences has no floats. -/
theorem Sentences.allFinite_toJson (s : Sentences) : s.toJson.AllFinite := by
  cases s with
  | sequence list =>
    rw [toJson, Json.AllFinite, Json.allFiniteItems_iff]
    intro j hj
    obtain ⟨text, -, rfl⟩ := List.mem_map.1 hj
    trivial
  | byRole pair => exact ⟨trivial, trivial, trivial⟩
  | goodBad pair => exact ⟨trivial, trivial, trivial⟩
  | byCondition entries => exact allFinite_texts Prod.fst Prod.snd entries

/-- The JSON of options has no floats. -/
theorem SentenceOptions.allFinite_toJson (o : SentenceOptions) : o.toJson.AllFinite := by
  cases o <;> exact ⟨trivial, trivial, trivial⟩

/-- What is shown has no floats. -/
theorem Presentation.allFinite_shownFields (p : Presentation) :
    ∀ f ∈ p.shownFields, ∀ j ∈ f.2, j.AllFinite := by
  intro f hf
  simp only [shownFields, List.mem_cons, List.not_mem_nil, or_false] at hf
  rcases hf with rfl | rfl | rfl | rfl | rfl | rfl <;> intro j hj <;>
    obtain ⟨a, -, rfl⟩ := Option.map_eq_some_iff.1 hj
  · trivial
  · exact a.allFinite_toJson
  · exact a.allFinite_toJson
  · trivial
  · exact ⟨trivial, trivial, trivial⟩
  · trivial

namespace Trial

/-- All floats of the trial are finite: it has one for its item, and some for its classes. -/
structure IsFinite (t : Trial) : Prop where
  itemId : t.itemId.IsFinite
  classes : ∀ classes, t.conditionId = .filler classes → ∀ v ∈ classes, v.IsFinite

/-- The JSON of the name of a finite trial has finite floats. -/
theorem IsFinite.conditionId {t : Trial} (h : t.IsFinite) : t.conditionId.toJson.AllFinite := by
  cases hcondition : t.conditionId with
  | experimental c =>
    rw [ConditionId.toJson, Condition.toJson, Json.AllFinite, Json.allFiniteItems_iff]
    intro j hj
    obtain ⟨slot, -, rfl⟩ := List.mem_map.1 hj
    cases slot <;> trivial
  | filler classes =>
    rw [ConditionId.toJson, Json.AllFinite, Json.allFiniteItems_iff]
    intro j hj
    obtain ⟨v, hv, rfl⟩ := List.mem_map.1 hj
    rcases List.mem_cons.1 hv with rfl | hv
    · trivial
    · exact (h.classes classes hcondition v hv).allFinite_toJson

/-- **The JSON of a finite trial** has finite floats. -/
theorem IsFinite.allFinite_toJson {t : Trial} (h : t.IsFinite) (hflat : t.Flat) :
    t.toJson.AllFinite := by
  rw [toJson, hflat.members_eq, Json.AllFinite, Json.allFiniteMembers_record, fields]
  simp only [List.forall_mem_append]
  refine ⟨⟨⟨?_, ?_⟩, t.presentation.allFinite_shownFields⟩, ?_⟩
  · simp [headFields, Json.AllFinite, h.itemId.allFinite_toJson, h.conditionId]
  · cases t.lexicon with
    | none => exact fun _ hf => nomatch hf
    | some l => exact l.allFinite_fields
  · split <;> simp [Json.AllFinite]

/-- **A trial is told by its text**, if its floats are finite. -/
theorem Flat.eq_of_compact {t t' : Trial} (h : t.Flat) (h' : t'.Flat) (hfinite : t.IsFinite)
    (hfinite' : t'.IsFinite) (htext : t.toJson.compact = t'.toJson.compact) : t = t' := by
  have hjson := Json.compact_inj (hfinite.allFinite_toJson h) (hfinite'.allFinite_toJson h') htext
  exact h.eq_of_lookup h' fun key => by rw [Json.obj.inj hjson]

end Trial

end Alternation
