/-
# Texts that mention more persons than there are names

`SPEC_FULL` §4.2: the persons that a trial mentions, and the names of its cache.

Whatever a trial reads is read with one cast (`Recipe.casts_build`), and every text that it
demands of its item shows something under that cast (`Recipe.met_of_filled`): the fields of
the slots, of the clauses, of the pronouns, and so on, one lemma for each part.  So every
person whom these texts mention has got a name of their own.

A corpus with fewer names that differ than that is too small for the trial, for good
(`supply_of_names`): no draws will do.
-/

import Alternation.Proofs.Experiment.Casting
import Alternation.Proofs.Experiment.Demand
import Alternation.Proofs.Names.Supply

namespace Alternation

namespace Demand

/-- Every text that is rendered shows something under the cast. -/
structure Shown (d : Demand) (cast : Cast) (item : Item) : Prop where
  rendered : ∀ field ∈ d.rendered, ∃ text, cast.Fills item field text
  optional : ∀ field ∈ d.optional, ∃ text, cast.FillsOptional item field text

/-- The ids of the persons whom the texts mention that are rendered. -/
def mentions (d : Demand) (item : Item) : List String :=
  (d.rendered ++ d.optional).flatMap fun field =>
    Alternation.mentions ((item.text? field).getD "")

variable {d d' : Demand} {cast : Cast} {item : Item}

/-- A demand of nothing is shown. -/
theorem shown_empty (cast : Cast) (item : Item) : (∅ : Demand).Shown cast item where
  rendered := nofun
  optional := nofun

/-- Fields that are not rendered have nothing to show. -/
theorem shown_of_not_rendered (written : List String) (words : List (String × List String))
    (present : List String) :
    Demand.Shown { written := written, words := words, present := present } cast item where
  rendered := nofun
  optional := nofun

/-- A field that is filled is shown. -/
theorem shown_field {field text : String} (h : cast.Fills item field text) :
    Demand.Shown { rendered := [field] } cast item where
  rendered := List.forall_mem_singleton.2 ⟨text, h⟩
  optional := nofun

/-- A field that may be missing is shown if it is filled. -/
theorem shown_optional {field text : String} (h : cast.FillsOptional item field text) :
    Demand.Shown { optional := [field] } cast item where
  rendered := nofun
  optional := List.forall_mem_singleton.2 ⟨text, h⟩

/-- Two demands that are shown are shown together. -/
theorem Shown.append (h : d.Shown cast item) (h' : d'.Shown cast item) :
    (d ++ d').Shown cast item where
  rendered := List.forall_mem_append.2 ⟨h.rendered, h'.rendered⟩
  optional := List.forall_mem_append.2 ⟨h.optional, h'.optional⟩

/-- **Whoever is mentioned is in the cast.** -/
theorem Shown.exists_person (h : d.Shown cast item) :
    ∀ id ∈ d.mentions item, ∃ p ∈ cast, p.id = id := by
  intro id hid
  obtain ⟨field, hfield, hmention⟩ := List.mem_flatMap.1 hid
  rcases List.mem_append.1 hfield with hfield | hfield
  · obtain ⟨text, raw, hraw, htext⟩ := h.rendered field hfield
    rw [hraw] at hmention
    exact Cast.exists_person_of_expand? htext id hmention
  · obtain ⟨text, htext⟩ := h.optional field hfield
    exact Cast.exists_person_of_expand? htext id hmention

end Demand

/-! ## The swarm alternation -/

namespace Swarm

open Demand

variable {cast : Cast} {item : Item}

/-- The slots show their fields. -/
theorem SlotsFilled.shown {slots : Slots} (h : SlotsFilled cast item slots) :
    slotDemand.Shown cast item :=
  (shown_field h.agent).append <| (shown_field h.location).append <|
    (shown_field h.verb).append <| (shown_field h.locationDeterminer).append <|
    (shown_field h.preposition).append <| (shown_field h.promptPreposition).append <|
    shown_field h.conjunction

/-- Two clauses by role show a field each. -/
theorem RolesFilled.shown {agentField locationField : String} {clauses : ByRole String}
    (h : RolesFilled cast item agentField locationField clauses) :
    Demand.Shown { rendered := [agentField, locationField] } cast item :=
  (shown_field h.agent).append (shown_field h.location)

/-- The pronouns show their fields. -/
theorem PronounsFilled.shown {pronouns : Pronouns} (h : PronounsFilled cast item pronouns) :
    Demand.Shown { rendered := ["given A pron subj", "given A pron obj", "given L pron subj",
      "given L pron obj"] } cast item :=
  (shown_field h.agentSubject).append <| (shown_field h.agentObject).append <|
    (shown_field h.locationSubject).append <| shown_field h.locationObject

/-- The clause that does not alternate shows the fields that it reads. -/
theorem shown_nonalternating {slots : Slots} {pronouns : Pronouns} {agentGiven : Bool}
    {clause : String} (h : NonalternatingFilled cast item slots pronouns agentGiven clause) :
    (nonalternatingDemand agentGiven).Shown cast item := by
  obtain ⟨predicate, hpredicate, hrest⟩ := h
  cases agentGiven with
  | true =>
    obtain ⟨particle, hparticle, -⟩ := hrest
    exact (shown_field hpredicate).append (shown_field hparticle)
  | false =>
    obtain ⟨determiner, place, hdeterminer, hplace, -⟩ := hrest
    exact (shown_field hpredicate).append ((shown_optional hdeterminer).append (shown_field hplace))

/-- A control shows what it reads, and where there is none, nothing is read. -/
theorem shown_control {nonalternating agentGiven : Bool} {slots : Slots} {pronouns : Pronouns}
    {control : Option String}
    (h : ControlFilled cast item nonalternating slots pronouns agentGiven control) :
    (controlDemand nonalternating agentGiven).Shown cast item := by
  cases nonalternating with
  | true =>
    obtain ⟨clause, -, hclause⟩ := h
    exact shown_nonalternating hclause
  | false => exact shown_empty cast item

/-- The clauses of a frame show the fields of the frame. -/
theorem shown_clauses {frame : Frame} {c : Condition} {slots : Slots}
    {clauses : Lead × CriticalClauses} (h : ClausesFilled cast item c slots frame clauses) :
    (frameDemand frame c).Shown cast item := by
  cases frame with
  | topic =>
    obtain ⟨leads, -, hleads, -⟩ := h
    exact hleads.shown
  | given nonalternating =>
    obtain ⟨pronouns, leads, agentGiven, control, -, hpronouns, hleads, hgiven, hcontrol, -⟩ := h
    rw [Condition.eq_of_requireFlag hgiven] at hcontrol
    exact (hpronouns.shown.append hleads.shown).append (shown_control hcontrol)

/-- **A trial of the swarm alternation** shows what it reads. -/
theorem shown_of_filled {frame : Frame} {task : Task} {c : Condition} {trial : Trial}
    (h : TrialFilled cast item frame task c trial) : (demand frame c).Shown cast item := by
  obtain ⟨lexicon, -, hlexicon, -⟩ := h
  exact (hlexicon.slots.shown.append (shown_clauses hlexicon.clauses)).append
    (shown_of_not_rendered ..)

end Swarm

/-! ## The spray-load alternation -/

namespace SprayLoad

open Demand

variable {cast : Cast} {item : Item}

/-- A phrase shows its two forms. -/
theorem PhraseFilled.shown {lightField heavyField flagField : String} {phrase : WeightedPhrase}
    (h : PhraseFilled cast item lightField heavyField flagField phrase) :
    Demand.Shown { rendered := [lightField, heavyField] } cast item :=
  (shown_field h.light).append (shown_field h.heavy)

/-- A verb shows its three forms. -/
theorem VerbFilled.shown {verb : VerbForms} (h : VerbFilled cast item verb) :
    Demand.Shown { rendered := ["V", "V pres", "V past simp"] } cast item :=
  (shown_field h.base).append <| (shown_field h.present).append <| shown_field h.pastSimple

/-- The lexicon shows its fields. -/
theorem LexiconFilled.shown {lexicon : SprayLoadLexicon} (h : LexiconFilled cast item lexicon) :
    lexicalDemand.Shown cast item :=
  (shown_field h.subject).append <| h.theme.shown.append <| h.location.shown.append <|
    h.verb.shown.append <| (shown_field h.preposition).append <|
    (shown_optional h.promptPreposition).append <| shown_of_not_rendered ..

/-- **A trial of the spray-load alternation** shows what it reads. -/
theorem shown_of_filled {task : Task} {c : Condition} {trial : Trial}
    (h : TrialFilled cast item task c trial) : (demand task).Shown cast item := by
  obtain ⟨lexicon, -, hlexicon, -⟩ := h
  have htask : (taskDemand task).Shown cast item := by
    cases task with
    | constructionMeaning images => exact shown_of_not_rendered ..
    | weight => exact shown_empty cast item
  exact (hlexicon.shown.append htask).append (shown_of_not_rendered ..)

end SprayLoad

/-! ## Fillers -/

namespace Fillers

open Demand

variable {cast : Cast} {item : Item}

/-- A balanced filler shows what it reads. -/
theorem shown_of_balanced {format : BalancedFormat} {trial : Trial}
    (h : BalancedFilled cast item format trial) : (balancedDemand format).Shown cast item := by
  obtain ⟨text, htext, hrest⟩ := h
  refine ((shown_field htext).append ?_).append (shown_of_not_rendered ..)
  cases format with
  | prompted | promptedSequence =>
    obtain ⟨prompt, hprompt, -⟩ := hrest
    exact shown_field hprompt
  | acceptability => exact shown_empty cast item
  | slider =>
    obtain ⟨greatest, scaleType, prompt, hgreatest, -, hprompt, -⟩ := hrest
    exact (shown_field hgreatest).append ((shown_field hprompt).append (shown_of_not_rendered ..))

/-- A completion shows what it reads. -/
theorem shown_of_completion {join : CompletionJoin} {trial : Trial}
    (h : CompletionFilled cast item join trial) : (completionDemand join).Shown cast item := by
  obtain ⟨lead, good, bad, hlead, hgood, hbad, hrest⟩ := h
  have htexts : Demand.Shown { rendered := ["prefix", "good_completion", "bad_completion"] }
      cast item :=
    (shown_field hlead).append ((shown_field hgood).append (shown_field hbad))
  refine (htexts.append ?_).append (shown_of_not_rendered ..)
  cases join with
  | conjoined =>
    obtain ⟨conj, hconj, -⟩ := hrest
    exact shown_field hconj
  | sentences => exact shown_empty cast item

/-- A pair of options shows what it reads. -/
theorem shown_of_options {trial : Trial} (h : OptionsFilled cast item trial) :
    optionsDemand.Shown cast item := by
  obtain ⟨good, bad, hgood, hbad, -⟩ := h
  exact (shown_field hgood).append ((shown_field hbad).append (shown_of_not_rendered ..))

end Fillers

/-! ## All recipes -/

namespace Recipe

/-- **A trial of any recipe** shows what it reads. -/
theorem shown_of_filled {recipe : Recipe} {cast : Cast} {item : Item} {trial : Trial}
    (h : recipe.Filled cast item trial) : recipe.demand.Shown cast item := by
  cases recipe with
  | experimental kind c =>
    cases kind with
    | swarm frame task space => exact Swarm.shown_of_filled h
    | sprayLoad task space => exact SprayLoad.shown_of_filled h
  | balanced format rating => exact Fillers.shown_of_balanced h
  | completion join => exact Fillers.shown_of_completion h
  | options => exact Fillers.shown_of_options h

/-- **A trial that mentions more persons** than there are names is never rendered. -/
theorem not_yields_build {σ : Type} [RandomSource σ] {corpus : NameCorpus} {recipe : Recipe}
    {item : Item} (hmany : corpus.distinct.card < (recipe.demand.mentions item).toFinset.card)
    (materialsId : String) (source : σ) (trial : Trial) (source' : σ) :
    ¬ Yields (recipe.build corpus item materialsId).fresh source trial source' := by
  intro hrun
  obtain ⟨cast, sound, hfilled⟩ := (casts_build recipe item materialsId).exists_cast hrun
  have hle := sound.card_le (shown_of_filled hfilled).exists_person
  exact absurd hmany (Nat.not_lt.2 hle)

end Recipe

/-- **The supply of names.**  Take any bindings that a history leads to, and somebody who is
not bound.  Asking for them fails for want of names just if the next thousand draws all give
names in use; then these draws have been made and nothing is bound.  Otherwise they have the
first name drawn that is not in use.  The names in use are those of the persons who are
bound, if all ids were made of digits.

So no bindings hold more persons than there are names that differ in both lists together,
and no text and no trial that mentions more persons than that is ever rendered, whatever is
drawn. -/
theorem supply_of_names {σ : Type} [RandomSource σ] {corpus : NameCorpus} {b : Bindings}
    (hb : b.Reached σ corpus) :
    (∀ (id : String) (subtype : Option String) (source : σ), b.get? id none = none →
      let drawn := (corpus.draws 1000).run source
      let asked := (Rendering.resolve corpus id subtype).run.run ⟨b, source⟩
      (asked.1 = .error (.namesExhausted 1000) ↔ ∀ d ∈ drawn.1, d.1 ∈ b.names) ∧
        (asked.1 = .error (.namesExhausted 1000) → asked.2 = ⟨b, drawn.2⟩) ∧
        (asked.1 ≠ .error (.namesExhausted 1000) → ∃ passed name gender source',
          corpus.Finds (· ∈ b.names) 1000 source passed (name, gender) source' ∧
          asked.2 = ⟨b.bind id name gender, source'⟩ ∧
          asked.1 = Rendering.boundText asked.2.bindings id subtype ∧
          asked.2.bindings.get? id none = some name)) ∧
      (b.ReachedByDigits σ corpus → ∀ name, name ∈ b.names ↔ b.Gives name) ∧
      (∀ ids : List String, ids.Nodup → (∀ id ∈ ids, DigitsOnly id ∧ b.get? id none ≠ none) →
        ids.length ≤ corpus.distinct.card) ∧
      (b.ReachedByDigits σ corpus →
        ∀ text : String, corpus.distinct.card < (mentions text).toFinset.card →
          ∀ (source : σ) (out : String) (scene' : Scene σ),
            ¬ Yields (Rendering.substitute corpus text) ⟨b, source⟩ out scene') ∧
      ∀ (recipe : Recipe) (item : Item),
        corpus.distinct.card < (recipe.demand.mentions item).toFinset.card →
          ∀ (materialsId : String) (source : σ) (trial : Trial) (source' : σ),
            ¬ Yields (recipe.build corpus item materialsId).fresh source trial source' := by
  refine ⟨fun id subtype source hunbound => ?_, Bindings.ReachedByDigits.mem_names_iff,
    fun ids => hb.length_le, fun hdigits text => hdigits.not_yields_substitute,
    fun recipe item => Recipe.not_yields_build⟩
  obtain ⟨hall, hrun⟩ | ⟨passed, name, gender, source', hfinds, hrun⟩ :=
    Rendering.resolve_of_unbound corpus hunbound subtype source
  · exact ⟨⟨fun _ => hall, fun _ => congrArg Prod.fst hrun⟩, fun _ => congrArg Prod.snd hrun,
      fun h => absurd (congrArg Prod.fst hrun) h⟩
  · have hresult := congrArg Prod.fst hrun
    have hscene := congrArg Prod.snd hrun
    -- Whoever has a name can still be asked for something that means nothing.
    have hanswer : Rendering.boundText (b.bind id name gender) id subtype ≠
        .error (.namesExhausted 1000) := by
      unfold Rendering.boundText
      split
      · exact nofun
      · exact nofun
    refine ⟨⟨fun h => absurd (hresult.symm.trans h) hanswer,
        fun hall => absurd (hall _ hfinds.mem_draws) hfinds.found_free⟩,
      fun h => absurd (hresult.symm.trans h) hanswer, fun _ => ?_⟩
    refine ⟨passed, name, gender, source', hfinds, hscene, ?_, ?_⟩
    · rw [hrun]
    · rw [hrun]
      exact b.get?_bind_self id name gender

/-- Every draw is Tom. -/
theorem NameCorpus.draws_of_toms (n : Nat) :
    (tomAndAnn.draws n).run (⟨[]⟩ : Random.Script) =
      (List.replicate n ("Tom", .male), ⟨[]⟩) := by
  induction n with
  | zero => rfl
  | succ n ih =>
    have hdraw : (tomAndAnn.draw none).run (⟨[]⟩ : Random.Script) = (("Tom", .male), ⟨[]⟩) := rfl
    rw [run_draws_cons hdraw, ih]
    rfl

/-- A choice between two sentences, about three persons. -/
def threePersons : Item where
  fields := .ofList
    [("good_sentence", .text "%PERSON1% saw %PERSON2%"),
      ("bad_sentence", .text "saw %PERSON2% %PERSON33_POSS%")]

/-- Person 1 is Tom, and every draw is Tom again, so person 2 gets no name; two names are
too few for three persons, whoever is drawn. -/
theorem supply_of_names_of_toms : ∃ b : Bindings, b.get? "1" none = some "Tom" ∧
    (Rendering.resolve .tomAndAnn "2" (some "POSS")).run.run ⟨b, (⟨[]⟩ : Random.Script)⟩ =
      (.error (.namesExhausted 1000), ⟨b, ⟨[]⟩⟩) ∧
    (∀ (source : Random.Script) (out : String) (scene : Scene Random.Script),
      ¬ Yields (Rendering.substitute .tomAndAnn "%PERSON1% %PERSON2% %PERSON3%")
        ⟨b, source⟩ out scene) ∧
    ∀ (source : Random.Script) (trial : Trial) (source' : Random.Script),
      ¬ Yields (Recipe.options.build .tomAndAnn threePersons "").fresh source trial source' := by
  have hdigits : (Bindings.empty.bind "1" "Tom" .male).ReachedByDigits Random.Script .tomAndAnn :=
    ⟨[.resolve "1" none], ⟨[]⟩, by simp [Step.DigitId, DigitsOnly], rfl⟩
  obtain ⟨hresolve, -, -, htext, htrial⟩ := supply_of_names hdigits.reached
  obtain ⟨hfails, hscene, -⟩ := hresolve "2" (some "POSS") ⟨[]⟩ (by decide +kernel)
  rw [NameCorpus.draws_of_toms] at hfails hscene
  have htoms : ∀ d ∈ List.replicate 1000 ("Tom", Gender.male),
      d.1 ∈ (Bindings.empty.bind "1" "Tom" .male).names := fun d hd =>
    (List.eq_of_mem_replicate hd) ▸ List.mem_cons_self ..
  have herror := hfails.2 htoms
  exact ⟨_, by decide +kernel, Prod.ext herror (hscene herror), htext hdigits _ (by decide +kernel),
    htrial .options threePersons (by decide +kernel) ""⟩

end Alternation
