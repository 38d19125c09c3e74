/-
# Resolving placeholders, over any history

`SPEC_FULL` §4.2, Variable Binding Cache: `resolve` and `reset`, over the life of a
cache.

A person who is bound stays bound to the same name: resolving one of their
placeholders draws nothing and changes nothing (`resolve_of_mem`).  A person who is
not bound is given the first unused name that is drawn, or no name at all, and then
the bindings stay as they were (`resolve_of_not_mem`).

A history is any sequence of steps (`Step`), failing ones included.  After it the
bindings record a sound cast, whose ids are those that were bound since the last
reset: each step keeps that (`Step.exists_cast`), and so does a run of steps
(`exists_cast_of_play`, `bindings_of_history`).
-/

import Alternation.Proofs.Names.Bindings
import Alternation.Proofs.Random.Script
import Alternation.Proofs.Run

namespace Alternation

/-! ## Drawing names -/

section

variable {σ : Type} [RandomSource σ] (corpus : NameCorpus)

/-- A name of a gender stands in the list of that gender. -/
theorem always_drawOf (gender : Gender) :
    Always (· ∈ corpus.names gender) (corpus.drawOf gender : StateM σ String) :=
  (always_true _).bind fun _ _ => always_pure (List.getElem_mem _)

/-- A drawn name stands in the list of the gender that is drawn with it. -/
theorem always_draw (gender : Option Gender) :
    Always (fun d => d.1 ∈ corpus.names d.2) (corpus.draw gender : StateM σ (String × Gender)) := by
  have hnamed : ∀ g, Always (fun d => d.1 ∈ corpus.names d.2)
      (do return (← corpus.drawOf g, g) : StateM σ (String × Gender)) := fun g =>
    (always_drawOf corpus g).bind fun _ hname => always_pure hname
  cases gender with
  | some g => exact hnamed g
  | none => exact (always_true _).bind fun g _ => hnamed g

/-- The name that is found is not in use, and goes with its gender. -/
theorem always_drawUnused (used : List String) (draws : Nat) :
    Always (fun r => ∀ d ∈ r, d.1 ∉ used ∧ d.1 ∈ corpus.names d.2)
      (Bindings.drawUnused corpus used draws : StateM σ (Option (String × Gender))) := by
  induction draws with
  | zero => exact always_pure (by simp)
  | succ draws ih =>
    refine (always_draw corpus none).bind fun d hd => ?_
    split
    · exact ih
    · rename_i hunused
      refine always_pure fun d' hd' => ?_
      obtain rfl := Option.some.inj hd'
      exact ⟨hunused, hd⟩

/-- A source that hands out one name for ever, and that name in use: no number of draws
finds another. -/
theorem drawUnused_of_stuck {used : List String} {source : σ} {d : String × Gender}
    (hdraw : (corpus.draw none).run source = (d, source)) (hused : d.1 ∈ used) (draws : Nat) :
    (Bindings.drawUnused corpus used draws).run source = (none, source) := by
  induction draws with
  | zero => rfl
  | succ draws ih =>
    have hrun : (Bindings.drawUnused corpus used (draws + 1)).run source =
        (if ((corpus.draw none).run source).1.1 ∈ used then
            Bindings.drawUnused corpus used draws
          else return some ((corpus.draw none).run source).1).run
            ((corpus.draw none).run source).2 := rfl
    rw [hrun, hdraw, if_pos hused, ih]

end

/-! ## One placeholder -/

/-- What resolving a placeholder of the person answers. -/
def Person.answer (p : Person) (subtype : Option String) : Except RenderError String :=
  match p.text? subtype with
  | some text => .ok text
  | none => .error (.unknownSubtype p.id (subtype.getD ""))

section

variable {σ : Type} [RandomSource σ] {corpus : NameCorpus} {cast : Cast} {scene : Scene σ}

/-- What bindings hold for a person of the cast is what the person answers. -/
theorem boundText_eq {b : Bindings} (records : b.Records cast) (sound : cast.Sound corpus)
    {p : Person} (hp : p ∈ cast) (subtype : Option String) :
    Rendering.boundText b p.id subtype = p.answer subtype := by
  have hget := records.get?_eq sound hp subtype
  unfold Rendering.boundText Person.answer
  cases htext : p.text? subtype with
  | none => simp only [hget, htext]
  | some text => simp only [hget, htext]

/-- **A person who is bound:** nothing is drawn and nothing changes. -/
theorem resolve_of_mem (records : scene.bindings.Records cast) (sound : cast.Sound corpus)
    {p : Person} (hp : p ∈ cast) (subtype : Option String) :
    (Rendering.resolve corpus p.id subtype).run.run scene = (p.answer subtype, scene) := by
  have hbound := (records.contains_iff sound (sound.digits p hp)).2 ⟨p, hp, rfl⟩
  show (if _ then _ else _) = _
  rw [if_pos hbound, boundText_eq records sound hp]

/-- **A person who is not bound** is given a name that nobody has, or the bindings
stay as they were. -/
theorem resolve_of_not_mem (records : scene.bindings.Records cast) (sound : cast.Sound corpus)
    {id : String} (hid : DigitsOnly id) (fresh : id ∉ cast.map Person.id)
    (subtype : Option String) :
    ∃ source', (Rendering.resolve corpus id subtype).run.run scene =
        (.error (.namesExhausted Bindings.maxDraws), ⟨scene.bindings, source'⟩) ∨
      ∃ name gender bindings', (cast ++ [⟨id, name, gender⟩] : Cast).Sound corpus ∧
        bindings'.Records (cast ++ [⟨id, name, gender⟩]) ∧
        (Rendering.resolve corpus id subtype).run.run scene =
          (Person.answer ⟨id, name, gender⟩ subtype, ⟨bindings', source'⟩) := by
  have hbound : ¬ scene.bindings.texts.contains (Bindings.key id none) = true := fun h => by
    obtain ⟨p, hp, hpid⟩ := (records.contains_iff sound hid).1 h
    exact fresh (hpid ▸ List.mem_map_of_mem hp)
  have hdraw := always_drawUnused (σ := σ) corpus scene.bindings.names Bindings.maxDraws
    scene.source
  rcases hd : (Bindings.drawUnused corpus scene.bindings.names Bindings.maxDraws).run
    scene.source with ⟨_ | ⟨name, gender⟩, source'⟩
  · refine ⟨source', .inl ?_⟩
    show (if _ then _ else _) = _
    rw [if_neg hbound]
    simp only [hd]
  · rw [hd] at hdraw
    obtain ⟨hunused, hnamed⟩ := hdraw _ rfl
    have hname : name ∉ cast.map Person.name := fun h => by
      obtain ⟨p, hp, hpn⟩ := List.mem_map.1 h
      exact hunused ((records.names name).2 ⟨p, hp, hpn.symm⟩)
    have hsound : (cast ++ [⟨id, name, gender⟩] : Cast).Sound corpus :=
      sound.concat hid fresh hname hnamed
    have hrecords := records.bind sound hid fresh name gender
    refine ⟨source', .inr ⟨name, gender, _, hsound, hrecords, ?_⟩⟩
    have hp : (⟨id, name, gender⟩ : Person) ∈ (cast ++ [⟨id, name, gender⟩] : Cast) := by simp
    show (if _ then _ else _) = _
    rw [if_neg hbound]
    simp only [hd]
    exact Prod.ext (boundText_eq hrecords hsound hp subtype) rfl

/-- A person who is not bound, and a source that hands out one name in use for ever: the
draws are made in vain, and everything stays as it was. -/
theorem resolve_of_stuck {b : Bindings} {source : σ} {id : String} {d : String × Gender}
    (hid : b.texts.contains (Bindings.key id none) = false)
    (hdraw : (corpus.draw none).run source = (d, source)) (hused : d.1 ∈ b.names)
    (subtype : Option String) :
    (Rendering.resolve corpus id subtype).run.run ⟨b, source⟩ =
      (.error (.namesExhausted Bindings.maxDraws), ⟨b, source⟩) := by
  show (if _ then _ else _) = _
  rw [hid, if_neg Bool.false_ne_true]
  simp only [drawUnused_of_stuck corpus hdraw hused]

end

/-! ## Histories -/

/-- What can be asked of the bindings of a trial. -/
inductive Step where
  | resolve (id : String) (subtype : Option String)
  | reset
deriving DecidableEq, Repr

namespace Step

/-- The id of the step, if it has one, is made of digits. -/
def DigitId : Step → Prop
  | resolve id _ => DigitsOnly id
  | reset => True

/-- Takes the step; a reset has no text to answer. -/
def run {σ : Type} [RandomSource σ] (corpus : NameCorpus) : Step → Rendering σ (Option String)
  | resolve id subtype => some <$> Rendering.resolve corpus id subtype
  | reset => (fun _ => none) <$> Rendering.reset

end Step

/-- A step and what it answered. -/
abbrev Event := Step × Except RenderError (Option String)

/-- The ids bound since the last reset, after one more event: a person is bound
unless no name was found. -/
def boundAfter (ids : List String) : Event → List String
  | (.reset, _) => []
  | (.resolve _ _, .error (.namesExhausted _)) => ids
  | (.resolve id _, _) => if id ∈ ids then ids else ids ++ [id]

section

variable {σ : Type} [RandomSource σ] (corpus : NameCorpus)

/-- Takes the steps one by one, whether they fail or not. -/
def play : List Step → Scene σ → List Event × Scene σ
  | [], scene => ([], scene)
  | step :: steps, scene =>
    let taken := (step.run corpus).run.run scene
    let rest := play steps taken.2
    ((step, taken.1) :: rest.1, rest.2)

/-- A history is played on from where its first part has led to. -/
theorem play_append (first second : List Step) (scene : Scene σ) :
    play corpus (first ++ second) scene =
      ((play corpus first scene).1 ++ (play corpus second (play corpus first scene).2).1,
        (play corpus second (play corpus first scene).2).2) := by
  induction first generalizing scene with
  | nil => rfl
  | cons step first ih => simp only [List.cons_append, play, ih]

end

section

variable {σ : Type} [RandomSource σ] {corpus : NameCorpus} {cast : Cast} {scene : Scene σ}

/-- Resolving a placeholder as a step: its text is answered, and the scene is the same. -/
theorem run_resolve (id : String) (subtype : Option String) (scene : Scene σ) :
    ((Step.resolve id subtype).run corpus).run.run scene =
      (((Rendering.resolve corpus id subtype).run.run scene).1.map some,
        ((Rendering.resolve corpus id subtype).run.run scene).2) := by
  show ((some <$> Rendering.resolve corpus id subtype).run.run scene) = _
  rw [ExceptT.run_map]
  rfl

/-- Whoever answers is bound, whether the answer means something or not. -/
theorem boundAfter_answer (p : Person) (ids : List String) (subtype : Option String) :
    boundAfter ids (.resolve p.id subtype, (p.answer subtype).map some) =
      if p.id ∈ ids then ids else ids ++ [p.id] := by
  unfold Person.answer
  split <;> rfl

/-- **One step** keeps the record of a sound cast; only a reset drops anybody. -/
theorem Step.exists_cast (records : scene.bindings.Records cast) (sound : cast.Sound corpus)
    {step : Step} (digit : step.DigitId) :
    ∃ cast' : Cast, cast'.Sound corpus ∧
      ((step.run corpus).run.run scene).2.bindings.Records cast' ∧
      cast'.map Person.id =
        boundAfter (cast.map Person.id) (step, ((step.run corpus).run.run scene).1) ∧
      (step ≠ .reset → cast ⊆ cast') := by
  cases step with
  | reset => exact ⟨[], Cast.sound_nil corpus, Bindings.records_empty, rfl, fun h => absurd rfl h⟩
  | resolve id subtype =>
    rw [run_resolve]
    by_cases hid : id ∈ cast.map Person.id
    · obtain ⟨p, hp, rfl⟩ := List.mem_map.1 hid
      rw [resolve_of_mem records sound hp]
      refine ⟨cast, sound, records, ?_, fun _ => List.Subset.refl _⟩
      rw [boundAfter_answer, if_pos hid]
    · obtain ⟨source', hrun | ⟨name, gender, b, hsound, hrecords, hrun⟩⟩ :=
        resolve_of_not_mem records sound digit hid subtype
      · rw [hrun]
        exact ⟨cast, sound, records, rfl, fun _ => List.Subset.refl _⟩
      · rw [hrun]
        refine ⟨_, hsound, hrecords, ?_, fun _ => List.subset_append_left _ _⟩
        rw [boundAfter_answer ⟨id, name, gender⟩, if_neg hid, List.map_append]
        rfl

/-- **A run of steps** keeps the record of a sound cast, by induction on the steps. -/
theorem exists_cast_of_play {steps : List Step} (records : scene.bindings.Records cast)
    (sound : cast.Sound corpus) (digits : ∀ step ∈ steps, step.DigitId) :
    ∃ cast' : Cast, cast'.Sound corpus ∧ (play corpus steps scene).2.bindings.Records cast' ∧
      cast'.map Person.id =
        (play corpus steps scene).1.foldl boundAfter (cast.map Person.id) ∧
      (.reset ∉ steps → cast ⊆ cast') := by
  induction steps generalizing scene cast with
  | nil => exact ⟨cast, sound, records, rfl, fun _ => List.Subset.refl _⟩
  | cons step steps ih =>
    obtain ⟨middle, hsound, hrecords, hids, hsub⟩ :=
      Step.exists_cast records sound (digits step (List.mem_cons_self ..))
    obtain ⟨cast', hsound', hrecords', hids', hsub'⟩ :=
      ih hrecords hsound fun s hs => digits s (List.mem_cons_of_mem _ hs)
    refine ⟨cast', hsound', hrecords', ?_, fun hreset => ?_⟩
    · rw [hids', hids]
      rfl
    · rw [List.mem_cons, not_or] at hreset
      exact List.Subset.trans (hsub (Ne.symm hreset.1)) (hsub' hreset.2)

end

/-- **What the bindings are after any history.**  They record a sound cast, whose
ids are those bound since the last reset.  A bound person's placeholders are then
resolved without drawing or changing anything, whether they mean something or not;
a person who is not bound comes to be the only new one, whether the subtype means
something or not, unless no name is found, and then the bindings stay as they were.
A text that is bound stays bound until a reset. -/
theorem bindings_of_history {σ : Type} [RandomSource σ] (corpus : NameCorpus) (source : σ)
    {steps : List Step} {events : List Event} {scene : Scene σ}
    (digits : ∀ step ∈ steps, step.DigitId)
    (hplay : play corpus steps ⟨.empty, source⟩ = (events, scene)) :
    ∃ cast : Cast, cast.Sound corpus ∧ scene.bindings.Records cast ∧
      cast.map Person.id = events.foldl boundAfter [] ∧
      (∀ p ∈ cast, ∀ subtype,
        (Rendering.resolve corpus p.id subtype).run.run scene = (p.answer subtype, scene)) ∧
      (∀ id subtype, DigitsOnly id → id ∉ cast.map Person.id →
        ∃ source', (Rendering.resolve corpus id subtype).run.run scene =
            (.error (.namesExhausted Bindings.maxDraws), ⟨scene.bindings, source'⟩) ∨
          ∃ name gender bindings', (cast ++ [⟨id, name, gender⟩] : Cast).Sound corpus ∧
            bindings'.Records (cast ++ [⟨id, name, gender⟩]) ∧
            (Rendering.resolve corpus id subtype).run.run scene =
              (Person.answer ⟨id, name, gender⟩ subtype, ⟨bindings', source'⟩)) ∧
      ∀ later : List Step, (∀ step ∈ later, step.DigitId) → .reset ∉ later →
        ∀ key text, scene.bindings.texts.get? key = some text →
          (play corpus later scene).2.bindings.texts.get? key = some text := by
  have hstart : Bindings.Records (Scene.mk Bindings.empty source).bindings [] :=
    Bindings.records_empty
  obtain ⟨cast, sound, records, hids, -⟩ :=
    exists_cast_of_play hstart (Cast.sound_nil corpus) digits
  rw [hplay] at records hids
  refine ⟨cast, sound, records, hids, fun p hp => resolve_of_mem records sound hp,
    fun id subtype hid hfresh => resolve_of_not_mem records sound hid hfresh subtype,
    fun later hlater hreset key text hkey => ?_⟩
  obtain ⟨cast', -, records', -, hsub⟩ := exists_cast_of_play records sound hlater
  exact records.get?_mono records' (hsub hreset) hkey

/-- A corpus of two names. -/
def NameCorpus.tomAndAnn : NameCorpus where
  male := ["Tom"]
  female := ["Ann"]
  male_ne_nil := List.cons_ne_nil _ _
  female_ne_nil := List.cons_ne_nil _ _

/-- On a script that has run out every name that is drawn is Tom. -/
theorem NameCorpus.draw_tomAndAnn : (NameCorpus.tomAndAnn.draw none).run (⟨[]⟩ : Random.Script) =
    (("Tom", .male), ⟨[]⟩) :=
  Prod.ext (by decide +kernel) (by decide +kernel)

/-- Every draw is Tom: after a reset, a first mention that means nothing binds person
1 all the same, and person 2 finds no name in a thousand draws. -/
theorem bindings_of_history_of_toms : ∃ (scene : Scene Random.Script) (cast : Cast),
    play .tomAndAnn [.resolve "2" (some "POSS"), .reset, .resolve "1" (some "OBJ"),
        .resolve "1" none, .resolve "2" none] ⟨.empty, ⟨[]⟩⟩ =
      ([(.resolve "2" (some "POSS"), .ok (some "his")), (.reset, .ok none),
        (.resolve "1" (some "OBJ"), .error (.unknownSubtype "1" "OBJ")),
        (.resolve "1" none, .ok (some "Tom")),
        (.resolve "2" none, .error (.namesExhausted 1000))], scene) ∧
      cast.Sound .tomAndAnn ∧ scene.bindings.Records cast ∧ cast.map Person.id = ["1"] := by
  have hbound : play .tomAndAnn [.resolve "2" (some "POSS"), .reset, .resolve "1" (some "OBJ"),
        .resolve "1" none] (⟨.empty, ⟨[]⟩⟩ : Scene Random.Script) =
      ([(.resolve "2" (some "POSS"), .ok (some "his")), (.reset, .ok none),
        (.resolve "1" (some "OBJ"), .error (.unknownSubtype "1" "OBJ")),
        (.resolve "1" none, .ok (some "Tom"))], ⟨Bindings.empty.bind "1" "Tom" .male, ⟨[]⟩⟩) :=
    Prod.ext (by decide +kernel) rfl
  have hstuck : play .tomAndAnn [.resolve "2" none]
        (⟨Bindings.empty.bind "1" "Tom" .male, ⟨[]⟩⟩ : Scene Random.Script) =
      ([(.resolve "2" none, .error (.namesExhausted 1000))],
        ⟨Bindings.empty.bind "1" "Tom" .male, ⟨[]⟩⟩) := by
    have hunbound : (Bindings.empty.bind "1" "Tom" .male).texts.contains
        (Bindings.key "2" none) = false := by decide +kernel
    have hresolve := resolve_of_stuck hunbound NameCorpus.draw_tomAndAnn
      (List.mem_singleton_self "Tom") none
    simp only [play, run_resolve, hresolve]
    rfl
  have hplay := play_append .tomAndAnn [.resolve "2" (some "POSS"), .reset,
    .resolve "1" (some "OBJ"), .resolve "1" none] [.resolve "2" none]
    (⟨.empty, ⟨[]⟩⟩ : Scene Random.Script)
  rw [hbound, hstuck] at hplay
  obtain ⟨cast, sound, records, hids, -⟩ := bindings_of_history _ _ (by
    simp [Step.DigitId, DigitsOnly]) hplay
  exact ⟨_, cast, hplay, sound, records, hids⟩

end Alternation
