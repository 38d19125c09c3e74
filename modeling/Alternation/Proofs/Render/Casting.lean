/-
# One cast for all the texts of a trial

`SPEC_FULL` §4.2 and §4.3: repeats resolve identically, and different persons have
different names.

Under a cast, a text shows each placeholder as the name or the possessive of its
person, and everything else as it is written (`Cast.expand?`).

`Casts corpus P m` says that a run of `m` keeps the record of a sound cast, adding
persons only, and that what it yields satisfies `P` under the cast it ends with and
every longer one.  So what is rendered early in a trial is explained by the cast at its
end (`Casts.bind`).  The other rules follow the monad too (`casts_pure`, `casts_check`),
or read the texts of an item (`casts_process`, `casts_processOptional`).
-/

import Alternation.Proofs.Render.Resolve

namespace Alternation
namespace Cast

/-! ## Texts under a cast -/

/-- The person of an id. -/
def find? (cast : Cast) (id : String) : Option Person := List.find? (fun p => p.id = id) cast

/-- What a segment shows; a placeholder shows something if its person is in the cast
and its subtype means something. -/
def segment? (cast : Cast) : Segment → Option String
  | .literal text => some text
  | .person p => (cast.find? p.id).bind (·.text? p.subtype)

/-- What segments show, one after the other. -/
def segments? (cast : Cast) : List Segment → Option String
  | [] => some ""
  | s :: rest => do return (← cast.segment? s) ++ (← segments? cast rest)

/-- What a text shows: every placeholder replaced, and nothing else changed. -/
def expand? (cast : Cast) (text : String) : Option String := cast.segments? (Segment.parse text)

/-- The text of the field, with its placeholders replaced. -/
def Fills (cast : Cast) (item : Item) (field text : String) : Prop :=
  ∃ raw, item.text? field = some raw ∧ cast.expand? raw = some text

/-- The same for a field that may be missing, which counts as empty then. -/
def FillsOptional (cast : Cast) (item : Item) (field text : String) : Prop :=
  cast.expand? ((item.text? field).getD "") = some text

/-- Whoever is found stays the same when persons are added. -/
theorem find?_append {cast : Cast} {id : String} {p : Person} (h : cast.find? id = some p)
    (more : Cast) : find? (cast ++ more) id = some p := by
  unfold find? at h ⊢
  rw [List.find?_append, h]
  rfl

/-- In a sound cast a person is found by the id. -/
theorem find?_of_mem {corpus : NameCorpus} {cast : Cast} (sound : cast.Sound corpus) {p : Person}
    (hp : p ∈ cast) : cast.find? p.id = some p := by
  unfold find?
  cases hfind : List.find? (fun q => q.id = p.id) cast with
  | none =>
    have hnone := List.find?_eq_none.1 hfind p hp
    simp at hnone
  | some q =>
    have hid := List.find?_some hfind
    have hq : q ∈ cast := List.mem_of_find?_eq_some hfind
    rw [List.inj_on_of_nodup_map sound.ids_nodup hq hp (of_decide_eq_true hid)]

/-- Segments show something just if each of them does. -/
theorem segments?_cons_eq_some_iff {cast : Cast} {s : Segment} {rest : List Segment}
    {text : String} :
    cast.segments? (s :: rest) = some text ↔ ∃ first others, cast.segment? s = some first ∧
      cast.segments? rest = some others ∧ text = first ++ others := by
  simp only [segments?, bind, pure, Option.bind_eq_some_iff, Option.some.injEq]
  constructor
  · rintro ⟨first, hfirst, others, hothers, rfl⟩
    exact ⟨first, others, hfirst, hothers, rfl⟩
  · rintro ⟨first, others, hfirst, hothers, rfl⟩
    exact ⟨first, hfirst, others, hothers, rfl⟩

/-- The empty text shows nothing. -/
theorem expand?_empty (cast : Cast) : cast.expand? "" = some "" := by
  have hparse : Segment.parse "" = [] := (Segment.splits_nil).parse_eq
  rw [expand?, hparse]
  rfl

end Cast

/-! ## Renderings under a cast -/

section

variable {σ α β : Type} {corpus : NameCorpus} {P : Cast → α → Prop}

/-- A run keeps the record of a sound cast and adds persons only; what it yields
satisfies `P` under the cast it ends with, and under every longer one. -/
def Casts (corpus : NameCorpus) (P : Cast → α → Prop) (m : Rendering σ α) : Prop :=
  ∀ (cast : Cast) (scene : Scene σ) (a : α) (scene' : Scene σ),
    scene.bindings.Records cast → cast.Sound corpus → Yields m scene a scene' →
      ∃ more : Cast, scene'.bindings.Records (cast ++ more) ∧ (cast ++ more).Sound corpus ∧
        ∀ later : Cast, P (cast ++ more ++ later) a

/-- A run that leaves the scene as it is adds nobody. -/
theorem casts_of_unchanged {m : Rendering σ α}
    (h : ∀ scene a scene', Yields m scene a scene' → scene' = scene ∧ ∀ cast, P cast a) :
    Casts corpus P m := by
  intro cast scene a scene' records sound hm
  obtain ⟨rfl, ha⟩ := h _ _ _ hm
  refine ⟨[], ?_, ?_, fun later => ha _⟩
  · rwa [List.append_nil]
  · rwa [List.append_nil]

/-- A result that is given is the same under every cast. -/
theorem casts_pure (a : α) : Casts corpus (fun _ b => b = a) (pure a : Rendering σ α) :=
  casts_of_unchanged fun _ _ _ h => ⟨(yields_pure_iff.1 h).2, fun _ => (yields_pure_iff.1 h).1⟩

/-- What a check comes to is the same under every cast. -/
theorem casts_check (r : Except RenderError α) :
    Casts corpus (fun _ a => r = .ok a) (Rendering.check r : Rendering σ α) :=
  casts_of_unchanged fun _ _ _ h => ⟨(yields_check_iff.1 h).2, fun _ => (yields_check_iff.1 h).1⟩

/-- What follows from a reading is a reading. -/
theorem Casts.mono {Q : Cast → α → Prop} {m : Rendering σ α} (hm : Casts corpus P m)
    (h : ∀ cast a, P cast a → Q cast a) : Casts corpus Q m := by
  intro cast scene a scene' records sound hrun
  obtain ⟨more, records', sound', hP⟩ := hm cast scene a scene' records sound hrun
  exact ⟨more, records', sound', fun later => h _ _ (hP later)⟩

/-- **The rule of sequence:** under the cast at the end, both parts are explained. -/
theorem Casts.bind {Q : α → Cast → β → Prop} {m : Rendering σ α} {f : α → Rendering σ β}
    (hm : Casts corpus P m) (hf : ∀ a, Casts corpus (Q a) (f a)) :
    Casts corpus (fun cast b => ∃ a, P cast a ∧ Q a cast b) (m >>= f) := by
  intro cast scene b scene'' records sound hrun
  obtain ⟨a, scene', hrunm, hrunf⟩ := yields_bind_iff.1 hrun
  obtain ⟨more, records', sound', hP⟩ := hm cast scene a scene' records sound hrunm
  obtain ⟨more', records'', sound'', hQ⟩ := hf a (cast ++ more) scene' b scene'' records' sound' hrunf
  rw [List.append_assoc] at records'' sound'' hQ
  refine ⟨more ++ more', records'', sound'', fun later => ⟨a, ?_, hQ later⟩⟩
  have h := hP (more' ++ later)
  simp only [List.append_assoc] at h ⊢
  exact h

/-- What is made of a result is made of a result that is read. -/
theorem Casts.map {f : α → β} {m : Rendering σ α} (hm : Casts corpus P m) :
    Casts corpus (fun cast b => ∃ a, P cast a ∧ b = f a) (f <$> m) := by
  rw [← bind_pure_comp]
  exact hm.bind fun a => casts_pure (f a)

/-- **A trial rendered afresh** has one sound cast. -/
theorem Casts.exists_cast {m : Rendering σ α} (hm : Casts corpus P m) {s s' : σ} {a : α}
    (h : Yields m.fresh s a s') : ∃ cast : Cast, cast.Sound corpus ∧ P cast a := by
  obtain ⟨bindings, hrun⟩ := yields_fresh_iff.1 h
  obtain ⟨more, -, sound, hP⟩ :=
    hm [] _ a _ Bindings.records_empty (Cast.sound_nil corpus) hrun
  refine ⟨[] ++ more, sound, ?_⟩
  have hmore := hP []
  rwa [List.append_nil] at hmore

end

/-! ## The texts of an item -/

section

variable {σ : Type} [RandomSource σ] {corpus : NameCorpus}

/-- A person bound to a name shows what the cast says of them. -/
theorem Person.text?_of_answer {p : Person} {subtype : Option String} {text : String}
    (h : p.answer subtype = .ok text) : p.text? subtype = some text := by
  unfold Person.answer at h
  split at h
  · rename_i htext
    rw [htext, Except.ok.inj h]
  · exact nomatch h

/-- **A placeholder** is read as the text of its person under the cast. -/
theorem casts_resolve {id : String} (hid : DigitsOnly id) (subtype : Option String) :
    Casts corpus (fun cast text => (cast.find? id).bind (·.text? subtype) = some text)
      (Rendering.resolve corpus id subtype : Rendering σ String) := by
  intro cast scene text scene' records sound hrun
  by_cases hmem : id ∈ cast.map Person.id
  · obtain ⟨p, hp, rfl⟩ := List.mem_map.1 hmem
    obtain ⟨hanswer, rfl⟩ := Prod.mk.inj ((resolve_of_mem records sound hp subtype).symm.trans hrun)
    refine ⟨[], by rwa [List.append_nil], by rwa [List.append_nil], fun later => ?_⟩
    have hfind := Cast.find?_append (Cast.find?_of_mem sound hp) ([] ++ later)
    rw [List.append_assoc]
    exact Option.bind_eq_some_iff.2 ⟨p, hfind, Person.text?_of_answer hanswer⟩
  · obtain ⟨source', hfail | ⟨name, gender, b, sound', records', hfresh⟩⟩ :=
      resolve_of_not_mem records sound hid hmem subtype
    · exact nomatch (Prod.mk.inj (hfail.symm.trans hrun)).1
    · obtain ⟨hanswer, rfl⟩ := Prod.mk.inj (hfresh.symm.trans hrun)
      refine ⟨[⟨id, name, gender⟩], records', sound', fun later => ?_⟩
      have hp : (⟨id, name, gender⟩ : Person) ∈ cast ++ [⟨id, name, gender⟩] := by simp
      have hfind := Cast.find?_append (Cast.find?_of_mem sound' hp) later
      exact Option.bind_eq_some_iff.2 ⟨_, hfind, Person.text?_of_answer hanswer⟩

/-- A segment is read as what it shows under the cast. -/
theorem casts_segment {s : Segment} (hs : ∀ p, s = .person p → DigitsOnly p.id) :
    Casts corpus (fun cast text => cast.segment? s = some text)
      (Rendering.segment corpus s : Rendering σ String) := by
  cases s with
  | literal run => exact (casts_pure run).mono fun _ _ h => by rw [h]; rfl
  | person p => exact casts_resolve (hs p rfl) p.subtype

/-- Segments are read one after the other, all under one cast. -/
theorem casts_segments {segs : List Segment} (hsegs : ∀ p, .person p ∈ segs → DigitsOnly p.id) :
    Casts corpus (fun cast text => cast.segments? segs = some text)
      (Rendering.segments corpus segs : Rendering σ String) := by
  induction segs with
  | nil => exact (casts_pure "").mono fun _ _ h => by rw [h]; rfl
  | cons s rest ih =>
    have hfirst : Casts corpus (fun cast text => cast.segment? s = some text)
        (Rendering.segment corpus s : Rendering σ String) :=
      casts_segment fun p hp => hsegs p (hp ▸ List.mem_cons_self ..)
    have hothers := ih fun p hp => hsegs p (List.mem_cons_of_mem _ hp)
    refine (hfirst.bind fun first => hothers.bind fun others => casts_pure (first ++ others)).mono ?_
    rintro cast text ⟨first, hs, others, hrest, rfl⟩
    exact Cast.segments?_cons_eq_some_iff.2 ⟨first, others, hs, hrest, rfl⟩

/-- A text is read as what it shows under the cast. -/
theorem casts_substitute (raw : String) :
    Casts corpus (fun cast text => cast.expand? raw = some text)
      (Rendering.substitute corpus raw : Rendering σ String) :=
  casts_segments fun _ hp => (Segment.wellFormed_of_mem_parse hp).id_digits

/-- A field that is required and read holds its text. -/
theorem Item.text?_of_requireText {item : Item} {field raw : String}
    (h : item.requireText field = .ok raw) : item.text? field = some raw := by
  unfold Item.requireText at h
  split at h
  · rename_i htext
    rw [Item.text?, htext, ← Except.ok.inj h]
    rfl
  · exact nomatch h
  · exact nomatch h

/-- **A field that is read** shows its text under the cast. -/
theorem casts_process (item : Item) (field : String) :
    Casts corpus (fun cast text => cast.Fills item field text)
      (Rendering.process corpus item field : Rendering σ String) := by
  refine ((casts_check _).bind fun raw => casts_substitute raw).mono ?_
  rintro cast text ⟨raw, hraw, htext⟩
  exact ⟨raw, Item.text?_of_requireText hraw, htext⟩

/-- A field that may be missing is read as what it shows, or as nothing. -/
theorem casts_processOptional (item : Item) (field : String) :
    Casts corpus (fun cast text => cast.FillsOptional item field (text.getD ""))
      (Rendering.processOptional corpus item field : Rendering σ (Option String)) := by
  unfold Rendering.processOptional Cast.FillsOptional
  cases item.text? field with
  | none => exact (casts_pure none).mono fun cast _ h => by rw [h]; exact cast.expand?_empty
  | some raw =>
    dsimp only
    by_cases hraw : raw = ""
    · rw [if_pos hraw]
      exact (casts_pure none).mono fun cast _ h => by rw [h, hraw]; exact cast.expand?_empty
    · rw [if_neg hraw]
      refine (casts_substitute raw).map.mono ?_
      rintro cast _ ⟨text, htext, rfl⟩
      exact htext

end
end Alternation
