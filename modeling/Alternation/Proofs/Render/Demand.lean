/-
# What a rendering demands of its item

`SPEC_FULL` §4.3 and §7: `require_text`, `require_flag`, `process`, `process_optional`,
and the errors of `resolve`.

A rendering reads some of the fields of an item.  A `Demand` lists them by the way in
which each is read, and an item meets it (`Demand.Met`) when

* every field whose text is read holds text, and a word that is known where only some are,
* every placeholder in a text that is rendered asks for a name or a possessive
  (`Legible`), and
* every other field that is read is there.

`Hinges corpus item served met m` says how a run of `m` can end, from any bindings that
record a sound cast (`Explained`).  A success means `met`; an error that blames the item
means that `met` fails; an error that blames the condition means that `served` fails; and
the only other error is that the names are used up.  So with `served` given, the names
apart, a run succeeds exactly if the item is as it should be.  The rules follow the monad,
a sequence hinging on all that its parts hinge on (`Hinges.bind`), and the readers of
fields (`hinges_process`, `hinges_processOptional`).
-/

import Alternation.Proofs.Render.Casting

namespace Alternation

/-! ## Demands -/

/-- The placeholder asks for the name of its person, or for the possessive. -/
def Placeholder.Known (p : Placeholder) : Prop :=
  p.subtype = none ∨ p.subtype = some Bindings.possessiveSubtype

instance (p : Placeholder) : Decidable p.Known := inferInstanceAs (Decidable (_ ∨ _))

/-- Every placeholder in the text can be replaced. -/
def Legible (text : String) : Prop := ∀ p, .person p ∈ Segment.parse text → p.Known

/-- The segment, if it is a placeholder, can be replaced. -/
def Segment.Known : Segment → Prop
  | literal _ => True
  | person p => p.Known

instance : (s : Segment) → Decidable s.Known
  | .literal _ => inferInstanceAs (Decidable True)
  | .person p => inferInstanceAs (Decidable p.Known)

/-- A text can be replaced in just if each of its segments can be shown. -/
theorem legible_iff {text : String} : Legible text ↔ ∀ s ∈ Segment.parse text, s.Known := by
  constructor
  · intro h s hs
    cases s with
    | literal run => trivial
    | person p => exact h p hs
  · exact fun h p hp => h _ hp

instance (text : String) : Decidable (Legible text) :=
  decidable_of_iff ((Segment.parse text).all (decide ·.Known) = true) (by simp [legible_iff])

/-- The fields that are read. -/
structure Demand where
  /-- Fields that hold text, whose placeholders are replaced. -/
  rendered : List String := []
  /-- Fields that may hold text, whose placeholders are replaced if they do. -/
  optional : List String := []
  /-- Fields that hold text, which is taken as it is written. -/
  written : List String := []
  /-- Fields that hold one of some words. -/
  words : List (String × List String) := []
  /-- Fields that are there, whatever they hold. -/
  present : List String := []
deriving DecidableEq, Repr

namespace Demand

instance : EmptyCollection Demand := ⟨{}⟩

instance : Append Demand where
  append d d' := {
    rendered := d.rendered ++ d'.rendered
    optional := d.optional ++ d'.optional
    written := d.written ++ d'.written
    words := d.words ++ d'.words
    present := d.present ++ d'.present }

/-- The fields that hold text. -/
def texts (d : Demand) : List String := d.rendered ++ d.written

/-- The item has the fields that are read, as they should be. -/
@[mk_iff]
structure Met (d : Demand) (item : Item) : Prop where
  rendered : ∀ field ∈ d.rendered, ∃ text ∈ item.text? field, Legible text
  optional : ∀ field ∈ d.optional, ∀ text ∈ item.text? field, Legible text
  written : ∀ field ∈ d.written, (item.text? field).isSome
  words : ∀ e ∈ d.words, ∃ text ∈ item.text? e.1, text ∈ e.2
  present : ∀ field ∈ d.present, (item.get? field).isSome

/-- Checks the fields of the item. -/
def isMet (d : Demand) (item : Item) : Bool :=
  d.rendered.all (fun field => (item.text? field).any (decide <| Legible ·)) &&
    d.optional.all (fun field => (item.text? field).all (decide <| Legible ·)) &&
    d.written.all (fun field => (item.text? field).isSome) &&
    d.words.all (fun e => (item.text? e.1).any (decide <| · ∈ e.2)) &&
    d.present.all fun field => (item.get? field).isSome

/-- The check of the fields is right. -/
theorem isMet_iff {d : Demand} {item : Item} : d.isMet item = true ↔ d.Met item := by
  simp [isMet, met_iff, and_assoc, Option.any_eq_true, Option.all_eq_true]

instance (d : Demand) (item : Item) : Decidable (d.Met item) := decidable_of_iff _ isMet_iff

variable {item : Item}

/-- Where nothing is read, nothing is asked of the item. -/
theorem met_empty (item : Item) : (∅ : Demand).Met item where
  rendered := nofun
  optional := nofun
  written := nofun
  words := nofun
  present := nofun

/-- Two demands are met together just if each of them is. -/
theorem met_append_iff {d d' : Demand} : (d ++ d').Met item ↔ d.Met item ∧ d'.Met item := by
  constructor
  · intro h
    obtain ⟨rendered, rendered'⟩ := List.forall_mem_append.1 h.rendered
    obtain ⟨optional, optional'⟩ := List.forall_mem_append.1 h.optional
    obtain ⟨written, written'⟩ := List.forall_mem_append.1 h.written
    obtain ⟨words, words'⟩ := List.forall_mem_append.1 h.words
    obtain ⟨present, present'⟩ := List.forall_mem_append.1 h.present
    exact ⟨⟨rendered, optional, written, words, present⟩,
      ⟨rendered', optional', written', words', present'⟩⟩
  · rintro ⟨h, h'⟩
    exact {
      rendered := List.forall_mem_append.2 ⟨h.rendered, h'.rendered⟩
      optional := List.forall_mem_append.2 ⟨h.optional, h'.optional⟩
      written := List.forall_mem_append.2 ⟨h.written, h'.written⟩
      words := List.forall_mem_append.2 ⟨h.words, h'.words⟩
      present := List.forall_mem_append.2 ⟨h.present, h'.present⟩ }

end Demand

/-! ## How a run ends -/

/-- The error tells what is wrong with the item. -/
def RenderError.Blames (item : Item) : RenderError → Prop
  | malformedField label _ _ => label = item.label
  | unknownSubtype _ _ => True
  | insufficientMaterials _ _ _ => False
  | namesExhausted _ => False
  | conditionSlot _ _ => False
  | emptyConditionSpace => False

/-- A success means `met`, and every error has its reason. -/
inductive Explained {α : Type} (item : Item) (served met : Prop) : Except RenderError α → Prop
  | success {a : α} (h : met) : Explained item served met (.ok a)
  | names : Explained item served met (.error (.namesExhausted Bindings.maxDraws))
  | item {e : RenderError} (blames : e.Blames item) (h : ¬ met) : Explained item served met (.error e)
  | slot {c : Condition} {index : Nat} (h : ¬ served) :
      Explained item served met (.error (.conditionSlot c index))

namespace Explained

variable {α β : Type} {item : Item} {served met met' : Prop} {e : RenderError}

/-- An error is explained by less. -/
theorem of_error (h : Explained item served met (.error e : Except RenderError α))
    (hmet : met' → met) : Explained item served met' (.error e : Except RenderError β) := by
  cases h with
  | names => exact .names
  | item blames hnot => exact .item blames fun h => hnot (hmet h)
  | slot hnot => exact .slot hnot

/-- An explanation is one for whatever says the same of the item. -/
theorem congr {r : Except RenderError α} (h : Explained item served met r) (hmet : met ↔ met') :
    Explained item served met' r := by
  cases h with
  | success h => exact .success (hmet.1 h)
  | names => exact .names
  | item blames hnot => exact .item blames fun h => hnot (hmet.2 h)
  | slot hnot => exact .slot hnot

/-- A success may be put to any use. -/
theorem map {r : Except RenderError α} (h : Explained item served met r) (f : α → β) :
    Explained item served met (r.map f) := by
  cases h with
  | success h => exact .success h
  | names => exact .names
  | item blames hnot => exact .item blames hnot
  | slot hnot => exact .slot hnot

/-- Checks one after the other. -/
theorem bind {r : Except RenderError α} {f : α → Except RenderError β}
    (hr : Explained item served met r) (hf : ∀ a, r = .ok a → Explained item served met' (f a)) :
    Explained item served (met ∧ met') (r >>= f) := by
  cases r with
  | error e => exact hr.of_error And.left
  | ok a =>
    cases hr with
    | success h => exact (hf a rfl).congr (and_iff_right h).symm

/-- A check that the item has no part in, and then another one. -/
theorem seq {r : Except RenderError α} {f : α → Except RenderError β}
    (hr : Explained item served True r) (hf : ∀ a, Explained item served met (f a)) :
    Explained item served met (r >>= f) :=
  (hr.bind fun a _ => hf a).congr (and_iff_right trivial)

/-- **If the item is as it should be**, there is a result, or the names are used up. -/
theorem of_met {r : Except RenderError α} (h : Explained item served met r) (hserved : served)
    (hmet : met) : (∃ a, r = .ok a) ∨ r = .error (.namesExhausted Bindings.maxDraws) := by
  cases h with
  | success _ => exact .inl ⟨_, rfl⟩
  | names => exact .inr rfl
  | item _ hnot => exact absurd hmet hnot
  | slot hnot => exact absurd hserved hnot

/-- **If it is not**, there is no result; the error blames the item, or the names are
used up. -/
theorem of_not_met {r : Except RenderError α} (h : Explained item served met r) (hserved : served)
    (hmet : ¬ met) :
    ∃ e, r = .error e ∧ (e.Blames item ∨ e = .namesExhausted Bindings.maxDraws) := by
  cases h with
  | success h => exact absurd h hmet
  | names => exact ⟨_, rfl, .inr rfl⟩
  | item blames _ => exact ⟨_, rfl, .inl blames⟩
  | slot hnot => exact absurd hserved hnot

end Explained

/-- A run ends as `Explained` says, and keeps the record of a sound cast. -/
def Hinges {σ α : Type} (corpus : NameCorpus) (item : Item) (served met : Prop)
    (m : Rendering σ α) : Prop :=
  ∀ (cast : Cast) (scene : Scene σ), scene.bindings.Records cast → cast.Sound corpus →
    Explained item served met (m.run.run scene).1 ∧
      ∃ cast' : Cast, (m.run.run scene).2.bindings.Records cast' ∧ cast'.Sound corpus

section

variable {σ α β : Type} {corpus : NameCorpus} {item : Item} {served met met' : Prop}

/-- A run hinges on whatever says the same of the item. -/
theorem Hinges.congr {m : Rendering σ α} (h : Hinges corpus item served met m)
    (hmet : met ↔ met') : Hinges corpus item served met' m :=
  fun cast scene records sound =>
    ⟨(h cast scene records sound).1.congr hmet, (h cast scene records sound).2⟩

/-- A check hinges on what explains it. -/
theorem hinges_check {r : Except RenderError α} (h : Explained item served met r) :
    Hinges corpus item served met (Rendering.check r : Rendering σ α) :=
  fun cast _ records sound => ⟨h, cast, records, sound⟩

/-- A result that is given hinges on nothing. -/
theorem hinges_pure (a : α) : Hinges corpus item served True (pure a : Rendering σ α) :=
  hinges_check (.success trivial)

/-- **The rule of sequence:** the rest is looked at only for results of the first part. -/
theorem Hinges.bind {m : Rendering σ α} {f : α → Rendering σ β}
    (hm : Hinges corpus item served met m)
    (hf : ∀ scene a scene', Yields m scene a scene' → Hinges corpus item served met' (f a)) :
    Hinges corpus item served (met ∧ met') (m >>= f) := by
  intro cast scene records sound
  obtain ⟨hend, cast', records', sound'⟩ := hm cast scene records sound
  rw [run_bind]
  rcases hrun : m.run.run scene with ⟨e | a, scene'⟩ <;> rw [hrun] at hend records'
  · exact ⟨hend.of_error And.left, cast', records', sound'⟩
  · obtain ⟨hrest, hcast⟩ := hf scene a scene' hrun cast' scene' records' sound'
    cases hend with
    | success h => exact ⟨hrest.congr (and_iff_right h).symm, hcast⟩

/-- What is made of a result hinges on what the result hinges on. -/
theorem Hinges.map {m : Rendering σ α} (hm : Hinges corpus item served met m) (f : α → β) :
    Hinges corpus item served met (f <$> m) := by
  rw [← bind_pure_comp]
  exact (hm.bind fun _ a _ _ => hinges_pure (f a)).congr (and_iff_left trivial)

/-- A result that is given demands no field. -/
theorem hinges_return (a : α) :
    Hinges corpus item served ((∅ : Demand).Met item) (pure a : Rendering σ α) :=
  (hinges_pure a).congr ⟨fun _ => Demand.met_empty item, fun _ => trivial⟩

/-- **The rule of sequence, for demands:** fields are demanded in the order in which they
are read. -/
theorem Hinges.seq {d d' : Demand} {m : Rendering σ α} {f : α → Rendering σ β}
    (hm : Hinges corpus item served (d.Met item) m)
    (hf : ∀ a, Hinges corpus item served (d'.Met item) (f a)) :
    Hinges corpus item served ((d ++ d').Met item) (m >>= f) :=
  (hm.bind fun _ a _ _ => hf a).congr Demand.met_append_iff.symm

/-- Demands may be written in any way. -/
theorem Hinges.of_demand {d d' : Demand} {m : Rendering σ α}
    (h : Hinges corpus item served (d.Met item) m) (hd : d = d') :
    Hinges corpus item served (d'.Met item) m :=
  hd ▸ h

/-- **A trial rendered afresh** ends as a run from nothing bound. -/
theorem Hinges.explained_fresh {m : Rendering σ α} (hm : Hinges corpus item served met m)
    (source : σ) : Explained item served met (m.fresh.run.run source).1 :=
  (hm [] ⟨.empty, source⟩ Bindings.records_empty (Cast.sound_nil corpus)).1

end

/-! ## Placeholders -/

section

variable {σ : Type} [RandomSource σ] {corpus : NameCorpus} {item : Item} {served : Prop}

/-- A bound person answers the name, the possessive, and nothing else. -/
theorem explained_answer (p : Person) (subtype : Option String) :
    Explained item served (subtype = none ∨ subtype = some Bindings.possessiveSubtype)
      (p.answer subtype) := by
  unfold Person.answer
  cases subtype with
  | none => exact .success (.inl rfl)
  | some word =>
    by_cases hword : word = Bindings.possessiveSubtype
    · rw [Person.text?, if_pos hword]
      exact .success (.inr (congrArg some hword))
    · rw [Person.text?, if_neg hword]
      exact .item trivial fun h =>
        h.elim (Option.some_ne_none word) fun h => hword (Option.some.inj h)

/-- **A placeholder** is resolved if it is known, unless no name is left for its person. -/
theorem hinges_resolve {p : Placeholder} (hid : DigitsOnly p.id) :
    Hinges corpus item served p.Known (Rendering.resolve corpus p.id p.subtype : Rendering σ String) := by
  intro cast scene records sound
  by_cases hmem : p.id ∈ cast.map Person.id
  · obtain ⟨person, hperson, hpid⟩ := List.mem_map.1 hmem
    rw [← hpid, resolve_of_mem records sound hperson]
    exact ⟨explained_answer person p.subtype, cast, records, sound⟩
  · obtain ⟨source', hrun | ⟨name, gender, bindings, sound', records', hrun⟩⟩ :=
      resolve_of_not_mem records sound hid hmem p.subtype
    · rw [hrun]
      exact ⟨.names, cast, records, sound⟩
    · rw [hrun]
      exact ⟨explained_answer _ p.subtype, _, records', sound'⟩

/-- A segment is shown if it is known. -/
theorem hinges_segment {s : Segment} (hs : ∀ p, s = .person p → DigitsOnly p.id) :
    Hinges corpus item served s.Known (Rendering.segment corpus s : Rendering σ String) := by
  cases s with
  | literal run => exact hinges_pure run
  | person p => exact hinges_resolve (hs p rfl)

/-- Segments are shown if all of them are known. -/
theorem hinges_segments {segs : List Segment} (hsegs : ∀ p, .person p ∈ segs → DigitsOnly p.id) :
    Hinges corpus item served (∀ s ∈ segs, s.Known)
      (Rendering.segments corpus segs : Rendering σ String) := by
  induction segs with
  | nil => exact (hinges_pure "").congr ⟨fun _ => nofun, fun _ => trivial⟩
  | cons s rest ih =>
    have hfirst : Hinges corpus item served s.Known
        (Rendering.segment corpus s : Rendering σ String) :=
      hinges_segment fun p hp => hsegs p (hp ▸ List.mem_cons_self ..)
    have hothers := ih fun p hp => hsegs p (List.mem_cons_of_mem _ hp)
    refine (hfirst.bind fun _ first _ _ => hothers.bind fun _ others _ _ =>
      hinges_pure (first ++ others)).congr ?_
    rw [and_true, List.forall_mem_cons]

/-- **A text** is rendered if it is legible. -/
theorem hinges_substitute (raw : String) :
    Hinges corpus item served (Legible raw) (Rendering.substitute corpus raw : Rendering σ String) :=
  (hinges_segments fun _ hp => (Segment.wellFormed_of_mem_parse hp).id_digits).congr
    legible_iff.symm

/-- There is nothing to replace in the empty text. -/
theorem legible_empty : Legible "" := by
  have hparse : Segment.parse "" = [] := (Segment.splits_nil).parse_eq
  intro p hp
  rw [hparse] at hp
  exact nomatch hp

/-! ## Fields -/

/-- A field that is taken as it is written must hold text. -/
theorem explained_requireText (field : String) :
    Explained item served (Demand.Met { written := [field] } item) (item.requireText field) := by
  have hmet : Demand.Met { written := [field] } item ↔ (item.text? field).isSome = true := by
    simp [Demand.met_iff]
  refine Explained.congr ?_ hmet.symm
  unfold Item.requireText Item.text?
  rcases item.get? field with _ | ⟨_ | _ | _ | text | _⟩
  · exact .item rfl nofun
  · exact .item rfl nofun
  · exact .item rfl nofun
  · exact .item rfl nofun
  · exact .success rfl
  · exact .item rfl nofun

/-- A field whose value is asked for must be there. -/
theorem explained_requireValue (field : String) :
    Explained item served (Demand.Met { present := [field] } item) (item.requireValue field) := by
  have hmet : Demand.Met { present := [field] } item ↔ (item.get? field).isSome = true := by
    simp [Demand.met_iff]
  refine Explained.congr ?_ hmet.symm
  unfold Item.requireValue
  cases item.get? field with
  | none => exact .item rfl nofun
  | some value => exact .success rfl

/-- A flag must be there, whatever it holds. -/
theorem explained_requireFlag (field : String) :
    Explained item served (Demand.Met { present := [field] } item) (item.requireFlag field) :=
  (explained_requireValue field).map _

/-- **A field that is read** is rendered if it holds legible text. -/
theorem hinges_process (field : String) :
    Hinges corpus item served (Demand.Met { rendered := [field] } item)
      (Rendering.process corpus item field : Rendering σ String) := by
  have hrest : ∀ (scene : Scene σ) raw scene',
      Yields (Rendering.check (item.requireText field)) scene raw scene' →
        Hinges corpus item served (∀ text, item.text? field = some text → Legible text)
          (Rendering.substitute corpus raw : Rendering σ String) := by
    intro scene raw scene' hraw
    have htext := Item.text?_of_requireText (yields_check_iff.1 hraw).1
    refine (hinges_substitute raw).congr ⟨fun h text ht => ?_, fun h => h raw htext⟩
    rwa [← Option.some.inj (htext.symm.trans ht)]
  refine ((hinges_check (explained_requireText field)).bind hrest).congr ?_
  cases htext : item.text? field <;> simp [Demand.met_iff, htext]

/-- **A field that may hold text** is rendered if that is legible. -/
theorem hinges_processOptional (field : String) :
    Hinges corpus item served (Demand.Met { optional := [field] } item)
      (Rendering.processOptional corpus item field : Rendering σ (Option String)) := by
  have hmet : Demand.Met { optional := [field] } item ↔
      ∀ text, item.text? field = some text → Legible text := by
    simp [Demand.met_iff]
  refine Hinges.congr ?_ hmet.symm
  unfold Rendering.processOptional
  cases item.text? field with
  | none => exact (hinges_pure none).congr ⟨fun _ => nofun, fun _ => trivial⟩
  | some raw =>
    dsimp only
    split
    · rename_i hraw
      refine (hinges_pure none).congr ⟨fun _ text htext => ?_, fun _ => trivial⟩
      rw [← Option.some.inj htext, hraw]
      exact legible_empty
    · refine ((hinges_substitute raw).map some).congr ⟨fun h text htext => ?_, fun h => h raw rfl⟩
      rwa [← Option.some.inj htext]

end
end Alternation
