/-
# The supply of names

`SPEC_FULL` §4.2: `draw_unique_name` rejects names in use, and its draws are capped.

A person who is not bound takes the first name that nobody has among the next thousand
draws.  The draws are what they are whatever becomes of them (`NameCorpus.draws`), and the
search looks at them in turn: either all of them are names in use, and then it has made
every one of them, or it stops right behind the first that is not
(`Bindings.drawUnused_cases`).

A corpus can run out for good.  No name is given twice, so no bindings hold more persons
than there are names that differ (`Bindings.Reached.length_le`), whatever ids were asked
for on the way (`Bindings.Supplied`).  Texts ask for ids made of digits; then the bindings
record a cast, and the persons whom a text mentions are no more than the names if it can be
rendered at all (`Cast.Sound.card_le`).
-/

import Alternation.Proofs.Render.Casting
import Mathlib.Data.Finset.Card

namespace Alternation

/-! ## Draws -/

namespace NameCorpus

variable {σ : Type} [RandomSource σ] (corpus : NameCorpus)

/-- So many names, each with its gender. -/
def draws : Nat → StateM σ (List (String × Gender))
  | 0 => return []
  | n + 1 => do
    let first ← corpus.draw none
    let others ← draws n
    return first :: others

/-- The next draws pass over names that are taken and come upon one that is not. -/
structure Finds (taken : String → Prop) (limit : Nat) (source : σ)
    (passed : List (String × Gender)) (found : String × Gender) (source' : σ) : Prop where
  within : passed.length < limit
  drawn : (corpus.draws (passed.length + 1)).run source = (passed ++ [found], source')
  passed_taken : ∀ d ∈ passed, taken d.1
  found_free : ¬ taken found.1

variable {corpus} {source source' : σ} {d : String × Gender}

/-- Names are drawn one after the other. -/
theorem run_draws_cons (hfirst : (corpus.draw none).run source = (d, source')) (n : Nat) :
    (corpus.draws (n + 1)).run source =
      (d :: ((corpus.draws n).run source').1, ((corpus.draws n).run source').2) := by
  have hrun : (corpus.draws (n + 1)).run source =
      (((corpus.draw none).run source).1 ::
          ((corpus.draws n).run ((corpus.draw none).run source).2).1,
        ((corpus.draws n).run ((corpus.draw none).run source).2).2) := rfl
  rw [hrun, hfirst]

/-- Every drawn name stands in the list of its gender. -/
theorem always_draws (n : Nat) :
    Always (fun drawn => ∀ d ∈ drawn, d.1 ∈ corpus.names d.2)
      (corpus.draws n : StateM σ (List (String × Gender))) := by
  induction n with
  | zero => exact always_pure nofun
  | succ n ih =>
    exact (always_draw corpus none).bind fun d hd => ih.bind fun others hothers =>
      always_pure (List.forall_mem_cons.2 ⟨hd, hothers⟩)

/-- The draws go on from where the first of them left off. -/
theorem exists_run_draws_add {k : Nat} {first : List (String × Gender)}
    (hfirst : (corpus.draws k).run source = (first, source')) (n : Nat) :
    ∃ others, ((corpus.draws (k + n)).run source).1 = first ++ others := by
  induction k generalizing source first with
  | zero =>
    obtain ⟨rfl, -⟩ := Prod.mk.inj hfirst
    exact ⟨_, rfl⟩
  | succ k ih =>
    rcases hdraw : (corpus.draw none).run source with ⟨d, middle⟩
    rw [run_draws_cons hdraw] at hfirst
    obtain ⟨rfl, hrest⟩ := Prod.mk.inj hfirst
    obtain ⟨others, hothers⟩ := ih (Prod.ext rfl hrest)
    refine ⟨others, ?_⟩
    rw [Nat.succ_add, run_draws_cons hdraw, hothers, List.cons_append]

namespace Finds

variable {taken : String → Prop} {limit : Nat} {passed : List (String × Gender)}

/-- The first name that is drawn is found if it is free. -/
theorem head (hdraw : (corpus.draw none).run source = (d, source')) (hfree : ¬ taken d.1) :
    corpus.Finds taken (limit + 1) source [] d source' where
  within := Nat.succ_pos limit
  drawn := run_draws_cons hdraw 0
  passed_taken := nofun
  found_free := hfree

/-- A taken name is passed over. -/
theorem cons {source'' : σ} {p : String × Gender}
    (hdraw : (corpus.draw none).run source = (p, source')) (hp : taken p.1)
    (h : corpus.Finds taken limit source' passed d source'') :
    corpus.Finds taken (limit + 1) source (p :: passed) d source'' where
  within := Nat.succ_lt_succ h.within
  drawn := by
    rw [List.length_cons, run_draws_cons hdraw, h.drawn]
    rfl
  passed_taken := List.forall_mem_cons.2 ⟨hp, h.passed_taken⟩
  found_free := h.found_free

/-- What is found is among the draws that may be made. -/
theorem mem_draws (h : corpus.Finds taken limit source passed d source') :
    d ∈ ((corpus.draws limit).run source).1 := by
  obtain ⟨more, rfl⟩ := Nat.exists_eq_add_of_le (Nat.succ_le_of_lt h.within)
  obtain ⟨others, hothers⟩ := exists_run_draws_add h.drawn more
  rw [hothers]
  simp

/-- What is found stands in the list of its gender. -/
theorem named (h : corpus.Finds taken limit source passed d source') : d.1 ∈ corpus.names d.2 :=
  always_draws limit source d h.mem_draws

end Finds
end NameCorpus

/-- **The search for a name** makes every draw it may and meets taken names only, or it
stops behind the first name that is not taken. -/
theorem Bindings.drawUnused_cases {σ : Type} [RandomSource σ] (corpus : NameCorpus)
    (used : List String) (limit : Nat) (source : σ) :
    (∀ d ∈ ((corpus.draws limit).run source).1, d.1 ∈ used) ∧
        (drawUnused corpus used limit).run source = (none, ((corpus.draws limit).run source).2) ∨
      ∃ passed d source', corpus.Finds (· ∈ used) limit source passed d source' ∧
        (drawUnused corpus used limit).run source = (some d, source') := by
  -- On the draws that are left: a taken name is passed over, a free one ends the search.
  induction limit generalizing source with
  | zero => exact .inl ⟨nofun, rfl⟩
  | succ limit ih =>
    rcases hdraw : (corpus.draw none).run source with ⟨d, middle⟩
    have hrun : (drawUnused corpus used (limit + 1)).run source =
        (if ((corpus.draw none).run source).1.1 ∈ used then drawUnused corpus used limit
          else return some ((corpus.draw none).run source).1).run
            ((corpus.draw none).run source).2 := rfl
    rw [hrun, hdraw, NameCorpus.run_draws_cons hdraw]
    by_cases hd : d.1 ∈ used
    · rw [if_pos hd]
      obtain ⟨hused, hnone⟩ | ⟨passed, found, source', hfinds, hsome⟩ := ih middle
      · exact .inl ⟨List.forall_mem_cons.2 ⟨hd, hused⟩, hnone⟩
      · exact .inr ⟨d :: passed, found, source', hfinds.cons hdraw hd, hsome⟩
    · rw [if_neg hd]
      exact .inr ⟨[], d, middle, .head hdraw hd, rfl⟩

/-- **A person who is not bound** takes the name that is found, or the draws are made in
vain. -/
theorem Rendering.resolve_of_unbound {σ : Type} [RandomSource σ] (corpus : NameCorpus)
    {b : Bindings} {id : String} (hid : b.get? id none = none) (subtype : Option String)
    (source : σ) :
    (∀ d ∈ ((corpus.draws Bindings.maxDraws).run source).1, d.1 ∈ b.names) ∧
        (resolve corpus id subtype).run.run ⟨b, source⟩ =
          (.error (.namesExhausted Bindings.maxDraws),
            ⟨b, ((corpus.draws Bindings.maxDraws).run source).2⟩) ∨
      ∃ passed name gender source',
        corpus.Finds (· ∈ b.names) Bindings.maxDraws source passed (name, gender) source' ∧
        (resolve corpus id subtype).run.run ⟨b, source⟩ =
          (boundText (b.bind id name gender) id subtype, ⟨b.bind id name gender, source'⟩) := by
  have hbound : ¬ b.texts.contains (Bindings.key id none) = true := by
    rw [Table.contains, show b.texts.get? (Bindings.key id none) = none from hid]
    exact Bool.false_ne_true
  obtain ⟨hused, hnone⟩ | ⟨passed, ⟨name, gender⟩, source', hfinds, hsome⟩ :=
    Bindings.drawUnused_cases corpus b.names Bindings.maxDraws source
  · refine .inl ⟨hused, ?_⟩
    show (if _ then _ else _) = _
    rw [if_neg hbound]
    simp only [hnone]
  · refine .inr ⟨passed, name, gender, source', hfinds, ?_⟩
    show (if _ then _ else _) = _
    rw [if_neg hbound]
    simp only [hsome]

/-- A person who is bound stays as they are. -/
theorem Rendering.resolve_of_bound {σ : Type} [RandomSource σ] (corpus : NameCorpus)
    {b : Bindings} {id : String} (hid : b.get? id none ≠ none) (subtype : Option String)
    (source : σ) :
    (resolve corpus id subtype).run.run ⟨b, source⟩ = (boundText b id subtype, ⟨b, source⟩) := by
  have hbound : b.texts.contains (Bindings.key id none) = true := Option.isSome_iff_ne_none.2 hid
  show (if _ then _ else _) = _
  rw [if_pos hbound]

/-! ## How many persons there are names for -/

/-- The names of both lists, each of them once. -/
def NameCorpus.distinct (corpus : NameCorpus) : Finset String :=
  (corpus.male ++ corpus.female).toFinset

/-- A name of either list is among the names of the corpus. -/
theorem NameCorpus.mem_distinct {corpus : NameCorpus} {gender : Gender} {name : String}
    (h : name ∈ corpus.names gender) : name ∈ corpus.distinct := by
  cases gender with
  | male => exact List.mem_toFinset.2 (List.mem_append_left _ h)
  | female => exact List.mem_toFinset.2 (List.mem_append_right _ h)

/-! ## Bindings that a history leads to -/

namespace Bindings

/-- The name is that of a person who is bound. -/
def Gives (b : Bindings) (name : String) : Prop :=
  ∃ id, DigitsOnly id ∧ b.get? id none = some name

/-- Some history that starts with nothing bound ends with these bindings; any ids may have
been asked for, and in vain. -/
def Reached (σ : Type) [RandomSource σ] (corpus : NameCorpus) (b : Bindings) : Prop :=
  ∃ (steps : List Step) (source : σ), (play corpus steps ⟨.empty, source⟩).2.bindings = b

/-- The same, where every id is made of digits, as it is in a text. -/
def ReachedByDigits (σ : Type) [RandomSource σ] (corpus : NameCorpus) (b : Bindings) : Prop :=
  ∃ (steps : List Step) (source : σ), (∀ step ∈ steps, step.DigitId) ∧
    (play corpus steps ⟨.empty, source⟩).2.bindings = b

/-- Bindings that ids of digits lead to are bindings that a history leads to. -/
theorem ReachedByDigits.reached {σ : Type} [RandomSource σ] {corpus : NameCorpus} {b : Bindings}
    (h : b.ReachedByDigits σ corpus) : b.Reached σ corpus :=
  let ⟨steps, source, _, hb⟩ := h
  ⟨steps, source, hb⟩

/-! ### Any ids -/

/-- The key of a person tells the id. -/
theorem key_none_inj {id id' : String} (h : key id none = key id' none) : id = id' := by
  have hlist := congrArg String.toList h
  rw [toList_key, toList_key] at hlist
  simpa [keyEnd, String.toList_inj] using List.append_cancel_left hlist

/-- The key of a person whose id is made of digits is none of the others. -/
theorem key_ne_of_digits {id : String} (hid : DigitsOnly id) (id' subtype : String) :
    key id none ≠ key id' (some subtype) := by
  intro h
  have hlist := congrArg String.toList h
  rw [toList_key, toList_key] at hlist
  have hmem : '_' ∈ id.toList := by
    rw [← List.append_nil id.toList, show [] = keyEnd none from rfl,
      List.append_cancel_left hlist]
    simp [keyEnd]
  exact absurd (hid '_' hmem) (by decide)

/-- Of the names, binding a person sets that of this person only, if ids are made of digits. -/
theorem get?_bind_of_digits {id : String} (hid : DigitsOnly id) (b : Bindings) (id' name : String)
    (gender : Gender) :
    (b.bind id' name gender).get? id none = if id = id' then some name else b.get? id none := by
  rw [get?_bind, if_neg (key_ne_of_digits hid id' _)]
  by_cases h : id = id'
  · rw [if_pos h, if_pos (congrArg (key · none) h)]
  · rw [if_neg h, if_neg fun hkey => h (key_none_inj hkey)]

/-- A person has the name that was bound last. -/
theorem get?_bind_self (b : Bindings) (id name : String) (gender : Gender) :
    (b.bind id name gender).get? id none = some name := by
  have hkey : key id none ≠ key id (some possessiveSubtype) := fun h => by
    have hlength := congrArg (·.toList.length) h
    simp [key, possessiveSubtype] at hlength
  rw [get?_bind, if_neg hkey, if_pos rfl]

/-- The names in use are those of the corpus, and no two persons have the same. -/
structure Supplied (corpus : NameCorpus) (b : Bindings) : Prop where
  named : ∀ name ∈ b.names, name ∈ corpus.distinct
  given : ∀ id, DigitsOnly id → ∀ name, b.get? id none = some name → name ∈ b.names
  apart : ∀ id id', DigitsOnly id → DigitsOnly id' → ∀ name, b.get? id none = some name →
    b.get? id' none = some name → id = id'

section

variable {corpus : NameCorpus} {b : Bindings}

/-- Where nobody is bound, no names are in use. -/
theorem supplied_empty (corpus : NameCorpus) : Supplied corpus .empty where
  named := nofun
  given := nofun
  apart := nofun

/-- Whoever is given a name that is not in use has it alone. -/
theorem Supplied.bind (h : b.Supplied corpus) (id : String) {name : String}
    (hname : name ∈ corpus.distinct) (unused : name ∉ b.names) (gender : Gender) :
    (b.bind id name gender).Supplied corpus where
  named := List.forall_mem_cons.2 ⟨hname, h.named⟩
  given id' hid' n hn := by
    rw [get?_bind_of_digits hid'] at hn
    split at hn
    · exact Option.some.inj hn ▸ List.mem_cons_self ..
    · exact List.mem_cons_of_mem _ (h.given id' hid' n hn)
  apart x y hx hy n hxn hyn := by
    rw [get?_bind_of_digits hx] at hxn
    rw [get?_bind_of_digits hy] at hyn
    split at hxn <;> split at hyn
    · rename_i hxid hyid
      exact hxid.trans hyid.symm
    · exact absurd (Option.some.inj hxn ▸ h.given y hy n hyn) unused
    · exact absurd (Option.some.inj hyn ▸ h.given x hx n hxn) unused
    · exact h.apart x y hx hy n hxn hyn

/-- **One step** keeps the bindings supplied, whatever id it asks for. -/
theorem Supplied.step {σ : Type} [RandomSource σ] {scene : Scene σ}
    (h : scene.bindings.Supplied corpus) (step : Step) :
    ((step.run corpus).run.run scene).2.bindings.Supplied corpus := by
  cases step with
  | reset => exact supplied_empty corpus
  | resolve id subtype =>
    rw [run_resolve]
    obtain ⟨b, source⟩ := scene
    by_cases hid : b.get? id none = none
    · obtain ⟨-, hrun⟩ | ⟨passed, name, gender, source', hfinds, hrun⟩ :=
        Rendering.resolve_of_unbound corpus hid subtype source
      · rw [hrun]
        exact h
      · rw [hrun]
        exact h.bind id (NameCorpus.mem_distinct hfinds.named) hfinds.found_free gender
    · rw [Rendering.resolve_of_bound corpus hid]
      exact h

/-- **A run of steps** does, by induction on the steps. -/
theorem Supplied.play {σ : Type} [RandomSource σ] {scene : Scene σ}
    (h : scene.bindings.Supplied corpus) (steps : List Step) :
    (Alternation.play corpus steps scene).2.bindings.Supplied corpus := by
  induction steps generalizing scene with
  | nil => exact h
  | cons step steps ih => exact ih (h.step step)

/-- Whatever the history, the names in use are apart and from the corpus. -/
theorem Reached.supplied {σ : Type} [RandomSource σ] (h : b.Reached σ corpus) :
    b.Supplied corpus := by
  obtain ⟨steps, source, rfl⟩ := h
  exact Supplied.play (supplied_empty corpus) steps

/-- **No more persons are bound** than there are names: each has one of their own. -/
theorem Reached.length_le {σ : Type} [RandomSource σ] (h : b.Reached σ corpus)
    {ids : List String} (nodup : ids.Nodup)
    (hbound : ∀ id ∈ ids, DigitsOnly id ∧ b.get? id none ≠ none) :
    ids.length ≤ corpus.distinct.card := by
  have hname : ∀ id ∈ ids, b.get? id none = some ((b.get? id none).getD "") := fun id hid => by
    obtain ⟨name, hget⟩ := Option.ne_none_iff_exists'.1 (hbound id hid).2
    rw [hget, Option.getD_some]
  rw [← List.toFinset_card_of_nodup nodup]
  refine Finset.card_le_card_of_injOn (fun id => (b.get? id none).getD "") ?_ ?_
  · intro id hid
    have hid := List.mem_toFinset.1 hid
    exact h.supplied.named _ (h.supplied.given id (hbound id hid).1 _ (hname id hid))
  · intro id hid id' hid' heq
    have hid := List.mem_toFinset.1 hid
    have hid' := List.mem_toFinset.1 hid'
    have heq : (b.get? id none).getD "" = (b.get? id' none).getD "" := heq
    exact h.supplied.apart id id' (hbound id hid).1 (hbound id' hid').1 _ (hname id hid)
      (heq ▸ hname id' hid')

end

/-! ### Ids made of digits -/

section

variable {corpus : NameCorpus} {cast : Cast} {b : Bindings}

/-- Bindings that ids of digits lead to record a sound cast. -/
theorem ReachedByDigits.exists_cast {σ : Type} [RandomSource σ] (h : b.ReachedByDigits σ corpus) :
    ∃ cast : Cast, cast.Sound corpus ∧ b.Records cast := by
  obtain ⟨steps, source, digits, rfl⟩ := h
  have hstart : Records (Scene.mk Bindings.empty source).bindings [] := records_empty
  obtain ⟨cast, sound, records, -⟩ := exists_cast_of_play hstart (Cast.sound_nil corpus) digits
  exact ⟨cast, sound, records⟩

/-- The names in use are those of the persons who are bound. -/
theorem ReachedByDigits.mem_names_iff {σ : Type} [RandomSource σ]
    (h : b.ReachedByDigits σ corpus) (name : String) : name ∈ b.names ↔ b.Gives name := by
  obtain ⟨cast, sound, records⟩ := h.exists_cast
  constructor
  · intro hname
    obtain ⟨p, hp, rfl⟩ := (records.names name).1 hname
    exact ⟨p.id, sound.digits p hp, records.name_bound p hp⟩
  · rintro ⟨id, hid, hname⟩
    exact h.reached.supplied.given id hid name hname

end
end Bindings

/-! ## Persons whom a text mentions -/

/-- The ids of the persons whom a text mentions. -/
def mentions (text : String) : List String :=
  (Segment.parse text).filterMap fun
    | .literal _ => none
    | .person p => some p.id

namespace Cast

variable {corpus : NameCorpus} {cast : Cast}

/-- **Nobody shares a name**, so the cast is no larger than the corpus has names. -/
theorem Sound.length_le (sound : cast.Sound corpus) : cast.length ≤ corpus.distinct.card :=
  calc cast.length
    _ = (cast.map Person.name).toFinset.card := by
      rw [List.toFinset_card_of_nodup sound.names_nodup, List.length_map]
    _ ≤ corpus.distinct.card := Finset.card_le_card fun name hname => by
      obtain ⟨p, hp, rfl⟩ := List.mem_map.1 (List.mem_toFinset.1 hname)
      exact NameCorpus.mem_distinct (sound.named p hp)

/-- However often ids of the cast are listed, they are no more than the names of the corpus. -/
theorem Sound.card_le (sound : cast.Sound corpus) {ids : List String}
    (h : ∀ id ∈ ids, ∃ p ∈ cast, p.id = id) : ids.toFinset.card ≤ corpus.distinct.card :=
  calc ids.toFinset.card
    _ ≤ (cast.map Person.id).toFinset.card := Finset.card_le_card fun id hid => by
      obtain ⟨p, hp, rfl⟩ := h id (List.mem_toFinset.1 hid)
      exact List.mem_toFinset.2 (List.mem_map_of_mem hp)
    _ ≤ (cast.map Person.id).length := List.toFinset_card_le _
    _ = cast.length := List.length_map _
    _ ≤ corpus.distinct.card := sound.length_le

/-- A placeholder that means something names a person of the cast. -/
theorem exists_person_of_segment? {p : Placeholder} {text : String}
    (h : cast.segment? (.person p) = some text) : ∃ q ∈ cast, q.id = p.id := by
  obtain ⟨q, hfind, -⟩ := Option.bind_eq_some_iff.1 h
  have hid := List.find?_some hfind
  exact ⟨q, List.mem_of_find?_eq_some hfind, of_decide_eq_true hid⟩

/-- Segments that mean something mention persons of the cast only. -/
theorem exists_person_of_segments? {segs : List Segment} {text : String}
    (h : cast.segments? segs = some text) {p : Placeholder} (hp : .person p ∈ segs) :
    ∃ q ∈ cast, q.id = p.id := by
  induction segs generalizing text with
  | nil => exact nomatch hp
  | cons s rest ih =>
    obtain ⟨first, others, hfirst, hothers, rfl⟩ := segments?_cons_eq_some_iff.1 h
    rcases List.mem_cons.1 hp with rfl | hp
    · exact exists_person_of_segment? hfirst
    · exact ih hothers hp

/-- **Whoever is mentioned is in the cast**, if the text shows something under it. -/
theorem exists_person_of_expand? {raw text : String} (h : cast.expand? raw = some text) :
    ∀ id ∈ mentions raw, ∃ p ∈ cast, p.id = id := by
  intro id hid
  obtain ⟨s, hs, hsid⟩ := List.mem_filterMap.1 hid
  cases s with
  | literal run => exact nomatch hsid
  | person p => exact Option.some.inj hsid ▸ exists_person_of_segments? h hs

end Cast

/-- **A text that mentions more persons** than there are names is never rendered. -/
theorem Bindings.ReachedByDigits.not_yields_substitute {σ : Type} [RandomSource σ]
    {corpus : NameCorpus} {b : Bindings} (hb : b.ReachedByDigits σ corpus) {text : String}
    (hmany : corpus.distinct.card < (mentions text).toFinset.card) (source : σ) (out : String)
    (scene' : Scene σ) : ¬ Yields (Rendering.substitute corpus text) ⟨b, source⟩ out scene' := by
  intro hrun
  obtain ⟨cast, sound, records⟩ := hb.exists_cast
  obtain ⟨more, -, sound', hexpand⟩ := casts_substitute text cast _ out scene' records sound hrun
  have hle := sound'.card_le (Cast.exists_person_of_expand? (by simpa using hexpand []))
  exact absurd hmany (Nat.not_lt.2 hle)

end Alternation
