/-
# What the bindings of a trial record

`SPEC_FULL` §4.2, Variable Binding Cache: `binding_key`, and the two keys that `resolve`
binds for a person.

A `Cast` lists the persons who have been given names, in the order in which they
got them.  It is sound for a corpus (`Cast.Sound`) when

* no two persons have the same id, and every id is made of digits,
* no two persons have the same name, and
* every name stands in the corpus list of its person's gender.

Bindings record a cast (`Bindings.Records`) when their keys are exactly the two
keys of each person, with the name and the possessive under them, and the names in
use are exactly those of the cast.  Keys are glued together from texts; for ids
made of digits they never collide (`Bindings.key_inj`).  Binding one more person
records one more person (`Bindings.Records.bind`), and what is found under a
placeholder is what the person shows (`Bindings.Records.get?_eq`).
-/

import Alternation.Names.Bindings
import Alternation.Proofs.Render.Placeholder
import Mathlib.Data.List.Nodup

namespace Alternation

/-- A person who has been given a name. -/
structure Person where
  id : String
  name : String
  gender : Gender
deriving DecidableEq, Repr

/-- What a placeholder of the person shows: the name, or the possessive. -/
def Person.text? (p : Person) : Option String → Option String
  | none => some p.name
  | some subtype =>
    if subtype = Bindings.possessiveSubtype then some p.gender.possessive else none

/-- Persons in the order in which they were given names. -/
abbrev Cast := List Person

namespace Cast

/-- Nobody shares an id or a name, and every name goes with its gender. -/
structure Sound (corpus : NameCorpus) (cast : Cast) : Prop where
  ids_nodup : (cast.map Person.id).Nodup
  names_nodup : (cast.map Person.name).Nodup
  digits : ∀ p ∈ cast, DigitsOnly p.id
  named : ∀ p ∈ cast, p.name ∈ corpus.names p.gender

/-- A cast of nobody is sound. -/
theorem sound_nil (corpus : NameCorpus) : Sound corpus [] where
  ids_nodup := List.nodup_nil
  names_nodup := List.nodup_nil
  digits := by simp
  named := by simp

/-- A sound cast stays sound with somebody new whose name is new too. -/
theorem Sound.concat {corpus : NameCorpus} {cast : Cast} (h : cast.Sound corpus) {p : Person}
    (hid : DigitsOnly p.id) (fresh : p.id ∉ cast.map Person.id)
    (unused : p.name ∉ cast.map Person.name) (named : p.name ∈ corpus.names p.gender) :
    Sound corpus (cast ++ [p]) where
  ids_nodup := by
    rw [List.map_append]
    exact h.ids_nodup.append (List.nodup_singleton _) (by simpa using fresh)
  names_nodup := by
    rw [List.map_append]
    exact h.names_nodup.append (List.nodup_singleton _) (by simpa using unused)
  digits q hq := by
    rcases List.mem_append.1 hq with hq | hq
    · exact h.digits q hq
    · exact List.mem_singleton.1 hq ▸ hid
  named q hq := by
    rcases List.mem_append.1 hq with hq | hq
    · exact h.named q hq
    · exact List.mem_singleton.1 hq ▸ named

end Cast

namespace Bindings

/-! ## Keys -/

/-- What a key adds to the id. -/
def keyEnd (subtype : Option String) : List Char := subtype.elim [] fun s => '_' :: s.toList

/-- A key, character by character. -/
theorem toList_key (id : String) (subtype : Option String) :
    (key id subtype).toList = "PERSON".toList ++ (id.toList ++ keyEnd subtype) := by
  cases subtype <;> simp [key, keyEnd]

/-- No digit follows the id in a key. -/
theorem takeWhile_keyEnd (subtype : Option String) :
    (keyEnd subtype).takeWhile Char.isDigit = [] := by
  cases subtype <;> simp [keyEnd, Char.isDigit]

/-- The end of a key tells the subtype. -/
theorem keyEnd_inj {s t : Option String} (h : keyEnd s = keyEnd t) : s = t := by
  cases s <;> cases t
  · rfl
  · simp [keyEnd] at h
  · simp [keyEnd] at h
  · exact congrArg some (String.toList_inj.1 (List.cons.inj h).2)

/-- **Keys do not collide:** an id made of digits ends where the key's digits end. -/
theorem key_inj {id id' : String} {s t : Option String} (hid : DigitsOnly id)
    (hid' : DigitsOnly id') (h : key id s = key id' t) : id = id' ∧ s = t := by
  have hlist : id.toList ++ keyEnd s = id'.toList ++ keyEnd t := by
    have := congrArg String.toList h
    rw [toList_key, toList_key] at this
    exact List.append_cancel_left this
  have hdigits : id.toList = id'.toList := by
    have := congrArg (List.takeWhile Char.isDigit) hlist
    rwa [List.takeWhile_append_of_pos hid, List.takeWhile_append_of_pos hid', takeWhile_keyEnd,
      takeWhile_keyEnd, List.append_nil, List.append_nil] at this
  rw [hdigits] at hlist
  exact ⟨String.toList_inj.1 hdigits, keyEnd_inj (List.append_cancel_left hlist)⟩

/-! ## Records -/

/-- The bindings are those of the cast and no others. -/
structure Records (b : Bindings) (cast : Cast) : Prop where
  keys : ∀ k, k ∈ b.texts.keys ↔
    ∃ p ∈ cast, k = key p.id none ∨ k = key p.id (some possessiveSubtype)
  name_bound : ∀ p ∈ cast, b.get? p.id none = some p.name
  possessive_bound : ∀ p ∈ cast, b.get? p.id (some possessiveSubtype) = some p.gender.possessive
  names : ∀ n, n ∈ b.names ↔ ∃ p ∈ cast, n = p.name

/-- Empty bindings record a cast of nobody. -/
theorem records_empty : Records .empty [] where
  keys := by simp [empty]
  name_bound := by simp
  possessive_bound := by simp
  names := by simp [empty]

/-- Binding a person sets the name and the possessive, and nothing else. -/
theorem get?_bind (b : Bindings) (id name : String) (gender : Gender) (id' : String)
    (subtype : Option String) :
    (b.bind id name gender).get? id' subtype =
      if key id' subtype = key id (some possessiveSubtype) then some gender.possessive
      else if key id' subtype = key id none then some name
      else b.get? id' subtype := by
  simp only [bind, get?, Table.get?_insert]

/-- Binding a person adds the two keys of that person. -/
theorem mem_keys_bind (b : Bindings) (id name : String) (gender : Gender) (k : String) :
    k ∈ (b.bind id name gender).texts.keys ↔
      k ∈ b.texts.keys ∨ k = key id none ∨ k = key id (some possessiveSubtype) := by
  simp only [bind, Table.mem_keys_insert, or_assoc]

variable {corpus : NameCorpus} {cast : Cast} {b : Bindings}

/-- One more person is bound, and one more person is on record. -/
theorem Records.bind (h : b.Records cast) (sound : cast.Sound corpus) {id : String}
    (hid : DigitsOnly id) (fresh : id ∉ cast.map Person.id) (name : String) (gender : Gender) :
    (b.bind id name gender).Records (cast ++ [⟨id, name, gender⟩]) := by
  have hold : ∀ p ∈ cast, ∀ s,
      (b.bind id name gender).get? p.id s = b.get? p.id s := by
    intro p hp s
    have hne : p.id ≠ id := fun he => fresh (he ▸ List.mem_map_of_mem hp)
    rw [get?_bind, if_neg fun hk => hne (key_inj (sound.digits p hp) hid hk).1,
      if_neg fun hk => hne (key_inj (sound.digits p hp) hid hk).1]
  have hkeys : key id none ≠ key id (some possessiveSubtype) := fun hk =>
    nomatch (key_inj hid hid hk).2
  refine ⟨fun k => ?_, fun p hp => ?_, fun p hp => ?_, fun n => ?_⟩
  · rw [mem_keys_bind, h.keys]
    simp [or_and_right, exists_or]
  · rcases List.mem_append.1 hp with hp | hp
    · rw [hold p hp, h.name_bound p hp]
    · obtain rfl := List.mem_singleton.1 hp
      rw [get?_bind, if_neg hkeys, if_pos rfl]
  · rcases List.mem_append.1 hp with hp | hp
    · rw [hold p hp, h.possessive_bound p hp]
    · obtain rfl := List.mem_singleton.1 hp
      rw [get?_bind, if_pos rfl]
  · simp [Bindings.bind, h.names, or_and_right, exists_or, or_comm]

/-- **What is found under a placeholder** is what its person shows. -/
theorem Records.get?_eq (h : b.Records cast) (sound : cast.Sound corpus) {p : Person}
    (hp : p ∈ cast) (subtype : Option String) : b.get? p.id subtype = p.text? subtype := by
  cases subtype with
  | none => exact h.name_bound p hp
  | some s =>
    by_cases hs : s = possessiveSubtype
    · rw [hs, h.possessive_bound p hp]
      simp [Person.text?]
    · rw [Person.text?, if_neg hs]
      refine (Table.get?_eq_none_iff _ _).2 fun hmem => ?_
      obtain ⟨q, hq, hk | hk⟩ := (h.keys _).1 hmem
      · exact nomatch (key_inj (sound.digits p hp) (sound.digits q hq) hk).2
      · exact hs (Option.some.inj (key_inj (sound.digits p hp) (sound.digits q hq) hk).2)

/-- What is bound for a cast stays bound for a longer one. -/
theorem Records.get?_mono {cast' : Cast} {b' : Bindings} (h : b.Records cast)
    (h' : b'.Records cast') (hsub : cast ⊆ cast') {k text : String}
    (hk : b.texts.get? k = some text) : b'.texts.get? k = some text := by
  have hmem : k ∈ b.texts.keys := by
    by_contra hno
    rw [(Table.get?_eq_none_iff _ _).2 hno] at hk
    exact nomatch hk
  obtain ⟨p, hp, rfl | rfl⟩ := (h.keys k).1 hmem
  · have hname := (h.name_bound p hp).symm.trans hk
    exact (h'.name_bound p (hsub hp)).trans hname
  · have hpossessive := (h.possessive_bound p hp).symm.trans hk
    exact (h'.possessive_bound p (hsub hp)).trans hpossessive

/-- A person is bound if the cast has one of that id. -/
theorem Records.contains_iff (h : b.Records cast) (sound : cast.Sound corpus) {id : String}
    (hid : DigitsOnly id) :
    b.texts.contains (key id none) = true ↔ ∃ p ∈ cast, p.id = id := by
  have hmem : b.texts.contains (key id none) = true ↔ key id none ∈ b.texts.keys := by
    rw [Table.contains, Option.isSome_iff_ne_none, ne_eq, Table.get?_eq_none_iff, not_not]
  rw [hmem, h.keys]
  constructor
  · rintro ⟨p, hp, hk | hk⟩
    · exact ⟨p, hp, (key_inj hid (sound.digits p hp) hk).1.symm⟩
    · exact nomatch (key_inj hid (sound.digits p hp) hk).2
  · rintro ⟨p, hp, rfl⟩
    exact ⟨p, hp, .inl rfl⟩

end Bindings
end Alternation
