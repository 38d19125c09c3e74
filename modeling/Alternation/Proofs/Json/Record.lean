/-
# Objects as rows of fields

`SPEC_FULL` §3, *Trial*: optional fields are left out of the object.

A record is written as an object that leaves out the fields without a value (`record`).  If
the fields have distinct names, so have the members (`record_keys_sublist`), a field is
found under its name (`lookup_record`), and two records with the same names are told by what
is found under each (`eq_of_lookup_record`).
-/

import Alternation.Proofs.Json.Compact
import Alternation.Trial.Json

namespace Alternation
namespace Json

/-- Named fields, some of them without a value. -/
abbrev Fields := List (String × Option Json)

/-- The members for the fields that have a value. -/
def record (fields : Fields) : Members := fields.flatMap fun f => optional f.1 f.2

/-- Fields side by side make members side by side. -/
theorem record_append (fields fields' : Fields) :
    record (fields ++ fields') = record fields ++ record fields' :=
  List.flatMap_append ..

/-- A field in front is a member in front, if it has a value. -/
theorem record_cons (key : String) (value : Option Json) (fields : Fields) :
    record ((key, value) :: fields) = optional key value ++ record fields :=
  List.flatMap_cons ..

/-- The names of the members are names of fields, in the same order. -/
theorem record_keys_sublist (fields : Fields) :
    ((record fields).map Prod.fst).Sublist (fields.map Prod.fst) := by
  induction fields with
  | nil => exact .slnil
  | cons f fields ih =>
    obtain ⟨key, value⟩ := f
    rw [record_cons, List.map_append, List.map_cons]
    cases value with
    | none => exact ih.cons key
    | some v => exact ih.cons_cons key

/-- Members are fields that all have a value. -/
theorem record_map_some (members : Members) :
    record (members.map fun m => (m.1, some m.2)) = members := by
  induction members with
  | nil => rfl
  | cons m members ih =>
    rw [List.map_cons, record_cons, ih]
    rfl

/-- A field in front is found under its name if it has a value, and hides nothing else. -/
theorem lookup_optional (key key' : String) (value : Option Json) (members : Members) :
    (optional key value ++ members).lookup key' =
      if key' = key then value.or (members.lookup key') else members.lookup key' := by
  cases value with
  | none => split <;> rfl
  | some v =>
    show ((key, v) :: members).lookup key' = _
    rw [List.lookup_cons]
    split <;> simp_all

/-- A name that no field has is not found. -/
theorem lookup_record_eq_none {fields : Fields} {key : String} (h : key ∉ fields.map Prod.fst) :
    (record fields).lookup key = none := by
  induction fields with
  | nil => rfl
  | cons f fields ih =>
    obtain ⟨key', value⟩ := f
    rw [List.map_cons, List.mem_cons, not_or] at h
    rw [record_cons, lookup_optional, if_neg h.1, ih h.2]

/-- **A field is found under its name**, if no other has that name. -/
theorem lookup_record {fields : Fields} (hnodup : (fields.map Prod.fst).Nodup) {key : String}
    {value : Option Json} (hmem : (key, value) ∈ fields) : (record fields).lookup key = value := by
  induction fields with
  | nil => exact nomatch hmem
  | cons f fields ih =>
    obtain ⟨hnot, hnodup⟩ := List.nodup_cons.1 hnodup
    rcases List.mem_cons.1 hmem with rfl | hmem
    · rw [record_cons, lookup_optional, if_pos rfl, lookup_record_eq_none hnot, Option.or_none]
    · have hne : key ≠ f.1 := by
        rintro rfl
        exact hnot (List.mem_map.2 ⟨_, hmem, rfl⟩)
      rw [record_cons, lookup_optional, if_neg hne, ih hnodup hmem]

/-- **Rows with the same names** are equal if the same is found under every name. -/
theorem eq_of_lookup_record {fields fields' : Fields}
    (hkeys : fields.map Prod.fst = fields'.map Prod.fst) (hnodup : (fields.map Prod.fst).Nodup)
    (h : ∀ key, (record fields).lookup key = (record fields').lookup key) : fields = fields' := by
  have hvalue : ∀ f ∈ fields, ∀ f' ∈ fields', f.1 = f'.1 → f = f' := by
    rintro ⟨key, value⟩ hmem ⟨_, value'⟩ hmem' rfl
    rw [← lookup_record hnodup hmem, h, lookup_record (hkeys ▸ hnodup) hmem']
  have hlength : fields.length = fields'.length := by
    simpa only [List.length_map] using congrArg List.length hkeys
  refine List.ext_getElem hlength fun k hk hk' => ?_
  refine hvalue _ (List.getElem_mem hk) _ (List.getElem_mem hk') ?_
  rw [← List.getElem_map Prod.fst, ← List.getElem_map Prod.fst]
  · exact List.getElem_of_eq hkeys (by rwa [List.length_map])

/-! ## Floats in a record -/

/-- The floats of a list are finite just if those of its elements are. -/
theorem allFiniteItems_iff {js : List Json} : AllFiniteItems js ↔ ∀ j ∈ js, j.AllFinite := by
  induction js with
  | nil => simp [AllFiniteItems]
  | cons j js ih => rw [AllFiniteItems, ih, List.forall_mem_cons]

/-- The floats of an object are finite just if those of its members are. -/
theorem allFiniteMembers_iff {ms : Members} : AllFiniteMembers ms ↔ ∀ m ∈ ms, m.2.AllFinite := by
  induction ms with
  | nil => simp [AllFiniteMembers]
  | cons m ms ih => rw [AllFiniteMembers, ih, List.forall_mem_cons]

/-- The floats of a record are finite just if those of its values are. -/
theorem allFiniteMembers_record {fields : Fields} :
    AllFiniteMembers (record fields) ↔ ∀ f ∈ fields, ∀ j ∈ f.2, j.AllFinite := by
  rw [allFiniteMembers_iff]
  constructor
  · rintro h ⟨key, value⟩ hf j rfl
    exact h (key, j) (List.mem_flatMap.2 ⟨_, hf, List.mem_singleton_self _⟩)
  · intro h m hm
    obtain ⟨⟨key, value⟩, hf, hm⟩ := List.mem_flatMap.1 hm
    cases value with
    | none => exact nomatch hm
    | some j =>
      obtain rfl := List.mem_singleton.1 hm
      exact h _ hf j rfl

end Json
end Alternation
