/-
# Tables

`SPEC_FULL` §3: the mappings of an *Item* and of a *VariableBindingCache*.

A `Table` maps names to values and remembers the order in which the names came.
Writing under a name that is there already replaces its value and keeps its place.
Where a name must not come twice, `single?` looks it up in the pairs themselves.

* `get?_insert`: what is found after a write.
* `keys_insert`: which names there are after a write, and in which order.
* `ofList_entries`: writing the entries of a table one by one makes the table.
-/

namespace Alternation

/-- The value that pairs give a name, if they give it one; `none` if they give it
several. -/
def single? {α : Type} (pairs : List (String × α)) (name : String) : Option (Option α) :=
  match pairs.filter (·.1 == name) with
  | [] => some none
  | [pair] => some (some pair.2)
  | _ => none

/-- Distinct names, each with a value, in the order of their first writing. -/
structure Table (α : Type) where
  entries : List (String × α)
  nodup : (entries.map Prod.fst).Nodup

namespace Table

variable {α : Type}

/-- The entries with `value` written under `key`. -/
def upsert (key : String) (value : α) : List (String × α) → List (String × α)
  | [] => [(key, value)]
  | (k, v) :: rest => if k = key then (key, value) :: rest else (k, v) :: upsert key value rest

/-- A name that is there keeps its place, and a new one comes last. -/
theorem keys_upsert (key : String) (value : α) (l : List (String × α)) :
    (upsert key value l).map Prod.fst =
      if key ∈ l.map Prod.fst then l.map Prod.fst else l.map Prod.fst ++ [key] := by
  induction l with
  | nil => rfl
  | cons e rest ih =>
    obtain ⟨k, v⟩ := e
    by_cases h : k = key
    · simp [upsert, h]
    · simp only [upsert, h, if_false, List.map_cons, ih, List.mem_cons, Ne.symm h, false_or]
      split <;> rfl

/-- A write is found under its name, and changes nothing else that is found. -/
theorem lookup_upsert (key k' : String) (value : α) (l : List (String × α)) :
    (upsert key value l).lookup k' = if k' = key then some value else l.lookup k' := by
  induction l with
  | nil =>
    by_cases h : k' = key
    · simp [upsert, h]
    · simp [upsert, List.lookup_cons, beq_false_of_ne h, h]
  | cons e rest ih =>
    obtain ⟨k, v⟩ := e
    by_cases h : k = key
    · subst h
      by_cases h' : k' = k
      · simp [upsert, h']
      · simp [upsert, List.lookup_cons, beq_false_of_ne h', h']
    · by_cases h' : k' = k
      · subst h'
        simp [upsert, h]
      · simp only [upsert, h, if_false, List.lookup_cons, beq_false_of_ne h', ih]

/-- A write under a new name adds a pair at the end. -/
theorem upsert_of_not_mem {key : String} {l : List (String × α)} (h : key ∉ l.map Prod.fst)
    (value : α) : upsert key value l = l ++ [(key, value)] := by
  induction l with
  | nil => rfl
  | cons e l ih =>
    obtain ⟨k, v⟩ := e
    rw [List.map_cons, List.mem_cons, not_or] at h
    rw [upsert, if_neg (Ne.symm h.1), ih h.2, List.cons_append]

/-- The table without entries. -/
def empty : Table α := ⟨[], List.nodup_nil⟩

instance : Inhabited (Table α) := ⟨empty⟩

/-- The names, in order. -/
def keys (t : Table α) : List String := t.entries.map Prod.fst

/-- The number of names. -/
def size (t : Table α) : Nat := t.entries.length

/-- The value under a name. -/
def get? (t : Table α) (key : String) : Option α := t.entries.lookup key

/-- The name has a value. -/
def contains (t : Table α) (key : String) : Bool := (t.get? key).isSome

/-- Writes a value under a name. -/
def insert (t : Table α) (key : String) (value : α) : Table α where
  entries := upsert key value t.entries
  nodup := by
    rw [keys_upsert]
    split
    · exact t.nodup
    · rename_i h
      exact List.nodup_append.mpr ⟨t.nodup, by simp, by
        intro a ha b hb
        simp only [List.mem_singleton] at hb
        subst hb
        rintro rfl
        exact h ha⟩

/-- The table after writing the entries one by one. -/
def ofList (l : List (String × α)) : Table α := l.foldl (fun t e => t.insert e.1 e.2) empty

/-- Nothing is found in the empty table. -/
@[simp] theorem get?_empty (key : String) : (empty : Table α).get? key = none := rfl

/-- The empty table has no names. -/
@[simp] theorem keys_empty : (empty : Table α).keys = [] := rfl

/-- **Reading after a write:** the new value under its name, else what was there. -/
theorem get?_insert (t : Table α) (key k' : String) (value : α) :
    (t.insert key value).get? k' = if k' = key then some value else t.get? k' :=
  lookup_upsert key k' value t.entries

/-- A name without a value is none of the names. -/
theorem get?_eq_none_iff (t : Table α) (key : String) : t.get? key = none ↔ key ∉ t.keys := by
  simp only [get?, keys, List.lookup_eq_none_iff, List.mem_map, not_exists, not_and]
  constructor
  · rintro h e he rfl
    simpa using h e he
  · intro h e he
    simpa using fun hk => h e he hk.symm

/-- **The names after a write:** a new name comes last. -/
theorem keys_insert (t : Table α) (key : String) (value : α) :
    (t.insert key value).keys = if key ∈ t.keys then t.keys else t.keys ++ [key] :=
  keys_upsert key value t.entries

/-- A write adds its name and drops none. -/
theorem mem_keys_insert (t : Table α) (key k' : String) (value : α) :
    k' ∈ (t.insert key value).keys ↔ k' ∈ t.keys ∨ k' = key := by
  rw [keys_insert]
  split
  · rename_i h
    exact ⟨.inl, fun h' => h'.elim id fun he => he ▸ h⟩
  · rw [List.mem_append, List.mem_singleton]

/-- New names are written behind those that are there. -/
theorem entries_foldl_insert (l : List (String × α)) (t : Table α)
    (h : ((t.entries ++ l).map Prod.fst).Nodup) :
    (l.foldl (fun t e => t.insert e.1 e.2) t).entries = t.entries ++ l := by
  induction l generalizing t with
  | nil => rw [List.foldl_nil, List.append_nil]
  | cons e l ih =>
    have hnew : e.1 ∉ t.entries.map Prod.fst := by
      rw [List.map_append, List.map_cons] at h
      exact fun hmem => (List.nodup_append.1 h).2.2 _ hmem _ (List.mem_cons_self ..) rfl
    have hentries : (t.insert e.1 e.2).entries = t.entries ++ [e] := upsert_of_not_mem hnew e.2
    rw [List.foldl_cons, ih, hentries, List.append_assoc, List.singleton_append]
    rwa [hentries, List.append_assoc, List.singleton_append]

/-- A table is its entries: that they have distinct names is a proof and no data. -/
theorem eq_of_entries {t t' : Table α} (h : t.entries = t'.entries) : t = t' := by
  obtain ⟨_, _⟩ := t
  obtain ⟨_, _⟩ := t'
  obtain rfl := h
  rfl

/-- **Writing the entries of a table** one by one makes the table. -/
theorem ofList_entries (t : Table α) : ofList t.entries = t :=
  eq_of_entries (entries_foldl_insert t.entries empty t.nodup)

end Table
end Alternation
