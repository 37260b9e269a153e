import Mathlib.Data.List.Nodup

/-!
# Tables of records

The keys of the records are distinct, so a lookup finds the one record with the key.
-/

namespace DeepNps

open List Option Function

structure Table {Record Key : Type} (key : Record → Key) where
  records : List Record
  nodup : (records.map key).Nodup

namespace Table

variable {Record Key Code : Type} {key : Record → Key} {table : Table key} {record : Record}
  {change : Record → Record} {keepsKey : ∀ record, key (change record) = key record}
  {keeps : Record → Bool} {code : Record → Code}

@[ext]
theorem ext {other : Table key} (records : table.records = other.records) : table = other := by
  cases table
  cases other
  cases records
  rfl

def empty : Table key where
  records := []
  nodup := List.nodup_nil

@[simp]
theorem not_mem_empty : record ∉ (empty : Table key).records := not_mem_nil

def modify (table : Table key) (change : Record → Record)
    (keepsKey : ∀ record, key (change record) = key record) : Table key where
  records := table.records.map change
  nodup := by
    rw [List.map_map, Function.comp_def]
    simp only [keepsKey]
    exact table.nodup

def filter (table : Table key) (keeps : Record → Bool) : Table key where
  records := table.records.filter keeps
  nodup := table.nodup.sublist (List.filter_sublist.map key)

@[simp]
theorem mem_modify :
    record ∈ (table.modify change keepsKey).records ↔ ∃ old ∈ table.records, change old = record :=
  mem_map

@[simp]
theorem mem_filter :
    record ∈ (table.filter keeps).records ↔ record ∈ table.records ∧ keeps record = true :=
  List.mem_filter

variable [DecidableEq Key]

def get (table : Table key) (wanted : Key) : Option Record :=
  table.records.find? fun record => key record = wanted

def delete (table : Table key) (old : Key) : Table key where
  records := table.records.filter fun record => key record ≠ old
  nodup := table.nodup.sublist (List.filter_sublist.map key)

/-- Keep a record under its key, in the place of the record that was kept there. -/
def store (table : Table key) (record : Record) : Table key where
  records := record :: (table.delete (key record)).records
  nodup := by
    rw [List.map_cons, List.nodup_cons]
    exact ⟨by simp [delete], (table.delete (key record)).nodup⟩

variable {table : Table key} {record other : Record} {wanted old : Key}

theorem get_eq_some_iff : table.get wanted = some record ↔
    record ∈ table.records ∧ key record = wanted := by
  constructor
  · intro found
    exact ⟨mem_of_find?_eq_some found, by simpa using find?_some found⟩
  · rintro ⟨isRecord, isKey⟩
    obtain ⟨found, foundEq⟩ : ∃ found, table.get wanted = some found := by
      rw [← isSome_iff_exists, get, find?_isSome]
      exact ⟨record, isRecord, by simpa using isKey⟩
    have isFound := mem_of_find?_eq_some foundEq
    have foundKey : key found = wanted := by simpa using find?_some foundEq
    rw [foundEq, inj_on_of_nodup_map table.nodup isFound isRecord (foundKey.trans isKey.symm)]

theorem key_of_get (found : table.get wanted = some record) : key record = wanted :=
  (get_eq_some_iff.mp found).2

theorem mem_of_get (found : table.get wanted = some record) : record ∈ table.records :=
  (get_eq_some_iff.mp found).1

theorem get_key_of_mem (isRecord : record ∈ table.records) : table.get (key record) = some record :=
  get_eq_some_iff.mpr ⟨isRecord, rfl⟩

theorem eq_of_key_eq {other : Record} (isRecord : record ∈ table.records)
    (isOther : other ∈ table.records) (sameKey : key record = key other) : record = other := by
  have found := get_key_of_mem isRecord
  rw [sameKey, get_key_of_mem isOther] at found
  exact (some.inj found).symm

theorem get_eq_none_iff : table.get wanted = none ↔
    ∀ record ∈ table.records, key record ≠ wanted := by
  simp [get]

@[simp]
theorem mem_delete : record ∈ (table.delete old).records ↔
    record ∈ table.records ∧ key record ≠ old := by
  simp [delete]

@[simp]
theorem mem_store : other ∈ (table.store record).records ↔
    other = record ∨ (other ∈ table.records ∧ key other ≠ key record) := by
  simp [store]

theorem get_modify : (table.modify change keepsKey).get wanted = (table.get wanted).map change := by
  refine Option.ext fun record => ?_
  rw [get_eq_some_iff, Option.map_eq_some_iff, mem_modify]
  constructor
  · rintro ⟨⟨old, isRecord, rfl⟩, isKey⟩
    exact ⟨old, get_eq_some_iff.mpr ⟨isRecord, (keepsKey old).symm.trans isKey⟩, rfl⟩
  · rintro ⟨old, found, rfl⟩
    exact ⟨⟨old, mem_of_get found, rfl⟩, (keepsKey old).trans (key_of_get found)⟩

theorem get_filter : (table.filter keeps).get wanted = (table.get wanted).filter keeps := by
  refine Option.ext fun record => ?_
  rw [get_eq_some_iff, Option.filter_eq_some_iff, get_eq_some_iff, mem_filter]
  constructor
  · rintro ⟨⟨isRecord, isKept⟩, isKey⟩
    exact ⟨⟨isRecord, isKey⟩, isKept⟩
  · rintro ⟨⟨isRecord, isKey⟩, isKept⟩
    exact ⟨⟨isRecord, isKept⟩, isKey⟩

theorem map_key_filterMap_get (wanted : List Key) :
    ((wanted.filterMap table.get).map key).Sublist wanted := by
  induction wanted with
  | nil => exact List.Sublist.refl _
  | cons first _ ih =>
    rw [filterMap_cons]
    cases found : table.get first with
    | none => exact ih.cons first
    | some =>
      rw [← key_of_get found]
      exact ih.cons_cons _

theorem get_delete : (table.delete old).get wanted =
    if wanted = old then none else table.get wanted := by
  split_ifs with isOld
  · simp [get_eq_none_iff, isOld]
  · refine Option.ext fun record => ?_
    simp only [get_eq_some_iff, mem_delete]
    constructor
    · rintro ⟨⟨isRecord, -⟩, isKey⟩
      exact ⟨isRecord, isKey⟩
    · rintro ⟨isRecord, isKey⟩
      exact ⟨⟨isRecord, isKey ▸ isOld⟩, isKey⟩

theorem get_store : (table.store record).get wanted =
    if wanted = key record then some record else table.get wanted := by
  split_ifs with isKey
  · simp [get_eq_some_iff, isKey]
  · refine Option.ext fun other => ?_
    simp only [get_eq_some_iff, mem_store]
    constructor
    · rintro ⟨rfl | ⟨isRecord, -⟩, otherKey⟩
      · exact absurd otherKey.symm isKey
      · exact ⟨isRecord, otherKey⟩
    · rintro ⟨isRecord, otherKey⟩
      exact ⟨.inr ⟨isRecord, otherKey ▸ isKey⟩, otherKey⟩

theorem isSome_get_store (isStored : (table.get wanted).isSome = true) :
    ((table.store record).get wanted).isSome = true := by
  rw [get_store]
  split_ifs
  · rfl
  · exact isStored

theorem get_delete_eq_update : (table.delete old).get = update table.get old none := by
  funext wanted
  rw [get_delete, update_apply]

theorem get_store_eq_update :
    (table.store record).get = update table.get (key record) (some record) := by
  funext wanted
  rw [get_store, update_apply]

theorem forall_mem_store {P : Record → Prop} (holds : ∀ other ∈ table.records, P other)
    (isKept : P record) : ∀ other ∈ (table.store record).records, P other := by
  intro other isOther
  rcases mem_store.mp isOther with rfl | ⟨wasKept, -⟩
  · exact isKept
  · exact holds other wasKept

theorem forall_mem_delete {P : Record → Prop} (holds : ∀ other ∈ table.records, P other) :
    ∀ other ∈ (table.delete old).records, P other :=
  fun other isOther => holds other (mem_delete.mp isOther).1

end Table

/-! ## Association lists -/

namespace Assoc

variable {Key Value : Type} [DecidableEq Key] {key : Key}

theorem lookup_cons_ite (first wanted : Key) (value : Value) (entries : List (Key × Value)) :
    ((first, value) :: entries).lookup wanted =
      if wanted = first then some value else entries.lookup wanted := by
  rw [lookup_cons]
  by_cases isFirst : wanted = first
  · simp [isFirst]
  · rw [if_neg isFirst, beq_eq_false_iff_ne.mpr isFirst]

theorem lookup_filter_ne (entries : List (Key × Value)) (removed wanted : Key) :
    (entries.filter fun entry => entry.1 ≠ removed).lookup wanted =
      if wanted = removed then none else entries.lookup wanted := by
  induction entries with
  | nil => simp
  | cons entry _ ih =>
    obtain ⟨first, _⟩ := entry
    by_cases isRemoved : first = removed
    · subst isRemoved
      rw [filter_cons_of_neg (by simp), ih, lookup_cons_ite]
      by_cases isWanted : wanted = first <;> simp [isWanted]
    · rw [filter_cons_of_pos (by simpa using isRemoved), lookup_cons_ite, lookup_cons_ite, ih]
      by_cases isWanted : wanted = first
      · simp [isWanted, isRemoved]
      · simp [isWanted]

theorem mem_of_lookup {entries : List (Key × Value)} {value : Value}
    (found : entries.lookup key = some value) : (key, value) ∈ entries := by
  obtain ⟨_, _, rfl, -⟩ := lookup_eq_some_iff.mp found
  exact mem_append_right _ mem_cons_self

def set (entries : List (Key × Value)) (key : Key) (value : Option Value) : List (Key × Value) :=
  (value.map fun value => (key, value)).toList ++ entries.filter fun entry => entry.1 ≠ key

theorem set_singleton (old : Value) (value : Option Value) :
    set [(key, old)] key value = (value.map fun value => (key, value)).toList := by
  simp [set]

theorem lookup_singleton {other : Key} {value found : Value}
    (isFound : [(key, value)].lookup other = some found) : other = key ∧ found = value := by
  rw [lookup_cons_ite, lookup_nil] at isFound
  split_ifs at isFound with isKey
  exact ⟨isKey, (some.inj isFound).symm⟩

end Assoc

end DeepNps
