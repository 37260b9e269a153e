import Mathlib.Data.List.Basic

/-!
# The owners of a tunnel or host

The runtime owners of a shared tunnel or host, in the order of their registration.
-/

namespace DeepNps

/-- The loop of `selectNext`: the first index with an entry, going round from the cursor. -/
def firstPresentFrom {Value : Type} (order : List String) (entries : String → Option Value)
    (start : Nat) : Option (Nat × String × Value) :=
  (List.range order.length).findSome? fun i =>
    let index := (start + i) % order.length
    order[index]?.bind fun uuid => (entries uuid).map fun value => (index, uuid, value)

theorem idxOf?_of_mem {order : List String} {uuid : String} (isOwner : uuid ∈ order) :
    order.idxOf? uuid = some (order.idxOf uuid) := by
  obtain ⟨_, isIndex⟩ := Option.isSome_iff_exists.mp (List.isSome_idxOf?.mpr isOwner)
  rw [List.idxOf_eq_getD_idxOf?, isIndex, Option.getD_some]

namespace File

/-- `runtimeOwnerPool`: the map `entries` is given by its lookups. -/
structure RuntimeOwnerPool (Value : Type) where
  order : List String
  entries : String → Option Value
  next : Nat

namespace RuntimeOwnerPool

variable {Value : Type}

def new : RuntimeOwnerPool Value where
  order := []
  entries := fun _ => none
  next := 0

def count (pool : Option (RuntimeOwnerPool Value)) : Nat :=
  (pool.map fun pool => pool.order.length).getD 0

def set (pool : RuntimeOwnerPool Value) (uuid : String) (value : Value) : RuntimeOwnerPool Value :=
  if uuid = "" then pool
  else
    let order := if (pool.entries uuid).isSome then pool.order else pool.order ++ [uuid]
    { order := order
      entries := Function.update pool.entries uuid (some value)
      next := if order.length ≤ pool.next then 0 else pool.next }

def remove (pool : RuntimeOwnerPool Value) (uuid : String) :
    (Nat × Bool) × RuntimeOwnerPool Value :=
  if uuid = "" then ((0, false), pool)
  else if (pool.entries uuid).isNone then ((pool.order.length, false), pool)
  else
    let entries := Function.update pool.entries uuid none
    match pool.order.idxOf? uuid with
    | some index =>
        let order := pool.order.eraseIdx index
        let next :=
          if order = [] then 0
          else if index < pool.next then pool.next - 1
          else if order.length ≤ pool.next then 0
          else pool.next
        ((order.length, true), { order, entries, next })
    | none =>
        let next := if pool.order = [] then 0 else pool.next
        ((pool.order.length, true), { pool with entries, next })

def first (pool : RuntimeOwnerPool Value) : Option (String × Value) :=
  pool.order.findSome? fun uuid => (pool.entries uuid).map fun value => (uuid, value)

def selectNext (pool : RuntimeOwnerPool Value) : Option (String × Value) × RuntimeOwnerPool Value :=
  if pool.order = [] then (none, pool)
  else
    let next := if pool.order.length ≤ pool.next then 0 else pool.next
    match firstPresentFrom pool.order pool.entries next with
    | some (index, uuid, value) =>
        (some (uuid, value), { pool with next := (index + 1) % pool.order.length })
    | none => (none, { pool with next })

variable {pool : RuntimeOwnerPool Value} {uuid other : String} {value : Value}

theorem remove_spec (removed : (pool.remove uuid).1.2 = true) :
    (pool.remove uuid).2.entries = Function.update pool.entries uuid none ∧
      (pool.remove uuid).2.order ⊆ pool.order := by
  have named : ¬ uuid = "" := fun isBlank => by simp [remove, isBlank] at removed
  have present : ¬ (pool.entries uuid).isNone = true := fun absent => by
    simp [remove, named, absent] at removed
  rw [remove, if_neg named, if_neg present]
  cases pool.order.idxOf? uuid with
  | none => exact ⟨rfl, fun _ => id⟩
  | some => exact ⟨rfl, (List.eraseIdx_sublist ..).subset⟩

theorem entries_of_first_remove (removed : (pool.remove uuid).1.2 = true)
    (isFirst : (pool.remove uuid).2.first = some (other, value)) :
    other ∈ pool.order ∧ other ≠ uuid ∧ pool.entries other = some value := by
  obtain ⟨entriesEq, inOrder⟩ := remove_spec removed
  obtain ⟨_, isOwner, ownerEq⟩ := List.exists_of_findSome?_eq_some isFirst
  obtain ⟨_, foundEq, pairEq⟩ := Option.map_eq_some_iff.mp ownerEq
  cases pairEq
  rw [entriesEq, Function.update_apply] at foundEq
  split_ifs at foundEq with isRemoved
  exact ⟨inOrder isOwner, isRemoved, foundEq⟩

end RuntimeOwnerPool

end File

end DeepNps
