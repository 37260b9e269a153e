import DeepNps.FileOwnerPool
import Mathlib.Data.List.Nodup

/-!
# The pool of runtime owners

The order of the owners, the entries and the cursor are kept apart and stay in step.
-/

namespace DeepNps.Bridge

open List

/-- `runtimeOwnerPool`: the map `entries` is given by its lookups. -/
structure RuntimeOwnerPool (Value : Type) where
  order : List String
  entries : String → Option Value
  next : Nat

namespace RuntimeOwnerPool

variable {Value : Type}

def new : RuntimeOwnerPool Value where
  order := []
  entries := fun _ => none
  next := 0

def normalizeNextLocked (pool : RuntimeOwnerPool Value) : RuntimeOwnerPool Value :=
  if pool.order.length ≤ pool.next then { pool with next := 0 } else pool

def set (pool : RuntimeOwnerPool Value) (uuid : String) (value : Value) : RuntimeOwnerPool Value :=
  if uuid = "" then pool
  else
    normalizeNextLocked
      { pool with
        order := if (pool.entries uuid).isSome then pool.order else pool.order ++ [uuid]
        entries := Function.update pool.entries uuid (some value) }

def has (pool : RuntimeOwnerPool Value) (uuid : String) : Bool :=
  uuid ≠ "" && (pool.entries uuid).isSome

def indexOfLocked (pool : RuntimeOwnerPool Value) (uuid : String) : Option Nat :=
  if uuid = "" then none else pool.order.idxOf? uuid

def removeOrderIndexLocked (pool : RuntimeOwnerPool Value) (index : Nat) : RuntimeOwnerPool Value :=
  if pool.order.length ≤ index then pool
  else
    let order := pool.order.eraseIdx index
    { pool with
      order := order
      next :=
        if order = [] then 0
        else if index < pool.next then pool.next - 1
        else if order.length ≤ pool.next then 0
        else pool.next }

def remove (pool : RuntimeOwnerPool Value) (uuid : String) :
    (Nat × Bool) × RuntimeOwnerPool Value :=
  if uuid = "" then ((0, false), pool)
  else if (pool.entries uuid).isNone then ((pool.order.length, false), pool)
  else
    let pool := { pool with entries := Function.update pool.entries uuid none }
    let pool :=
      match pool.indexOfLocked uuid with
      | some index => pool.removeOrderIndexLocked index
      | none => pool
    let pool := pool.normalizeNextLocked
    ((pool.order.length, true), pool)

/-- `selectNextLocked`: the owner whose turn it is with its value, the number of
owners, and the pool. -/
def selectNextLocked (pool : RuntimeOwnerPool Value) :
    (Option (String × Value) × Nat) × RuntimeOwnerPool Value :=
  let count := pool.order.length
  if count = 0 then ((none, 0), pool)
  else
    let pool := pool.normalizeNextLocked
    match firstPresentFrom pool.order pool.entries pool.next with
    | some (index, uuid, value) =>
        ((some (uuid, value), count), { pool with next := (index + 1) % count })
    | none => ((none, count), pool)

def selectNext (pool : RuntimeOwnerPool Value) : Option (String × Value) × RuntimeOwnerPool Value :=
  (pool.selectNextLocked.1.1, pool.selectNextLocked.2)

def snapshotKeys (pool : RuntimeOwnerPool Value) : List String :=
  pool.order.filter fun uuid => uuid ≠ "" && (pool.entries uuid).isSome

structure Ok (pool : RuntimeOwnerPool Value) : Prop where
  nodup : pool.order.Nodup
  keys : ∀ uuid, uuid ∈ pool.order ↔ (pool.entries uuid).isSome = true
  named : "" ∉ pool.order
  cursor : pool.next < pool.order.length ∨ pool.next = 0

variable {pool : RuntimeOwnerPool Value} {uuid other : String}

theorem new_ok : (new : RuntimeOwnerPool Value).Ok where
  nodup := nodup_nil
  keys := by simp [new]
  named := not_mem_nil
  cursor := .inr rfl

@[simp]
theorem order_normalizeNextLocked (pool : RuntimeOwnerPool Value) :
    pool.normalizeNextLocked.order = pool.order := by
  rw [normalizeNextLocked]
  split_ifs <;> rfl

@[simp]
theorem entries_normalizeNextLocked (pool : RuntimeOwnerPool Value) :
    pool.normalizeNextLocked.entries = pool.entries := by
  rw [normalizeNextLocked]
  split_ifs <;> rfl

theorem ok_normalizeNextLocked (nodup : pool.order.Nodup)
    (keys : ∀ uuid, uuid ∈ pool.order ↔ (pool.entries uuid).isSome = true)
    (named : "" ∉ pool.order) : pool.normalizeNextLocked.Ok where
  nodup := by rwa [order_normalizeNextLocked]
  keys := by simpa using keys
  named := by rwa [order_normalizeNextLocked]
  cursor := by
    rw [order_normalizeNextLocked, normalizeNextLocked]
    split_ifs with isOut
    · exact .inr rfl
    · exact .inl (Nat.lt_of_not_le isOut)

theorem Ok.has_iff (ok : pool.Ok) : pool.has uuid = true ↔ uuid ∈ pool.order := by
  rw [has, Bool.and_eq_true, decide_eq_true_eq, ← ok.keys]
  constructor
  · exact And.right
  · intro isOwner
    refine ⟨?_, isOwner⟩
    rintro rfl
    exact ok.named isOwner

theorem Ok.order_set (ok : pool.Ok) (named : uuid ≠ "") (value : Value) :
    (pool.set uuid value).order =
      if uuid ∈ pool.order then pool.order else pool.order ++ [uuid] := by
  simp [set, named, ok.keys]

theorem Ok.set (ok : pool.Ok) (uuid : String) (value : Value) : (pool.set uuid value).Ok := by
  by_cases named : uuid = ""
  · rwa [RuntimeOwnerPool.set, if_pos named]
  · rw [RuntimeOwnerPool.set, if_neg named]
    apply ok_normalizeNextLocked
    · split_ifs with isOwner
      · exact ok.nodup
      · rw [← ok.keys] at isOwner
        rw [nodup_append_comm]
        exact nodup_cons.mpr ⟨isOwner, ok.nodup⟩
    · intro other
      by_cases isSame : other = uuid
      · subst isSame
        split_ifs with isOwner
        · simpa [ok.keys] using isOwner
        · simp
      · simp only [Function.update_of_ne isSame, ← ok.keys]
        split_ifs <;> simp [isSame]
    · split_ifs
      · exact ok.named
      · simp [ok.named, Ne.symm named]

theorem normalizeNextLocked_of_cursor (cursor : pool.next < pool.order.length ∨ pool.next = 0) :
    pool.normalizeNextLocked = pool := by
  rw [normalizeNextLocked, ite_eq_right_iff]
  intro isOut
  rw [← cursor.resolve_left (Nat.not_lt.mpr isOut)]

theorem Ok.remove_eq (ok : pool.Ok) (isOwner : uuid ∈ pool.order) :
    pool.remove uuid =
      (((pool.order.erase uuid).length, true),
        { order := pool.order.erase uuid
          entries := Function.update pool.entries uuid none
          next :=
            if pool.order.erase uuid = [] then 0
            else if pool.order.idxOf uuid < pool.next then pool.next - 1
            else if (pool.order.erase uuid).length ≤ pool.next then 0
            else pool.next }) := by
  have named : uuid ≠ "" := ne_of_mem_of_not_mem isOwner ok.named
  have isEntry : pool.entries uuid ≠ none :=
    Option.isSome_iff_ne_none.mp ((ok.keys uuid).mp isOwner)
  have inside := idxOf_lt_length_of_mem isOwner
  have length := length_erase_of_mem isOwner
  simp only [remove, if_neg named, Option.isNone_iff_eq_none, if_neg isEntry, indexOfLocked,
    idxOf?_of_mem isOwner, removeOrderIndexLocked, if_neg (Nat.not_le.mpr inside),
    eraseIdx_idxOf_eq_erase]
  rw [normalizeNextLocked_of_cursor]
  have cursor := ok.cursor
  dsimp only
  split_ifs <;> omega

theorem Ok.remove_of_mem (ok : pool.Ok) (isOwner : uuid ∈ pool.order) :
    (pool.remove uuid).1 = ((pool.order.erase uuid).length, true) ∧
      (pool.remove uuid).2.order = pool.order.erase uuid ∧ (pool.remove uuid).2.Ok := by
  have length := length_erase_of_mem isOwner
  have cursor := ok.cursor
  rw [ok.remove_eq isOwner]
  refine ⟨rfl, rfl, ok.nodup.erase uuid, ?_, fun isIn => ok.named (mem_of_mem_erase isIn), ?_⟩
  · intro other
    rw [ok.nodup.mem_erase_iff]
    by_cases isSame : other = uuid
    · simp [isSame]
    · simp [isSame, ok.keys]
  · dsimp only
    split_ifs <;> omega

theorem Ok.remove_of_not_mem (ok : pool.Ok) (notOwner : uuid ∉ pool.order) :
    (pool.remove uuid).1.2 = false ∧ (pool.remove uuid).2 = pool := by
  rw [ok.keys, Bool.not_eq_true, Option.isSome_eq_false_iff] at notOwner
  rw [remove]
  split_ifs
  · exact ⟨rfl, rfl⟩
  · exact ⟨rfl, rfl⟩

theorem Ok.snapshotKeys_eq (ok : pool.Ok) : pool.snapshotKeys = pool.order := by
  rw [snapshotKeys, filter_eq_self]
  intro _ isOwner
  exact ok.has_iff.mpr isOwner

end RuntimeOwnerPool

end DeepNps.Bridge
