import Mathlib.Data.List.Nodup

/-!
# The pool of distinct values

The values are in a list and their positions in an index.  A value is taken out by moving
the last one into its place.
-/

namespace DeepNps

/-- `pool.Pool`: `idx` is the map from the values to their positions. -/
structure Pool (Value : Type) where
  rr : UInt64
  rnd : UInt64
  head : UInt64
  list : List Value
  idx : Value → Option Nat

open List Function Option

namespace Pool

variable {Value : Type} [DecidableEq Value]

def new : Pool Value where
  rr := 0
  rnd := 0
  head := 0
  list := []
  idx := fun _ => none

def has (pool : Pool Value) (value : Value) : Bool := (pool.idx value).isSome

def size (pool : Pool Value) : Nat := pool.list.length

def add (pool : Pool Value) (value : Value) : Pool Value :=
  if pool.has value then pool
  else
    { pool with
      list := pool.list ++ [value]
      idx := update pool.idx value (some pool.list.length) }

/-- The head of the queue order after a removal that leaves `last` values. -/
def headAfter (head : UInt64) (last : Nat) : UInt64 :=
  if last ≤ 1 then 0
  else if head > UInt64.ofNat (last - 1) then UInt64.ofNat (last - 1)
  else head

/-- Take out the value at position `i`: the last one moves there. -/
def removeAt (pool : Pool Value) (i : Nat) : Pool Value :=
  match pool.list[i]?, pool.list.getLast? with
  | some value, some moved =>
      let last := pool.list.length - 1
      let idx := if i = last then pool.idx else update pool.idx moved (some i)
      { pool with
        list := (pool.list.set i moved).dropLast
        idx := update idx value none
        head := headAfter pool.head last }
  | _, _ => pool

def remove (pool : Pool Value) (value : Value) : Pool Value :=
  match pool.idx value with
  | none => pool
  | some i =>
      let pool := pool.removeAt i
      if pool.list.isEmpty then { pool with head := 0 } else pool

def next (pool : Pool Value) : Option Value × Pool Value :=
  if pool.list.isEmpty then (none, pool)
  else if pool.rr > 1152921504606846976 then
    (pool.list[0]?, { pool with rr := 0 })
  else
    (pool.list[pool.rr.toNat % pool.list.length]?, { pool with rr := pool.rr + 1 })

def mixUint64 (x : UInt64) : UInt64 :=
  let x := x ^^^ (x >>> 30)
  let x := x * 0xbf58476d1ce4e5b9
  let x := x ^^^ (x >>> 27)
  let x := x * 0x94d049bb133111eb
  x ^^^ (x >>> 31)

def random (pool : Pool Value) : Option Value × Pool Value :=
  if pool.list.isEmpty then (none, pool)
  else
    let rnd := pool.rnd + 0x9e3779b97f4a7c15
    (pool.list[(mixUint64 rnd).toNat % pool.list.length]?, { pool with rnd := rnd })

/-- The index holds exactly the positions of the values. -/
def Indexed (idx : Value → Option Nat) (list : List Value) : Prop :=
  ∀ value i, idx value = some i ↔ list[i]? = some value

variable {idx : Value → Option Nat} {list : List Value} {value other moved : Value} {i j : Nat}

omit [DecidableEq Value] in
theorem Indexed.place_inj (indexed : Indexed idx list) (first : list[i]? = some value)
    (second : list[j]? = some value) : i = j :=
  some.inj (((indexed value i).mpr first).symm.trans ((indexed value j).mpr second))

omit [DecidableEq Value] in
theorem Indexed.nodup (indexed : Indexed idx list) : list.Nodup := by
  rw [nodup_iff_getElem?_ne_getElem?]
  intro _ j _ inside same
  have found : list[j]? = some (list[j]) := getElem?_eq_getElem inside
  have := indexed.place_inj (same.trans found) found
  omega

theorem Indexed.append (indexed : Indexed idx list) (isNew : value ∉ list) :
    Indexed (update idx value (some list.length)) (list ++ [value]) := by
  intro other i
  by_cases isSame : other = value
  · subst isSame
    have notFound : list[i]? ≠ some other := fun found => isNew (mem_of_getElem? found)
    simp only [update_self, some.injEq, getElem?_append, getElem?_singleton]
    constructor
    · rintro rfl
      simp
    · intro found
      split_ifs at found with inside atEnd
      · exact absurd found notFound
      · omega
  · rw [update_of_ne isSame, indexed, getElem?_append, getElem?_singleton]
    split_ifs with inside atEnd
    · rfl
    · have outside : list[i]? = none := getElem?_eq_none (by omega)
      simp [outside, Ne.symm isSame]
    · simp [getElem?_eq_none (Nat.le_of_not_lt inside)]

omit [DecidableEq Value] in
theorem getElem?_moved (list : List Value) (i j : Nat) (moved : Value) :
    (list.set i moved).dropLast[j]? =
      if j < list.length - 1 then (if j = i then some moved else list[j]?) else none := by
  rw [getElem?_dropLast, length_set]
  split_ifs with inside isPlace
  · rw [isPlace, getElem?_set_self (by omega)]
  · rw [getElem?_set_ne (Ne.symm isPlace)]
  · rfl

theorem Indexed.getElem?_moved_iff (indexed : Indexed idx list) (atPlace : list[i]? = some value)
    (isLast : list[list.length - 1]? = some moved) :
    (list.set i moved).dropLast[j]? = some other ↔
      other ≠ value ∧ if other = moved then j = i else list[j]? = some other := by
  obtain ⟨_, -⟩ := List.getElem?_eq_some_iff.mp atPlace
  rw [getElem?_moved]
  constructor
  · intro found
    split_ifs at found with before isPlace
    · cases found
      refine ⟨?_, by rw [if_pos rfl, isPlace]⟩
      rintro rfl
      have := indexed.place_inj atPlace isLast
      omega
    · refine ⟨?_, ?_⟩
      · rintro rfl
        exact isPlace (indexed.place_inj found atPlace)
      · rw [if_neg, found]
        rintro rfl
        have := indexed.place_inj found isLast
        omega
  · rintro ⟨isOther, found⟩
    split_ifs at found with isMoved
    · subst isMoved
      have notLast : i ≠ list.length - 1 := by
        intro atEnd
        rw [atEnd, isLast] at atPlace
        exact isOther (some.inj atPlace)
      rw [if_pos (by omega), if_pos found]
    · have notPlace : j ≠ i := by
        rintro rfl
        exact isOther (some.inj (found.symm.trans atPlace))
      have notLast : j ≠ list.length - 1 := by
        rintro rfl
        exact isMoved (some.inj (found.symm.trans isLast))
      obtain ⟨_, -⟩ := List.getElem?_eq_some_iff.mp found
      rw [if_pos (by omega), if_neg notPlace, found]

def Ok (pool : Pool Value) : Prop := Indexed pool.idx pool.list

variable {pool : Pool Value}

omit [DecidableEq Value] in
theorem new_ok : (new : Pool Value).Ok := by
  simp [Ok, Indexed, new]

omit [DecidableEq Value] in
theorem Ok.has_iff (ok : pool.Ok) : pool.has value = true ↔ value ∈ pool.list := by
  simp only [has, isSome_iff_exists, ok value, mem_iff_getElem?]

theorem Ok.add (ok : pool.Ok) (value : Value) : (pool.add value).Ok := by
  rw [Pool.add]
  split_ifs with isIn
  · exact ok
  · rw [ok.has_iff] at isIn
    exact Indexed.append ok isIn

theorem Ok.mem_add (ok : pool.Ok) :
    other ∈ (pool.add value).list ↔ other = value ∨ other ∈ pool.list := by
  rw [Pool.add]
  split_ifs with isIn
  · rw [ok.has_iff] at isIn
    constructor
    · exact .inr
    · rintro (rfl | isOther)
      · exact isIn
      · exact isOther
  · simp [or_comm]

theorem length_add_le (pool : Pool Value) (value : Value) :
    (pool.add value).list.length ≤ pool.list.length + 1 := by
  rw [add]
  split_ifs
  · exact Nat.le_succ _
  · simp

theorem Ok.removeAt_spec (ok : pool.Ok) (atPlace : pool.list[i]? = some value) :
    (pool.removeAt i).Ok ∧
      ∀ other, other ∈ (pool.removeAt i).list ↔ other ∈ pool.list ∧ other ≠ value := by
  obtain ⟨_, -⟩ := List.getElem?_eq_some_iff.mp atPlace
  obtain ⟨moved, isLast⟩ : ∃ moved, pool.list[pool.list.length - 1]? = some moved :=
    ⟨_, List.getElem?_eq_getElem (by omega)⟩
  have moved_iff {other : Value} {j : Nat} :
      (pool.list.set i moved).dropLast[j]? = some other ↔
        other ≠ value ∧ if other = moved then j = i else pool.list[j]? = some other :=
    Indexed.getElem?_moved_iff ok atPlace isLast
  have removed : pool.removeAt i =
      { pool with
        list := (pool.list.set i moved).dropLast
        idx := update
          (if i = pool.list.length - 1 then pool.idx else update pool.idx moved (some i))
          value none
        head := headAfter pool.head (pool.list.length - 1) } := by
    simp only [removeAt, atPlace, List.getLast?_eq_getElem?, isLast]
  rw [removed]
  refine ⟨?_, ?_⟩
  · intro other j
    simp only [moved_iff]
    by_cases isValue : other = value
    · subst isValue
      simp
    · rw [update_of_ne isValue]
      simp only [ne_eq, isValue, not_false_eq_true, true_and]
      by_cases isMoved : other = moved
      · subst isMoved
        have notLast : i ≠ pool.list.length - 1 := by
          rintro rfl
          exact isValue (some.inj (isLast.symm.trans atPlace))
        simp [notLast, eq_comm]
      · rw [if_neg isMoved]
        split_ifs
        · exact ok other j
        · rw [update_of_ne isMoved]
          exact ok other j
  · intro other
    simp only [List.mem_iff_getElem?, moved_iff]
    by_cases isMoved : other = moved
    · subst isMoved
      simp only [if_true, exists_and_left, exists_eq, and_true]
      exact ⟨fun isOther => ⟨⟨_, isLast⟩, isOther⟩, fun both => both.2⟩
    · simp only [if_neg isMoved, exists_and_left]
      exact and_comm

theorem Ok.remove_spec (ok : pool.Ok) (value : Value) :
    (pool.remove value).Ok ∧
      ∀ other, other ∈ (pool.remove value).list ↔ other ∈ pool.list ∧ other ≠ value := by
  cases isAt : pool.idx value with
  | none =>
    have isOut : value ∉ pool.list := by
      rw [← ok.has_iff, has, isAt]
      simp
    simp only [remove, isAt]
    refine ⟨ok, fun other => ⟨fun isIn => ⟨isIn, ?_⟩, fun both => both.1⟩⟩
    rintro rfl
    exact isOut isIn
  | some i =>
    obtain ⟨removedOk, mem⟩ := ok.removeAt_spec ((ok value i).mp isAt)
    simp only [remove, isAt]
    split_ifs
    · exact ⟨removedOk, mem⟩
    · exact ⟨removedOk, mem⟩

theorem Ok.remove (ok : pool.Ok) (value : Value) : (pool.remove value).Ok :=
  (ok.remove_spec value).1

/-- A choice of the pool changes its counters only. -/
structure Chooses (pool : Pool Value) (choice : Option Value × Pool Value) : Prop where
  list : choice.2.list = pool.list
  idx : choice.2.idx = pool.idx
  isMember : ∀ value ∈ choice.1, value ∈ pool.list
  isSome : pool.list ≠ [] → choice.1.isSome

omit [DecidableEq Value] in
theorem chooses_of_getElem? {pool after : Pool Value} {n : Nat}
    (sameList : after.list = pool.list) (sameIdx : after.idx = pool.idx) :
    pool.Chooses (pool.list[n % pool.list.length]?, after) where
  list := sameList
  idx := sameIdx
  isMember := fun _ isValue => mem_of_getElem? isValue
  isSome := by
    intro nonempty
    have inside := Nat.mod_lt n (length_pos_iff.mpr nonempty)
    rw [getElem?_eq_getElem inside, isSome_some]

omit [DecidableEq Value] in
theorem chooses_none (isEmpty : pool.list.isEmpty = true) : pool.Chooses (none, pool) where
  list := rfl
  idx := rfl
  isMember := nofun
  isSome := fun nonempty => absurd (isEmpty_iff.mp isEmpty) nonempty

omit [DecidableEq Value] in
theorem next_chooses (pool : Pool Value) : pool.Chooses pool.next := by
  rw [next]
  by_cases isEmpty : pool.list.isEmpty = true
  · rw [if_pos isEmpty]
    exact chooses_none isEmpty
  · rw [if_neg isEmpty]
    split_ifs with isLarge
    · rw [← Nat.zero_mod pool.list.length]
      exact chooses_of_getElem? rfl rfl
    · exact chooses_of_getElem? rfl rfl

omit [DecidableEq Value] in
theorem random_chooses (pool : Pool Value) : pool.Chooses pool.random := by
  rw [random]
  by_cases isEmpty : pool.list.isEmpty = true
  · rw [if_pos isEmpty]
    exact chooses_none isEmpty
  · rw [if_neg isEmpty]
    exact chooses_of_getElem? rfl rfl

end Pool

end DeepNps
