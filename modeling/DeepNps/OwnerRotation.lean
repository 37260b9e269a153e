import DeepNps.BridgeOwnerPool
import Mathlib.Data.List.Rotate

/-!
# Turns of the runtime owners

The owners read from the cursor on and round are a queue: two owners that stay registered
are selected in alternation.  The pools of the two packages agree on all calls.
-/

namespace DeepNps

open List

inductive OwnerCall (Value : Type) where
  | set (uuid : String) (value : Value)
  | remove (uuid : String)
  | selectNext

inductive OwnerAnswer (Value : Type) where
  | set
  | remove (result : Nat × Bool)
  | selectNext (result : Option (String × Value))

def OwnerAnswer.selects {Value : Type} (uuid : String) : OwnerAnswer Value → Bool
  | .selectNext (some (selected, _)) => selected = uuid
  | _ => false

def ownerCalls {Pool Value : Type} (call : Pool → OwnerCall Value → OwnerAnswer Value × Pool) :
    Pool → List (OwnerCall Value) → List (OwnerAnswer Value) × Pool
  | pool, [] => ([], pool)
  | pool, next :: calls =>
      let rest := ownerCalls call (call pool next).2 calls
      ((call pool next).1 :: rest.1, rest.2)

variable {Value : Type}

def File.RuntimeOwnerPool.call (pool : File.RuntimeOwnerPool Value) :
    OwnerCall Value → OwnerAnswer Value × File.RuntimeOwnerPool Value
  | .set uuid value => (.set, pool.set uuid value)
  | .remove uuid => (.remove (pool.remove uuid).1, (pool.remove uuid).2)
  | .selectNext => (.selectNext pool.selectNext.1, pool.selectNext.2)

namespace Bridge.RuntimeOwnerPool

open scoped List

def call (pool : RuntimeOwnerPool Value) :
    OwnerCall Value → OwnerAnswer Value × RuntimeOwnerPool Value
  | .set uuid value => (.set, pool.set uuid value)
  | .remove uuid => (.remove (pool.remove uuid).1, (pool.remove uuid).2)
  | .selectNext => (.selectNext pool.selectNext.1, pool.selectNext.2)

def after (pool : RuntimeOwnerPool Value) (calls : List (OwnerCall Value)) :
    RuntimeOwnerPool Value :=
  (ownerCalls call pool calls).2

def selections (pool : RuntimeOwnerPool Value) (calls : List (OwnerCall Value))
    (uuid : String) : Nat :=
  (ownerCalls call pool calls).1.countP fun answer => answer.selects uuid

/-- The owners in the order of their turns. -/
def turns (pool : RuntimeOwnerPool Value) : List String := pool.order.rotate pool.next

def toFile (pool : RuntimeOwnerPool Value) : File.RuntimeOwnerPool Value where
  order := pool.order
  entries := pool.entries
  next := pool.next

variable {pool : RuntimeOwnerPool Value} {uuid owner other : String}

theorem Ok.selectNext_of_turns (ok : pool.Ok) {rest : List String}
    (isTurn : pool.turns = uuid :: rest) :
    ∃ value next, pool.selectNext = (some (uuid, value), { pool with next := next }) ∧
      pool.toFile.selectNext = (some (uuid, value), { pool.toFile with next := next }) ∧
      next < pool.order.length ∧ pool.order.rotate next = rest ++ [uuid] := by
  have isOwner : uuid ∈ pool.order := by
    rw [← mem_rotate, ← turns, isTurn]
    exact mem_cons_self
  have length := length_pos_of_mem isOwner
  have inside : pool.next < pool.order.length := by
    have cursor := ok.cursor
    omega
  obtain ⟨value, isValue⟩ := Option.isSome_iff_exists.mp ((ok.keys uuid).mp isOwner)
  have isAt : pool.order[pool.next]? = some uuid := by
    rw [← head?_rotate inside, ← turns, isTurn, head?_cons]
  have found : firstPresentFrom pool.order pool.entries pool.next =
      some (pool.next, uuid, value) := by
    rw [firstPresentFrom, ← Nat.succ_pred_eq_of_pos length, range_succ_eq_map,
      Nat.succ_pred_eq_of_pos length]
    simp [Nat.mod_eq_of_lt inside, isAt, isValue]
  refine ⟨value, (pool.next + 1) % pool.order.length, ?_, ?_, Nat.mod_lt _ length, ?_⟩
  · simp [selectNext, selectNextLocked, length.ne', normalizeNextLocked_of_cursor ok.cursor, found]
  · simp [File.RuntimeOwnerPool.selectNext, toFile, ne_nil_of_mem isOwner,
      Nat.not_le.mpr inside, found]
  · rw [rotate_mod, ← rotate_rotate, ← turns, isTurn, rotate_cons_succ, rotate_zero]

theorem selectNext_of_nil (isEmpty : pool.order = []) :
    pool.selectNext = (none, pool) ∧ pool.toFile.selectNext = (none, pool.toFile) := by
  simp [selectNext, selectNextLocked, File.RuntimeOwnerPool.selectNext, toFile, isEmpty]

theorem turns_eq_nil : pool.turns = [] ↔ pool.order = [] := rotate_eq_nil_iff

theorem Ok.selectNext_eq_none (ok : pool.Ok) : pool.selectNext.1 = none ↔ pool.order = [] := by
  constructor
  · intro failed
    by_contra hasOwner
    obtain ⟨_, _, isTurn⟩ := exists_cons_of_ne_nil (mt turns_eq_nil.mp hasOwner)
    obtain ⟨_, _, selected, -⟩ := ok.selectNext_of_turns isTurn
    rw [selected] at failed
    cases failed
  · intro isEmpty
    rw [(selectNext_of_nil isEmpty).1]

theorem Ok.split (ok : pool.Ok) : ∃ front back, pool.order = front ++ back ∧
    pool.next = front.length ∧ pool.turns = back ++ front := by
  have inside : pool.next ≤ pool.order.length := by
    have cursor := ok.cursor
    omega
  exact ⟨_, _, (take_append_drop ..).symm, (length_take_of_le inside).symm,
    rotate_eq_drop_append_take inside⟩

theorem Ok.turns_set (ok : pool.Ok) (uuid : String) (value : Value) :
    pool.turns <+ (pool.set uuid value).turns := by
  obtain ⟨_, _, isOrder, isNext, isTurns⟩ := ok.split
  have cursor := ok.cursor
  rw [isOrder, length_append] at cursor
  rw [isTurns, RuntimeOwnerPool.set, normalizeNextLocked_of_cursor]
  · split_ifs
    · rw [isTurns]
    · rw [turns, isOrder, isNext, rotate_append_length_eq]
    · rw [turns, isOrder, isNext, append_assoc, rotate_append_length_eq]
      exact (sublist_append_left ..).append (.refl _)
  · dsimp only
    split_ifs <;> simp only [isOrder, length_append] <;> omega

theorem Ok.turns_remove (ok : pool.Ok) (uuid : String) :
    (pool.remove uuid).2.turns = pool.turns.erase uuid := by
  by_cases isOwner : uuid ∈ pool.order
  · obtain ⟨front, back, isOrder, isNext, isTurns⟩ := ok.split
    have apart := disjoint_of_nodup_append (isOrder ▸ ok.nodup)
    rw [ok.remove_eq isOwner, isTurns, turns, isNext, isOrder]
    dsimp only
    by_cases isFront : uuid ∈ front
    · rw [erase_append_left _ isFront, erase_append_right _ (apart isFront),
        idxOf_append_of_mem isFront, if_pos (idxOf_lt_length_of_mem isFront),
        ← length_erase_of_mem isFront]
      split_ifs with isEmpty
      · obtain ⟨noFront, noBack⟩ := append_eq_nil_iff.mp isEmpty
        rw [noFront, noBack]
        rfl
      · rw [rotate_append_length_eq]
    · have isBack : uuid ∈ back := (mem_append.mp (isOrder ▸ isOwner)).resolve_left isFront
      rw [erase_append_right _ isFront, erase_append_left _ isBack,
        idxOf_append_of_notMem isFront, if_neg (Nat.not_lt.mpr (Nat.le_add_right ..))]
      by_cases noBack : back.erase uuid = []
      · simp [noBack]
      · have length := length_pos_iff.mpr noBack
        rw [if_neg (mt append_eq_nil_iff.mp fun isEmpty => noBack isEmpty.2),
          if_neg (by rw [length_append]; omega), rotate_append_length_eq]
  · rw [(ok.remove_of_not_mem isOwner).2, turns, erase_of_not_mem (mt mem_rotate.mp isOwner)]

theorem toFile_normalizeNextLocked : pool.normalizeNextLocked.toFile =
    { pool.toFile with next := if pool.order.length ≤ pool.next then 0 else pool.next } := by
  rw [normalizeNextLocked]
  split_ifs <;> rfl

section

variable (ok : pool.Ok)

include ok

theorem Ok.toFile_remove :
    pool.toFile.remove uuid = ((pool.remove uuid).1, (pool.remove uuid).2.toFile) := by
  by_cases isOwner : uuid ∈ pool.order
  · have isEntry : pool.entries uuid ≠ none :=
      Option.isSome_iff_ne_none.mp ((ok.keys uuid).mp isOwner)
    rw [ok.remove_eq isOwner]
    simp only [File.RuntimeOwnerPool.remove, toFile, ne_of_mem_of_not_mem isOwner ok.named,
      Option.isNone_iff_eq_none, isEntry, idxOf?_of_mem isOwner, eraseIdx_idxOf_eq_erase,
      if_false]
  · have absent : pool.entries uuid = none := by
      simpa using mt (ok.keys uuid).mpr isOwner
    rw [File.RuntimeOwnerPool.remove, remove]
    split_ifs <;> simp_all [toFile]

theorem Ok.call (call : OwnerCall Value) :
    (pool.call call).2.Ok ∧
      pool.toFile.call call = ((pool.call call).1, (pool.call call).2.toFile) := by
  cases call with
  | set uuid value =>
    refine ⟨ok.set uuid value, ?_⟩
    rw [RuntimeOwnerPool.call, RuntimeOwnerPool.set, apply_ite toFile, toFile_normalizeNextLocked]
    rfl
  | remove uuid =>
    refine ⟨?_, by rw [File.RuntimeOwnerPool.call, ok.toFile_remove, RuntimeOwnerPool.call]⟩
    by_cases isOwner : uuid ∈ pool.order
    · exact (ok.remove_of_mem isOwner).2.2
    · rwa [RuntimeOwnerPool.call, (ok.remove_of_not_mem isOwner).2]
  | selectNext =>
    cases isTurn : pool.turns with
    | nil =>
      obtain ⟨here, there⟩ := selectNext_of_nil (turns_eq_nil.mp isTurn)
      simp only [RuntimeOwnerPool.call, File.RuntimeOwnerPool.call, here, there]
      exact ⟨ok, trivial⟩
    | cons =>
      obtain ⟨_, _, here, there, inside, -⟩ := ok.selectNext_of_turns isTurn
      simp only [RuntimeOwnerPool.call, File.RuntimeOwnerPool.call, here, there]
      exact ⟨{ ok with cursor := .inl inside }, rfl⟩

theorem Ok.after (calls : List (OwnerCall Value)) :
    (pool.after calls).Ok ∧ ownerCalls File.RuntimeOwnerPool.call pool.toFile calls =
      ((ownerCalls RuntimeOwnerPool.call pool calls).1, (pool.after calls).toFile) := by
  induction calls generalizing pool with
  | nil => exact ⟨ok, rfl⟩
  | cons call _ ih =>
    obtain ⟨nextOk, sameAnswer⟩ := ok.call call
    obtain ⟨lastOk, sameAnswers⟩ := ih nextOk
    refine ⟨lastOk, ?_⟩
    simp only [ownerCalls, sameAnswer, sameAnswers]
    rfl

theorem Ok.before_selectNext (before : [owner, other] <+ pool.turns) :
    (pool.call .selectNext).1.selects other = false ∧
      (if (pool.call .selectNext).1.selects owner then [other, owner] else [owner, other]) <+
        (pool.call .selectNext).2.turns := by
  have nodup : pool.turns.Nodup := nodup_rotate.mpr ok.nodup
  obtain ⟨selected, _, isTurn⟩ := exists_cons_of_ne_nil (ne_nil_of_mem
    (before.subset mem_cons_self))
  obtain ⟨_, _, here, -, -, rotated⟩ := ok.selectNext_of_turns isTurn
  rw [isTurn] at nodup before
  obtain ⟨isFirst, -⟩ := nodup_cons.mp nodup
  rw [RuntimeOwnerPool.call, here, turns, rotated]
  obtain later | ⟨rfl, later⟩ := cons_sublist_cons'.mp before
  · have apart : ∀ uuid ∈ [owner, other], selected ≠ uuid := fun uuid isOne =>
      (ne_of_mem_of_not_mem (later.subset isOne) isFirst).symm
    simp only [OwnerAnswer.selects, apart owner (by simp), apart other (by simp)]
    exact ⟨rfl, later.trans (sublist_append_left ..)⟩
  · have apart := ne_of_mem_of_not_mem (singleton_sublist.mp later) isFirst
    simp only [OwnerAnswer.selects, apart.symm]
    exact ⟨rfl, later.append (.refl _)⟩

theorem Ok.before_call {call : OwnerCall Value} (before : [owner, other] <+ pool.turns)
    (stays : owner ∈ (pool.call call).2.order) (otherStays : other ∈ (pool.call call).2.order) :
    (pool.call call).1.selects other = false ∧
      (if (pool.call call).1.selects owner then [other, owner] else [owner, other]) <+
        (pool.call call).2.turns := by
  cases call with
  | set uuid value => exact ⟨rfl, before.trans (ok.turns_set uuid value)⟩
  | remove uuid =>
    have removed : ∀ other ∈ (pool.remove uuid).2.order, other ≠ uuid := by
      intro _ isOwner isRemoved
      rw [← mem_rotate, ← turns, ok.turns_remove, isRemoved] at isOwner
      exact (nodup_rotate.mpr ok.nodup).not_mem_erase isOwner
    have notOne : uuid ∉ [owner, other] := by
      simp [(removed _ stays).symm, (removed _ otherStays).symm]
    refine ⟨rfl, ?_⟩
    rw [RuntimeOwnerPool.call, ok.turns_remove, ← erase_of_not_mem notOne]
    exact before.erase uuid
  | selectNext => exact ok.before_selectNext before

theorem Ok.alternate {calls : List (OwnerCall Value)}
    (stay : ∀ before ∈ calls.inits,
      owner ∈ (pool.after before).order ∧ other ∈ (pool.after before).order)
    (waits : pool.selections calls owner = 0)
    (returns : ((pool.after calls).call .selectNext).1.selects owner = true) :
    ([other, owner] <+ pool.turns → pool.selections calls other = 1) ∧
      ([owner, other] <+ pool.turns → pool.selections calls other = 0) := by
  induction calls generalizing pool with
  | nil =>
    refine ⟨fun before => ?_, fun _ => rfl⟩
    exact absurd returns (Bool.not_eq_true _ ▸ (ok.before_selectNext before).1)
  | cons call calls ih =>
    have stayNext : ∀ before ∈ calls.inits, owner ∈ (pool.after (call :: before)).order ∧
        other ∈ (pool.after (call :: before)).order := fun before isInit =>
      stay (call :: before) (by simpa using isInit)
    obtain ⟨stays, otherStays⟩ := stayNext [] (by simp)
    have counted : ∀ uuid, pool.selections (call :: calls) uuid =
        (pool.call call).2.selections calls uuid +
          if (pool.call call).1.selects uuid = true then 1 else 0 := fun _ =>
      countP_cons
    rw [counted, Nat.add_eq_zero_iff] at waits
    obtain ⟨dueNext, dueLater⟩ := ih (ok.call call).1 stayNext waits.1 returns
    rw [counted]
    constructor
    · intro before
      have moved := (ok.before_call before otherStays stays).2
      by_cases isSelected : (pool.call call).1.selects other = true
      · rw [if_pos isSelected] at moved ⊢
        rw [dueLater moved]
      · rw [if_neg isSelected] at moved ⊢
        rw [dueNext moved]
    · intro before
      obtain ⟨notSelected, moved⟩ := ok.before_call before stays otherStays
      rw [if_neg (by simpa using waits.2)] at moved
      rw [dueLater moved, notSelected]
      rfl

end

/-- The pools agree: the order lists the keys, the cursor is in range, a selection fails only
without owners, and between two selections of an owner that stays every other one that stays is
selected exactly once. -/
theorem owners_take_turns (calls : List (OwnerCall Value)) :
    let pool : RuntimeOwnerPool Value := new.after calls
    let next := (pool.call .selectNext).2
    pool.Ok ∧ (pool.selectNext.1 = none ↔ pool.order = []) ∧
      (∀ owner other interval, other ≠ owner →
        (pool.call .selectNext).1.selects owner = true →
        (∀ before ∈ interval.inits,
          owner ∈ (next.after before).order ∧ other ∈ (next.after before).order) →
        next.selections interval owner = 0 →
        ((next.after interval).call .selectNext).1.selects owner = true →
        next.selections interval other = 1) ∧
      ownerCalls File.RuntimeOwnerPool.call File.RuntimeOwnerPool.new calls =
        ((ownerCalls call new calls).1, pool.toFile) := by
  intro pool _
  have newOk : (new : RuntimeOwnerPool Value).Ok := new_ok
  obtain ⟨ok, sameCalls⟩ := newOk.after calls
  refine ⟨ok, ok.selectNext_eq_none, ?_, sameCalls⟩
  intro owner other _ different selected stay waits returns
  refine ((ok.call .selectNext).1.alternate stay waits returns).1 ?_
  cases isTurn : pool.turns with
  | nil =>
    rw [RuntimeOwnerPool.call, (selectNext_of_nil (turns_eq_nil.mp isTurn)).1] at selected
    cases selected
  | cons uuid rest =>
    obtain ⟨_, _, here, -, -, rotated⟩ := ok.selectNext_of_turns isTurn
    have isOther : other ∈ (pool.call .selectNext).2.order := (stay [] (by simp)).2
    rw [RuntimeOwnerPool.call, here] at selected isOther ⊢
    obtain rfl : uuid = owner := of_decide_eq_true selected
    have isWaiting : other ∈ uuid :: rest := isTurn ▸ mem_rotate.mpr isOther
    rw [turns, rotated]
    exact (singleton_sublist.mpr (mem_of_ne_of_mem different isWaiting)).append (.refl [uuid])

theorem owners_take_turns_two :
    let pool : RuntimeOwnerPool Nat := new.after [.set "a" 1, .set "b" 2]
    pool.Ok ∧
      (pool.call .selectNext).2.selections [.set "c" 3, .selectNext, .selectNext] "b" = 1 := by
  obtain ⟨ok, -, fair, -⟩ := owners_take_turns [.set "a" 1, .set "b" 2]
  exact ⟨ok, fair "a" "b" [.set "c" 3, .selectNext, .selectNext] (by decide) (by decide +kernel)
    (by decide +kernel) (by decide +kernel) (by decide +kernel)⟩

/-- An owner that is removed and registered again goes to the end of the order. -/
theorem owner_selected_twice :
    ∃ calls interval : List (OwnerCall Nat),
      let pool := new.after calls
      let next := (pool.call .selectNext).2
      (pool.call .selectNext).1.selects "a" = true ∧
        (∀ before ∈ interval.inits, "b" ∈ (next.after before).order) ∧
        next.selections interval "a" = 0 ∧
        ((next.after interval).call .selectNext).1.selects "a" = true ∧
        next.selections interval "b" = 2 :=
  ⟨[.set "a" 1, .set "b" 2], [.selectNext, .remove "a", .set "a" 1, .selectNext], by decide +kernel⟩

end Bridge.RuntimeOwnerPool

end DeepNps
