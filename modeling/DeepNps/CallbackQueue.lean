import DeepNps.LabelledRuns
import DeepNps.NumberedSnapshots
import DeepNps.SequencedLog
import DeepNps.Table

/-!
# The queue of callbacks that could not be delivered

A worker looks at the first item of a queue, delivers it without a lock and removes it by
its id.  Every change takes a numbered snapshot under the lock and hands it to the writer
afterwards.  `Reset` starts the ids anew, so a worker may remove another item.
-/

namespace DeepNps.Node

/-- `nodeCallbackQueuedItem` without its times.  `serial` tells items apart for the statements: it
counts the calls of `Enqueue` and is never set back. -/
structure QueuedItem (Payload : Type) where
  id : Int
  attempts : Nat
  payload : Payload
  serial : Nat
deriving DecidableEq, Repr

variable {Platform Payload : Type} [DecidableEq Platform]

def trimNodeCallbackQueueItemsInPlace (queue : List (QueuedItem Payload)) (keep : Int) :
    List (QueuedItem Payload) :=
  if keep ≤ 0 then []
  else if queue.length ≤ keep then queue
  else queue.drop (queue.length - keep.toNat)

/-- The part of the store under its lock; a platform without a bound has the bound zero. -/
structure CallbackQueueStore (Platform Payload : Type) where
  nextID : Int
  maxByID : Platform → Int
  items : Platform → List (QueuedItem Payload)

open CallbackQueueStore

structure CallbackQueueState (Platform Payload : Type) where
  nextID : Int
  items : Platform → List (QueuedItem Payload)

/-- The state of a file that the store has written: ids in order and none above the last one, so
that `load` keeps the order of the items and the last id. -/
structure CallbackQueueState.Ordered (state : CallbackQueueState Platform Payload) : Prop where
  increasing : ∀ platform, (state.items platform).Pairwise
    fun earlier later => earlier.id < later.id
  issued : ∀ platform, ∀ item ∈ state.items platform, item.id ≤ state.nextID

namespace CallbackQueueStore

def snapshotPersistedStateLocked (store : CallbackQueueStore Platform Payload) :
    CallbackQueueState Platform Payload where
  nextID := store.nextID
  items := store.items

def setQueue (store : CallbackQueueStore Platform Payload) (platform : Platform)
    (queue : List (QueuedItem Payload)) : CallbackQueueStore Platform Payload :=
  { store with items := Function.update store.items platform queue }

@[simp]
theorem items_setQueue_self (store : CallbackQueueStore Platform Payload) (platform : Platform)
    (queue : List (QueuedItem Payload)) : (store.setQueue platform queue).items platform = queue :=
  Function.update_self ..

theorem items_setQueue_of_ne (store : CallbackQueueStore Platform Payload)
    {platform other : Platform} (isOther : other ≠ platform) (queue : List (QueuedItem Payload)) :
    (store.setQueue platform queue).items other = store.items other :=
  Function.update_of_ne isOther ..

def enqueue (store : CallbackQueueStore Platform Payload) (platform : Platform) (payload : Payload)
    (serial : Nat) : Option (CallbackQueueStore Platform Payload) :=
  let queueMax := store.maxByID platform
  if queueMax ≤ 0 then none
  else
    let item : QueuedItem Payload := ⟨store.nextID + 1, 0, payload, serial⟩
    let queue := trimNodeCallbackQueueItemsInPlace (store.items platform ++ [item]) queueMax
    some { store.setQueue platform queue with nextID := store.nextID + 1 }

def peek (store : CallbackQueueStore Platform Payload) (platform : Platform) :
    Option (QueuedItem Payload) :=
  (store.items platform).head?

def markFirst (itemID : Int) : List (QueuedItem Payload) → List (QueuedItem Payload)
  | [] => []
  | item :: rest =>
      if item.id = itemID then { item with attempts := item.attempts + 1 } :: rest
      else item :: markFirst itemID rest

def markAttempt (store : CallbackQueueStore Platform Payload) (platform : Platform)
    (itemID : Int) : Option (CallbackQueueStore Platform Payload) :=
  if 0 < itemID ∧ (store.items platform).any (fun item => item.id = itemID) then
    some (store.setQueue platform (markFirst itemID (store.items platform)))
  else none

def remove (store : CallbackQueueStore Platform Payload) (platform : Platform) (itemID : Int) :
    Option (CallbackQueueStore Platform Payload) :=
  if 0 < itemID ∧ (store.items platform).any (fun item => item.id = itemID) then
    some (store.setQueue platform ((store.items platform).eraseP fun item => item.id = itemID))
  else none

def clear (store : CallbackQueueStore Platform Payload) (platform : Platform) :
    CallbackQueueStore Platform Payload :=
  store.setQueue platform []

def reset (store : CallbackQueueStore Platform Payload) : CallbackQueueStore Platform Payload :=
  { store with nextID := 0, items := fun _ => [] }

def trim (store : CallbackQueueStore Platform Payload) : CallbackQueueStore Platform Payload :=
  { store with
    items := fun platform =>
      trimNodeCallbackQueueItemsInPlace (store.items platform) (store.maxByID platform) }

end CallbackQueueStore

/-- What a worker knows about the item it looked at. -/
inductive DeliveryStage
  | peeked
  | delivered
  | failed
deriving DecidableEq, Repr

structure Replay (Platform Payload : Type) where
  platform : Platform
  item : QueuedItem Payload
  stage : DeliveryStage

/-- The store with the snapshots on their way to the writer, the workers that look at an item, the
`Configure` calls that have not trimmed the queues, and the number of items enqueued. -/
structure QueueSystem (Platform Payload : Type) where
  store : CallbackQueueStore Platform Payload
  snapshots : NumberedSnapshots (CallbackQueueState Platform Payload)
  workers : List (Nat × Replay Platform Payload)
  configuring : Nat
  enqueued : Nat

inductive QueueEvent (Platform Payload : Type)
  | enqueue (platform : Platform) (payload : Payload)
  | peek (worker : Nat) (platform : Platform)
  | deliver (worker : Nat) (succeeds : Bool)
  | cancel (worker : Nat)
  | markAttempt (worker : Nat)
  | remove (worker : Nat)
  | clear (platform : Platform)
  | reset
  | configure (maxByID : Platform → Int)
  | trim
  | checkSnapshot (index : Nat)
  | storeSnapshot

namespace QueueSystem

def changeStore (system : QueueSystem Platform Payload)
    (changed : Option (CallbackQueueStore Platform Payload)) : QueueSystem Platform Payload :=
  match changed with
  | none => system
  | some store =>
      { system with
        store := store
        snapshots := system.snapshots.take store.snapshotPersistedStateLocked }

def setWorker (system : QueueSystem Platform Payload) (worker : Nat)
    (replay : Option (Replay Platform Payload)) : QueueSystem Platform Payload :=
  { system with workers := Assoc.set system.workers worker replay }

def step (system : QueueSystem Platform Payload) :
    QueueEvent Platform Payload → Option (QueueSystem Platform Payload)
  | .enqueue platform payload =>
      some { system.changeStore (system.store.enqueue platform payload system.enqueued) with
        enqueued := system.enqueued + 1 }
  | .peek worker platform =>
      if (system.workers.lookup worker).isSome then none
      else
        (system.store.peek platform).map fun item =>
          system.setWorker worker (some ⟨platform, item, .peeked⟩)
  | .deliver worker succeeds =>
      (system.workers.lookup worker).bind fun replay =>
        if replay.stage = .peeked then
          some (system.setWorker worker
            (some { replay with stage := if succeeds then .delivered else .failed }))
        else none
  | .cancel worker =>
      (system.workers.lookup worker).bind fun replay =>
        if replay.stage = .peeked then some (system.setWorker worker none) else none
  | .markAttempt worker =>
      (system.workers.lookup worker).bind fun replay =>
        if replay.stage = .failed then
          some ((system.changeStore
            (system.store.markAttempt replay.platform replay.item.id)).setWorker worker none)
        else none
  | .remove worker =>
      (system.workers.lookup worker).bind fun replay =>
        if replay.stage = .delivered then
          some ((system.changeStore
            (system.store.remove replay.platform replay.item.id)).setWorker worker none)
        else none
  | .clear platform => some (system.changeStore (some (system.store.clear platform)))
  | .reset => some (system.changeStore (some system.store.reset))
  | .configure maxByID =>
      some { system with
        store := { system.store with maxByID := maxByID }
        configuring := system.configuring + 1 }
  | .trim =>
      if system.configuring = 0 then none
      else
        some { system.changeStore (some system.store.trim) with
          configuring := system.configuring - 1 }
  | .checkSnapshot index =>
      (system.snapshots.check index).map fun snapshots => { system with snapshots := snapshots }
  | .storeSnapshot =>
      system.snapshots.store.map fun snapshots => { system with snapshots := snapshots }

/-- The store opened with the state of a file, before `trimAndPersist` hands its snapshot on. -/
def newNodeCallbackQueueStore (maxByID : Platform → Int)
    (loaded : CallbackQueueState Platform Payload) (enqueued : Nat) :
    QueueSystem Platform Payload :=
  let store : CallbackQueueStore Platform Payload :=
    CallbackQueueStore.trim ⟨loaded.nextID, maxByID, loaded.items⟩
  ⟨store, ⟨1, [(1, store.snapshotPersistedStateLocked)], none, none⟩, [], 0, enqueued⟩

/-- `Reset` is called only while no worker has looked at an item and not come back. -/
def ResetsAlone (system : QueueSystem Platform Payload) : QueueEvent Platform Payload → Prop
  | .reset => system.workers.isEmpty = true
  | _ => True

/-- An item leaves its queue by the `Remove` of a worker that has delivered it, by overflow of the
bound, older items first, or with its queue. -/
def LeavesBy (system next : QueueSystem Platform Payload) (platform : Platform)
    (item : QueuedItem Payload) : QueueEvent Platform Payload → Prop
  | .remove worker => ∃ replay, system.workers.lookup worker = some replay ∧
      replay.stage = .delivered ∧ replay.platform = platform ∧ replay.item.id = item.id ∧
      replay.item.serial = item.serial
  | .enqueue added _ => added = platform ∧
      system.store.maxByID platform < (system.store.items platform).length + 1 ∧
      ∀ kept ∈ next.store.items platform, item.id < kept.id
  | .trim => system.store.maxByID platform < (system.store.items platform).length ∧
      ∀ kept ∈ next.store.items platform, item.id < kept.id
  | .clear cleared => cleared = platform
  | .reset => True
  | .peek _ _ | .deliver _ _ | .cancel _ | .markAttempt _ | .configure _ | .checkSnapshot _
  | .storeSnapshot => False

end QueueSystem

/-! ## Queues -/

def keys (queue : List (QueuedItem Payload)) : List (Int × Nat) :=
  queue.map fun item => (item.id, item.serial)

open List

theorem trim_eq_rtake (queue : List (QueuedItem Payload)) (keep : Int) :
    trimNodeCallbackQueueItemsInPlace queue keep = queue.rtake keep.toNat := by
  rw [trimNodeCallbackQueueItemsInPlace, rtake]
  split_ifs with none short
  · have nothing : queue.length - keep.toNat = queue.length := by omega
    rw [nothing, drop_length]
  · have all : queue.length - keep.toNat = 0 := by omega
    rw [all, drop_zero]
  · rfl

theorem keys_trim_sublist (queue : List (QueuedItem Payload)) (keep : Int) :
    (keys (trimNodeCallbackQueueItemsInPlace queue keep)).Sublist (keys queue) := by
  rw [trim_eq_rtake]
  exact (drop_sublist _ _).map _

theorem length_trim_le (queue : List (QueuedItem Payload)) (keep : Int) :
    (trimNodeCallbackQueueItemsInPlace queue keep).length ≤ keep.toNat := by
  rw [trim_eq_rtake, rtake, length_drop]
  omega

theorem keys_markFirst (itemID : Int) (queue : List (QueuedItem Payload)) :
    keys (markFirst itemID queue) = keys queue := by
  induction queue with
  | nil => rfl
  | cons item _ ih =>
    rw [markFirst]
    split_ifs
    · rfl
    · exact congrArg (cons (item.id, item.serial)) ih

variable {queue : List (QueuedItem Payload)}

theorem trimmed_older {keep : Int}
    (ordered : (keys queue).Pairwise fun earlier later => earlier.1 < later.1)
    {item : QueuedItem Payload} (isItem : item ∈ queue)
    (isCut : item ∉ trimNodeCallbackQueueItemsInPlace queue keep) :
    keep < queue.length ∧
      ∀ kept ∈ trimNodeCallbackQueueItemsInPlace queue keep, item.id < kept.id := by
  rw [trim_eq_rtake, rtake] at isCut ⊢
  have split := take_append_drop (queue.length - keep.toNat) queue
  constructor
  · by_contra notOver
    have all : queue.length - keep.toNat = 0 := by omega
    rw [all, drop_zero] at isCut
    exact isCut isItem
  · intro kept isKept
    have byId : queue.Pairwise fun earlier later => earlier.id < later.id := by
      rw [keys, pairwise_map] at ordered
      exact ordered
    rw [← split] at isItem byId
    have isFront := (mem_append.mp isItem).resolve_right isCut
    exact (pairwise_append.mp byId).2.2 item isFront kept isKept

open Option

namespace QueueSystem

variable {system next : QueueSystem Platform Payload}

/-! ## What every step keeps -/

structure Sound (system : QueueSystem Platform Payload) : Prop where
  ordered : ∀ platform, (keys (system.store.items platform)).Pairwise
    fun earlier later => earlier.1 < later.1
  issued : ∀ platform, ∀ key ∈ keys (system.store.items platform), key.1 ≤ system.store.nextID
  held_le : ∀ entry ∈ system.workers, entry.2.item.id ≤ system.store.nextID
  held : ∀ entry ∈ system.workers, ∀ key ∈ keys (system.store.items entry.2.platform),
    key.1 = entry.2.item.id → key.2 = entry.2.item.serial
  bounded : system.configuring = 0 → ∀ platform,
    (system.store.items platform).length ≤ (system.store.maxByID platform).toNat
  current : system.snapshots.Current system.store.snapshotPersistedStateLocked

variable {store : CallbackQueueStore Platform Payload}

omit [DecidableEq Platform] in
theorem Sound.shrink (sound : system.Sound) (sublists : ∀ platform,
      (keys (store.items platform)).Sublist (keys (system.store.items platform)))
    (nextIDEq : store.nextID = system.store.nextID)
    (maxByIDEq : store.maxByID = system.store.maxByID) :
    (system.changeStore (some store)).Sound where
  ordered := fun platform => (sound.ordered platform).sublist (sublists platform)
  issued := by
    intro platform key isKey
    change key.1 ≤ store.nextID
    rw [nextIDEq]
    exact sound.issued platform key ((sublists platform).subset isKey)
  held_le := by
    intro entry isEntry
    change entry.2.item.id ≤ store.nextID
    rw [nextIDEq]
    exact sound.held_le entry isEntry
  held := fun entry isEntry key isKey =>
    sound.held entry isEntry key ((sublists entry.2.platform).subset isKey)
  bounded := by
    intro noneConfigures platform
    change (store.items platform).length ≤ (store.maxByID platform).toNat
    rw [maxByIDEq]
    exact Nat.le_trans (by simpa [keys] using (sublists platform).length_le)
      (sound.bounded noneConfigures platform)
  current := sound.current.take _

theorem sublists_setQueue {platform : Platform} {queue : List (QueuedItem Payload)}
    (sublist : (keys queue).Sublist (keys (store.items platform))) (other : Platform) :
    (keys ((store.setQueue platform queue).items other)).Sublist (keys (store.items other)) := by
  by_cases isPlatform : other = platform
  · subst isPlatform
    rwa [items_setQueue_self]
  · rw [items_setQueue_of_ne store isPlatform]

section

variable (sound : system.Sound)

include sound

omit [DecidableEq Platform] in
theorem ordered_concat_key (platform : Platform) (payload : Payload) (serial : Nat) :
    (keys (system.store.items platform ++ [⟨system.store.nextID + 1, 0, payload, serial⟩])).Pairwise
      fun earlier later => earlier.1 < later.1 := by
  rw [keys, map_append]
  refine pairwise_append.mpr ⟨sound.ordered platform, pairwise_singleton _ _, ?_⟩
  intro key isKey _ isNewest
  have issued := sound.issued platform key isKey
  rw [mem_singleton.mp isNewest]
  change key.1 < system.store.nextID + 1
  omega

theorem sound_enqueue (platform : Platform) (payload : Payload) (serial : Nat) :
    (system.changeStore (system.store.enqueue platform payload serial)).Sound := by
  rw [enqueue]
  dsimp only
  split_ifs with none
  · exact sound
  · have sublist := keys_trim_sublist
      (system.store.items platform ++ [⟨system.store.nextID + 1, 0, payload, serial⟩])
      (system.store.maxByID platform)
    -- A key of the new queues is an old one or the new one, which is larger.
    have oldOrNew : ∀ other, ∀ key ∈ keys ((system.store.setQueue platform
        (trimNodeCallbackQueueItemsInPlace
          (system.store.items platform ++ [⟨system.store.nextID + 1, 0, payload, serial⟩])
          (system.store.maxByID platform))).items other),
        key ∈ keys (system.store.items other) ∨ key.1 = system.store.nextID + 1 := by
      intro other _ isKey
      by_cases isPlatform : other = platform
      · subst isPlatform
        rw [items_setQueue_self] at isKey
        have isOldOrNew := sublist.subset isKey
        rw [keys, map_append, mem_append] at isOldOrNew
        refine isOldOrNew.imp_right fun isNew => ?_
        rw [mem_singleton.mp isNew]
      · rw [items_setQueue_of_ne _ isPlatform] at isKey
        exact .inl isKey
    exact {
      ordered := by
        intro other
        change (keys ((system.store.setQueue platform _).items other)).Pairwise _
        by_cases isPlatform : other = platform
        · subst isPlatform
          rw [items_setQueue_self]
          exact (ordered_concat_key sound other payload serial).sublist sublist
        · rw [items_setQueue_of_ne _ isPlatform]
          exact sound.ordered other
      issued := by
        intro other key isKey
        change key.1 ≤ system.store.nextID + 1
        rcases oldOrNew other key isKey with isOld | isNew
        · have issued := sound.issued other key isOld
          omega
        · omega
      held_le := by
        intro entry isEntry
        have held_le := sound.held_le entry isEntry
        change entry.2.item.id ≤ system.store.nextID + 1
        omega
      held := by
        intro entry isEntry key isKey sameId
        rcases oldOrNew _ key isKey with isOld | isNew
        · exact sound.held entry isEntry key isOld sameId
        · have held_le := sound.held_le entry isEntry
          omega
      bounded := by
        intro noneConfigures other
        change ((system.store.setQueue platform _).items other).length ≤ _
        by_cases isPlatform : other = platform
        · subst isPlatform
          rw [items_setQueue_self]
          exact length_trim_le _ _
        · rw [items_setQueue_of_ne _ isPlatform]
          exact sound.bounded noneConfigures other
      current := sound.current.take _ }

omit [DecidableEq Platform] in
theorem Sound.setWorker (worker : Nat)
    {replay : Option (Replay Platform Payload)}
    (keeps : ∀ held ∈ replay, held.item.id ≤ system.store.nextID ∧
      ∀ key ∈ keys (system.store.items held.platform), key.1 = held.item.id →
        key.2 = held.item.serial) : (system.setWorker worker replay).Sound := by
  have isOldOrNew : ∀ entry ∈ (system.setWorker worker replay).workers,
      entry ∈ system.workers ∨ entry.2 ∈ replay := by
    intro entry isEntry
    rcases mem_append.mp isEntry with isNew | isOld
    · obtain ⟨held, isHeld, rfl⟩ : ∃ held ∈ replay, (worker, held) = entry := by
        simpa [mem_toList] using isNew
      exact .inr isHeld
    · exact .inl (mem_of_mem_filter isOld)
  exact { sound with
    held_le := fun entry isEntry => (isOldOrNew entry isEntry).elim (sound.held_le entry)
      fun isNew => (keeps entry.2 isNew).1
    held := fun entry isEntry => (isOldOrNew entry isEntry).elim (sound.held entry)
      fun isNew => (keeps entry.2 isNew).2 }

theorem sound_step {event : QueueEvent Platform Payload} (alone : system.ResetsAlone event)
    (steps : system.step event = some next) : next.Sound := by
  cases event with
  | enqueue platform payload =>
    obtain rfl := some.inj steps
    exact { sound_enqueue sound platform payload system.enqueued with }
  | peek worker platform =>
    rw [step] at steps
    split_ifs at steps
    obtain ⟨item, isFirst, rfl⟩ := map_eq_some_iff.mp steps
    have isItem : (item.id, item.serial) ∈ keys (system.store.items platform) :=
      mem_map.mpr ⟨item, mem_of_mem_head? isFirst, rfl⟩
    refine sound.setWorker worker ?_
    rintro _ ⟨⟩
    refine ⟨sound.issued platform _ isItem, fun key isKey sameId => ?_⟩
    have nodup := pairwise_map.mpr ((sound.ordered platform).imp fun less => Int.ne_of_lt less)
    rw [inj_on_of_nodup_map nodup isKey isItem sameId]
  | deliver worker =>
    obtain ⟨_, found, steps⟩ := bind_eq_some_iff.mp steps
    obtain ⟨-, steps⟩ := ite_none_right_eq_some.mp steps
    obtain rfl := some.inj steps
    have isEntry := Assoc.mem_of_lookup found
    refine sound.setWorker worker ?_
    rintro _ ⟨⟩
    exact ⟨sound.held_le _ isEntry, sound.held _ isEntry⟩
  | cancel worker =>
    obtain ⟨_, _, steps⟩ := bind_eq_some_iff.mp steps
    obtain ⟨-, steps⟩ := ite_none_right_eq_some.mp steps
    obtain rfl := some.inj steps
    exact sound.setWorker worker nofun
  | markAttempt worker =>
    obtain ⟨replay, _, steps⟩ := bind_eq_some_iff.mp steps
    obtain ⟨-, steps⟩ := ite_none_right_eq_some.mp steps
    obtain rfl := some.inj steps
    refine Sound.setWorker ?_ worker nofun
    rw [markAttempt]
    split_ifs
    · refine sound.shrink (sublists_setQueue ?_) rfl rfl
      rw [keys_markFirst]
    · exact sound
  | remove worker =>
    obtain ⟨replay, _, steps⟩ := bind_eq_some_iff.mp steps
    obtain ⟨-, steps⟩ := ite_none_right_eq_some.mp steps
    obtain rfl := some.inj steps
    refine Sound.setWorker ?_ worker nofun
    rw [CallbackQueueStore.remove]
    split_ifs
    · exact sound.shrink (sublists_setQueue (eraseP_sublist.map _)) rfl rfl
    · exact sound
  | clear =>
    obtain rfl := some.inj steps
    exact sound.shrink (sublists_setQueue (nil_sublist _)) rfl rfl
  | reset =>
    obtain rfl := some.inj steps
    have noWorkers : system.workers = [] := isEmpty_iff.mp alone
    exact {
      ordered := fun _ => List.Pairwise.nil
      issued := nofun
      held_le := by
        change ∀ entry ∈ system.workers, _
        rw [noWorkers]
        nofun
      held := nofun
      bounded := fun _ _ => Nat.zero_le _
      current := sound.current.take _ }
  | configure =>
    obtain rfl := some.inj steps
    exact { sound with bounded := nofun }
  | trim =>
    rw [step] at steps
    split_ifs at steps
    obtain rfl := some.inj steps
    have trimmed : (system.changeStore (some system.store.trim)).Sound :=
      sound.shrink (fun platform => keys_trim_sublist _ _) rfl rfl
    exact { trimmed with bounded := fun _ platform => length_trim_le _ _ }
  | checkSnapshot =>
    obtain ⟨_, checked, rfl⟩ := map_eq_some_iff.mp steps
    exact { sound with current := sound.current.check checked }
  | storeSnapshot =>
    obtain ⟨_, stored, rfl⟩ := map_eq_some_iff.mp steps
    exact { sound with current := sound.current.store stored }

end

end QueueSystem

end DeepNps.Node
