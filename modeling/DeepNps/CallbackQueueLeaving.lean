import DeepNps.CallbackQueue

/-!
# How callbacks leave their queue

As long as `Reset` finds no worker with an item, the item that a worker holds is the only
one with its id, so that `Remove` takes out what was delivered.
-/

namespace DeepNps.Node.QueueSystem

open List Option CallbackQueueStore

variable {Platform Payload : Type} [DecidableEq Platform]
variable {system next : QueueSystem Platform Payload}

def Left (system next : QueueSystem Platform Payload) (platform : Platform)
    (item : QueuedItem Payload) : Prop :=
  item ∈ system.store.items platform ∧ (item.id, item.serial) ∉ keys (next.store.items platform)

variable {item : QueuedItem Payload} {platform : Platform}

theorem key_mem_keys {queue : List (QueuedItem Payload)} (isItem : item ∈ queue) :
    (item.id, item.serial) ∈ keys queue :=
  mem_map_of_mem isItem

omit [DecidableEq Platform] in
theorem not_left_of_keys_eq
    (same : keys (next.store.items platform) = keys (system.store.items platform)) :
    ¬ Left system next platform item := by
  rintro ⟨isItem, isGone⟩
  rw [same] at isGone
  exact isGone (key_mem_keys isItem)

theorem left_remove (sound : system.Sound) {worker : Nat} {replay : Replay Platform Payload}
    (found : system.workers.lookup worker = some replay) (delivered : replay.stage = .delivered)
    (stepEq : next = (system.changeStore
      (system.store.remove replay.platform replay.item.id)).setWorker worker none)
    (left : Left system next platform item) :
    LeavesBy system next platform item (.remove worker) := by
  obtain ⟨isItem, isGone⟩ := left
  refine ⟨replay, found, delivered, ?_⟩
  rw [stepEq, remove] at isGone
  split_ifs at isGone with isFound
  · change _ ∉ keys ((system.store.setQueue replay.platform _).items platform) at isGone
    by_cases isPlatform : platform = replay.platform
    · subst isPlatform
      rw [items_setQueue_self] at isGone
      -- The item that is gone is the one with the id.
      have isId : item.id = replay.item.id := by
        by_contra notId
        have isKept : item ∈ (system.store.items replay.platform).eraseP
            fun other => other.id = replay.item.id :=
          (mem_eraseP_of_neg (by simpa using notId)).mpr isItem
        exact isGone (key_mem_keys isKept)
      have isSerial := sound.held _ (Assoc.mem_of_lookup found) _ (key_mem_keys isItem) isId
      exact ⟨rfl, isId.symm, isSerial.symm⟩
    · rw [items_setQueue_of_ne _ isPlatform] at isGone
      exact absurd (key_mem_keys isItem) isGone
  · exact absurd (key_mem_keys isItem) isGone

theorem left_enqueue (sound : system.Sound) {added : Platform} {payload : Payload}
    (steps : system.step (.enqueue added payload) = some next)
    (left : Left system next platform item) :
    LeavesBy system next platform item (.enqueue added payload) := by
  obtain ⟨isItem, isGone⟩ := left
  obtain rfl := some.inj steps
  rw [LeavesBy]
  dsimp only [enqueue] at isGone ⊢
  split_ifs at isGone ⊢ with none
  · exact absurd (key_mem_keys isItem) isGone
  · change _ ∉ keys ((system.store.setQueue added _).items platform) at isGone
    change _ ∧ _ ∧ ∀ kept ∈ (system.store.setQueue added _).items platform, _
    by_cases isPlatform : platform = added
    · subst isPlatform
      rw [items_setQueue_self] at isGone ⊢
      have older := trimmed_older (ordered_concat_key sound platform payload system.enqueued)
        (mem_append_left _ isItem) fun isKept => isGone (key_mem_keys isKept)
      refine ⟨rfl, ?_, older.2⟩
      simpa using older.1
    · rw [items_setQueue_of_ne _ isPlatform] at isGone
      exact absurd (key_mem_keys isItem) isGone

theorem leaves_of_left (sound : system.Sound) {event : QueueEvent Platform Payload}
    (steps : system.step event = some next) (left : Left system next platform item) :
    LeavesBy system next platform item event := by
  cases event with
  | enqueue => exact left_enqueue sound steps left
  | remove =>
    obtain ⟨_, found, steps⟩ := bind_eq_some_iff.mp steps
    obtain ⟨delivered, steps⟩ := ite_none_right_eq_some.mp steps
    exact left_remove sound found delivered (some.inj steps).symm left
  | clear =>
    obtain rfl := some.inj steps
    by_contra isOther
    refine not_left_of_keys_eq ?_ left
    exact congrArg keys (items_setQueue_of_ne _ (fun isPlatform => isOther isPlatform.symm) _)
  | reset => trivial
  | trim =>
    rw [step] at steps
    split_ifs at steps
    obtain rfl := some.inj steps
    exact trimmed_older (sound.ordered platform) left.1 fun isKept => left.2 (key_mem_keys isKept)
  | markAttempt =>
    obtain ⟨replay, _, steps⟩ := bind_eq_some_iff.mp steps
    obtain ⟨-, steps⟩ := ite_none_right_eq_some.mp steps
    obtain rfl := some.inj steps
    refine absurd left (not_left_of_keys_eq ?_)
    change keys ((system.changeStore _).store.items platform) = _
    rw [markAttempt]
    split_ifs
    · change keys ((system.store.setQueue replay.platform _).items platform) = _
      by_cases isPlatform : platform = replay.platform
      · subst isPlatform
        rw [items_setQueue_self, keys_markFirst]
      · rw [items_setQueue_of_ne _ isPlatform]
    · rfl
  | peek =>
    rw [step] at steps
    split_ifs at steps
    obtain ⟨_, -, rfl⟩ := map_eq_some_iff.mp steps
    exact not_left_of_keys_eq rfl left
  | deliver | cancel =>
    obtain ⟨_, -, steps⟩ := bind_eq_some_iff.mp steps
    obtain ⟨-, steps⟩ := ite_none_right_eq_some.mp steps
    obtain rfl := some.inj steps
    exact not_left_of_keys_eq rfl left
  | configure =>
    obtain rfl := some.inj steps
    exact not_left_of_keys_eq rfl left
  | checkSnapshot | storeSnapshot =>
    obtain ⟨_, -, rfl⟩ := map_eq_some_iff.mp steps
    exact not_left_of_keys_eq rfl left

/-! ## Runs -/

omit [DecidableEq Platform] in
theorem sound_newNodeCallbackQueueStore (maxByID : Platform → Int)
    {loaded : CallbackQueueState Platform Payload} (ordered : loaded.Ordered) (enqueued : Nat) :
    (newNodeCallbackQueueStore maxByID loaded enqueued).Sound where
  ordered := by
    intro platform
    refine List.Pairwise.sublist (keys_trim_sublist _ _) ?_
    rw [keys, pairwise_map]
    exact ordered.increasing platform
  issued := by
    intro platform _ isKey
    obtain ⟨item, isItem, rfl⟩ := mem_map.mp ((keys_trim_sublist _ _).subset isKey)
    exact ordered.issued platform item isItem
  held_le := forall_mem_nil _
  held := forall_mem_nil _
  bounded := fun _ _ => length_trim_le _ _
  current := by
    refine ⟨?_, ?_, .inl ⟨_, mem_singleton_self _, rfl⟩⟩
    · intro _ isEntry
      obtain rfl := mem_singleton.mp isEntry
      exact ⟨Nat.le_refl _, fun _ => rfl⟩
    · rintro _ ⟨⟩

/-- No call is between its change and the end of `persistSnapshot`. -/
structure Persisted (system : QueueSystem Platform Payload) : Prop where
  noneWaits : system.snapshots.pending = []
  noneWrites : system.snapshots.writing = none

/-- If `Reset` is called only while no worker has an item, an item leaves its queue only by the
`Remove` after its own delivery, by overflow or with `Clear`, `Reset` or `Configure`; queues stay
ordered and bounded, and the last snapshot is one of the queues. -/
theorem items_leave_by (maxByID : Platform → Int) {loaded : CallbackQueueState Platform Payload}
    (ordered : loaded.Ordered) (enqueued : Nat) {events : List (QueueEvent Platform Payload)}
    {system : QueueSystem Platform Payload}
    (runs : Runs.execute step (newNodeCallbackQueueStore maxByID loaded enqueued) events =
      some system)
    (meets : Runs.Meets step ResetsAlone (newNodeCallbackQueueStore maxByID loaded enqueued)
      events) :
    (∀ event next, system.step event = some next → ∀ platform item,
        Left system next platform item → LeavesBy system next platform item event) ∧
      (∀ platform, (system.store.items platform).Pairwise
        fun earlier later => earlier.id < later.id) ∧
      (system.configuring = 0 → ∀ platform,
        (system.store.items platform).length ≤ (system.store.maxByID platform).toNat) ∧
      (system.Persisted →
        system.snapshots.stored = some system.store.snapshotPersistedStateLocked) := by
  have sound : system.Sound :=
    Runs.invariant_of_meets _ (fun _ _ _ sound alone => sound_step sound alone)
      (sound_newNodeCallbackQueueStore maxByID ordered enqueued) meets runs
  refine ⟨?_, ?_, sound.bounded, ?_⟩
  · intro _ _ steps _ _ left
    exact leaves_of_left sound steps left
  · intro platform
    have ordered := sound.ordered platform
    rw [keys, pairwise_map] at ordered
    exact ordered
  · intro persisted
    exact sound.current.stored_eq persisted.noneWaits persisted.noneWrites

def opened : QueueSystem Unit Nat := newNodeCallbackQueueStore (fun _ => 2) ⟨0, fun _ => []⟩ 0

def resetAlone : List (QueueEvent Unit Nat) :=
  [.enqueue () 10, .enqueue () 11, .peek 0 (), .deliver 0 true, .remove 0, .enqueue () 12,
    .enqueue () 13, .reset, .enqueue () 14, .checkSnapshot 0, .storeSnapshot]

instance decidableResetsAlone (system : QueueSystem Unit Nat) :
    (event : QueueEvent Unit Nat) → Decidable (system.ResetsAlone event)
  | .reset => inferInstanceAs (Decidable (_ = true))
  | .enqueue .. | .peek .. | .deliver .. | .cancel _ | .markAttempt _ | .remove _ | .clear _
  | .configure _ | .trim | .checkSnapshot _ | .storeSnapshot => .isTrue trivial

theorem items_leave_by_resetAlone :
    ∃ system, Runs.execute step opened resetAlone = some system ∧
      (system.store.items ()).map (fun item => (item.id, item.payload)) = [(1, 14)] ∧
      system.snapshots.stored.isSome ∧
      ∀ event next, system.step event = some next → ∀ platform item,
        Left system next platform item → LeavesBy system next platform item event := by
  obtain ⟨system, runs, itemsEq, isStored⟩ :
      ∃ system, Runs.execute step opened resetAlone = some system ∧
        (system.store.items ()).map (fun item => (item.id, item.payload)) = [(1, 14)] ∧
        system.snapshots.stored.isSome :=
    Runs.exists_of_any (by decide +kernel)
  have ordered : CallbackQueueState.Ordered
      (⟨0, fun _ => []⟩ : CallbackQueueState Unit Nat) := ⟨fun _ => .nil, nofun⟩
  exact ⟨system, runs, itemsEq, isStored, (items_leave_by _ ordered 0 runs (by decide +kernel)).1⟩

/-- A worker delivers the item with the id 1, the store is reset, and the next callback
has the id 1. -/
def resetDuringReplay : List (QueueEvent Unit Nat) :=
  [.enqueue () 10, .peek 0 (), .deliver 0 true, .reset, .enqueue () 11]

/-- The `Remove` after the delivery of the first callback takes the second one out. -/
theorem remove_takes_undelivered :
    ∃ system, Runs.execute step opened resetDuringReplay = some system ∧
      ∃ next, system.step (.remove 0) = some next ∧
        ∃ item, item.payload = 11 ∧ Left system next () item ∧
          ¬ LeavesBy system next () item (.remove 0) := by
  obtain ⟨system, runs, itemsEq, heldEq, nextEq⟩ :
      ∃ system, Runs.execute step opened resetDuringReplay = some system ∧
        system.store.items () = [⟨1, 0, 11, 1⟩] ∧
        (system.workers.map fun entry => entry.2.item.serial) = [0] ∧
        ((system.step (.remove 0)).map fun next => next.store.items ()) = some [] :=
    Runs.exists_of_any (by decide +kernel)
  obtain ⟨next, steps, emptyEq⟩ := map_eq_some_iff.mp nextEq
  refine ⟨system, runs, next, steps, ⟨1, 0, 11, 1⟩, rfl, ⟨?_, ?_⟩, ?_⟩
  · rw [itemsEq]
    exact mem_singleton_self _
  · rw [emptyEq]
    nofun
  · rintro ⟨replay, found, -, -, -, serialEq⟩
    have isSerial := mem_map_of_mem (f := fun entry => entry.2.item.serial)
      (Assoc.mem_of_lookup found)
    rw [heldEq, mem_singleton] at isSerial
    dsimp only at isSerial serialEq
    omega

end DeepNps.Node.QueueSystem
