import DeepNps.EventSink

/-!
# The order of undisturbed runs

Where recording and publishing an event are not interrupted by another event or by the
worker closing the gap of its recovery, the calls, the channel and the worker are in step.
-/

namespace DeepNps.Node

open List Sequenced Int Nat

variable {Payload : Type}

namespace SinkSystem

variable {rules : SinkRules Payload} {system next : SinkSystem Payload}

/-- What holds of the channel, the worker and the calls apart from single events. -/
structure Orderly (system : SinkSystem Payload) : Prop where
  keeps : system.log.Keeps system.recorded
  single : system.emissions.length ≤ 1
  seen : ∀ event ∈ system.delivered, event.sequence ≤ system.lastSequence
  last_le : system.lastSequence ≤ system.log.nextSeq
  ch_le : ∀ event ∈ system.sub.ch, event.sequence ≤ system.log.nextSeq
  items_le : ∀ event ∈ system.worker.items, event.sequence ≤ system.log.nextSeq
  emitted_le : ∀ entry ∈ system.emissions, entry.2.event.sequence ≤ system.log.nextSeq
  acting : ∀ entry ∈ system.emissions, ∀ id ∈ entry.2.sub?,
    id = system.sub.id ∧ system.sub.done = false
  numbered : ∀ entry ∈ system.emissions, entry.2.isRemoving = true → 0 < entry.2.event.sequence
  listed_eq : system.sub.listed = !system.sub.done
  overflowed : system.sub.done = true → 0 < system.sub.overflowSequence
  recovering : system.worker.isRunning = false → system.sub.done = true
  drained : system.worker.hasDrained = true → system.sub.ch = []
  cursor : ∀ after ∈ system.worker.after?, after = system.lastSequence
  quietGap : system.worker.closesGap = true → system.emissions = []

theorem orderly_start {log : NodeEventLog Payload} {recorded : List (Event Payload)}
    (keeps : log.Keeps recorded) : (start log recorded).Orderly where
  keeps := keeps
  single := zero_le 1
  seen := nofun
  last_le := keeps.nextSeq_nonneg
  ch_le := nofun
  items_le := nofun
  emitted_le := nofun
  acting := nofun
  numbered := nofun
  listed_eq := rfl
  overflowed := nofun
  recovering := nofun
  drained := nofun
  cursor := nofun
  quietGap := nofun

/-! ## Recording -/

theorem stepRecord_log (rules : SinkRules Payload) (orderly : system.Orderly) (caller : Nat)
    (payload : Payload) :
    (system.stepRecord rules caller payload).log.Keeps
        (system.stepRecord rules caller payload).recorded ∧
      system.log.nextSeq ≤ (system.stepRecord rules caller payload).log.nextSeq ∧
      (system.log.record payload (rules.shouldPersist payload)).event.sequence ≤
        (system.stepRecord rules caller payload).log.nextSeq := by
  dsimp only [stepRecord]
  cases rules.shouldPersist payload with
  | true =>
    refine ⟨NodeEventLog.record_keeps orderly.keeps payload, ?_, Int.le_refl _⟩
    exact Int.le_add_one (Int.le_refl system.log.nextSeq)
  | false => exact ⟨orderly.keeps, Int.le_refl _, Int.le_refl _⟩

variable {caller : Nat} {sub : Subscription Payload} {stage : EmitStage Payload}

theorem orderly_record (orderly : system.Orderly) {payload : Payload}
    (noEmissions : system.emissions = []) (noGap : system.worker.closesGap = false) :
    (system.stepRecord rules caller payload).Orderly := by
  obtain ⟨keeps, grows, event_le⟩ := stepRecord_log rules orderly caller payload
  have emissionsEq : (system.stepRecord rules caller payload).emissions =
      [(caller, .recorded (system.log.record payload (rules.shouldPersist payload)).event)] := by
    rw [stepRecord, noEmissions]
  exact { orderly with
    keeps := keeps
    single := by rw [emissionsEq]; exact Nat.le_refl 1
    last_le := Int.le_trans orderly.last_le grows
    ch_le := fun event isEvent => Int.le_trans (orderly.ch_le event isEvent) grows
    items_le := fun event isEvent => Int.le_trans (orderly.items_le event isEvent) grows
    emitted_le := by
      rw [emissionsEq]
      rintro entry isEntry
      rw [mem_singleton.mp isEntry]
      exact event_le
    acting := by
      rw [emissionsEq]
      rintro entry isEntry
      rw [mem_singleton.mp isEntry]
      nofun
    numbered := by
      rw [emissionsEq]
      rintro entry isEntry
      rw [mem_singleton.mp isEntry]
      nofun
    quietGap := fun closes => absurd (noGap.symm.trans closes) nofun }

/-! ## Publishing -/

/-- What a step of `Publish` does where the caller acts on a subscription that is open. -/
inductive Published (rules : SinkRules Payload) (sub : Subscription Payload) :
    EmitStage Payload → Subscription Payload → Option (EmitStage Payload) → Prop
  | skips (event : Event Payload)
      (passed : ¬ (sub.listed ∧ rules.allowsEvent event ∧ rules.matchesEvent event)) :
      Published rules sub (.recorded event) sub none
  | finds (event : Event Payload) (isListed : sub.listed = true) :
      Published rules sub (.recorded event) sub (some (.listed event sub.id))
  | checks (event : Event Payload) :
      Published rules sub (.listed event sub.id) sub (some (.sending event sub.id))
  | sends (event : Event Payload) (room : sub.ch.length < rules.buffer) :
      Published rules sub (.sending event sub.id) { sub with ch := sub.ch ++ [event] } none
  | overflows (event : Event Payload) (full : ¬ sub.ch.length < rules.buffer) :
      Published rules sub (.sending event sub.id) sub (some (.removing event sub.id))
  | removes (event : Event Payload) :
      Published rules sub (.removing event sub.id) (removeSubscription sub event.sequence) none

theorem ch_removeSubscription (sub : Subscription Payload) (sequence : Int) :
    (removeSubscription sub sequence).ch = sub.ch := by
  rw [removeSubscription]
  split_ifs <;> rfl

theorem Published.event_eq {after : Subscription Payload} {left : Option (EmitStage Payload)}
    (published : Published rules sub stage after left) :
    ∀ next ∈ left, next.event = stage.event := by
  cases published with
  | skips | sends | removes => nofun
  | finds | checks | overflows =>
    rintro _ ⟨⟩
    rfl

theorem published_stepPublish (acting : ∀ id ∈ stage.sub?, id = sub.id ∧ sub.done = false) :
    Published rules sub stage (stepPublish rules sub stage).1 (stepPublish rules sub stage).2 := by
  cases stage with
  | recorded event =>
    rw [stepPublish]
    split_ifs with passes
    · exact .finds event passes.1
    · exact .skips event passes
  | listed event id =>
    obtain ⟨rfl, isOpen⟩ := acting id rfl
    rw [stepPublish, if_pos ⟨rfl, by simp [isOpen]⟩]
    exact .checks event
  | sending event id =>
    obtain ⟨rfl, _⟩ := acting id rfl
    rw [stepPublish, if_neg (not_not_intro rfl)]
    split_ifs with room
    · exact .sends event room
    · exact .overflows event room
  | removing event id =>
    obtain ⟨rfl, _⟩ := acting id rfl
    rw [stepPublish, if_pos rfl]
    exact .removes event

theorem publish_cases (orderly : system.Orderly)
    (steps : system.step rules (.publish caller) = some next) :
    ∃ stage sub left, system.emissions = [(caller, stage)] ∧
      Published rules system.sub stage sub left ∧
      next = { system with
        sub := sub
        emissions := (left.map fun stage => (caller, stage)).toList } := by
  obtain ⟨stage, found, rfl⟩ := Option.map_eq_some_iff.mp steps
  have emissionsEq : system.emissions = [(caller, stage)] := by
    have isEntry := Assoc.mem_of_lookup found
    obtain ⟨_, isSingle⟩ := length_eq_one_iff.mp
      (le_antisymm orderly.single (length_pos_of_mem isEntry))
    rw [isSingle] at isEntry ⊢
    rw [mem_singleton.mp isEntry]
  have acting := orderly.acting (caller, stage) (by simp [emissionsEq])
  refine ⟨stage, _, _, emissionsEq, published_stepPublish acting, ?_⟩
  simp only [emissionsEq, Assoc.set_singleton]

theorem orderly_publish (orderly : system.Orderly)
    (undisturbed : system.Undisturbed rules (.publish caller))
    (steps : system.step rules (.publish caller) = some next) : next.Orderly := by
  obtain ⟨stage, sub, _, emissionsEq, published, rfl⟩ := publish_cases orderly steps
  have isEntry : (caller, stage) ∈ system.emissions := by simp [emissionsEq]
  have event_le : stage.event.sequence ≤ system.log.nextSeq := orderly.emitted_le _ isEntry
  have acting : ∀ id ∈ stage.sub?, id = system.sub.id ∧ system.sub.done = false :=
    orderly.acting _ isEntry
  have numbered : stage.isRemoving = true → 0 < stage.event.sequence := orderly.numbered _ isEntry
  have notClosing : system.worker.closesGap = true → False := by
    intro closes
    rw [orderly.quietGap closes] at emissionsEq
    cases emissionsEq
  cases published with
  | skips =>
    exact { orderly with
      single := zero_le 1
      emitted_le := forall_mem_nil _
      acting := forall_mem_nil _
      numbered := forall_mem_nil _
      quietGap := fun _ => rfl }
  | finds _ isListed =>
    have isOpen : system.sub.done = false := by simpa [isListed] using orderly.listed_eq
    exact { orderly with
      single := le_refl 1
      emitted_le := by simpa using event_le
      acting := by simpa [EmitStage.sub?] using isOpen
      numbered := by simp [EmitStage.isRemoving]
      quietGap := fun closes => (notClosing closes).elim }
  | checks =>
    exact { orderly with
      single := le_refl 1
      emitted_le := by simpa using event_le
      acting := by simpa [EmitStage.sub?] using acting
      numbered := by simp [EmitStage.isRemoving]
      quietGap := fun closes => (notClosing closes).elim }
  | sends =>
    have isOpen : system.sub.done = false := (acting _ rfl).2
    exact { orderly with
      single := zero_le 1
      ch_le := by
        intro other isOther
        rcases mem_append.mp isOther with isOld | isNew
        · exact orderly.ch_le other isOld
        · rw [mem_singleton.mp isNew]
          exact event_le
      emitted_le := forall_mem_nil _
      acting := forall_mem_nil _
      numbered := forall_mem_nil _
      drained := fun hasDrained => by
        have recovers : system.worker.isRunning = false := by
          cases isWorker : system.worker with
          | running => rw [isWorker] at hasDrained; cases hasDrained
          | draining | querying | replaying | subscribing => rfl
        rw [orderly.recovering recovers] at isOpen
        cases isOpen
      quietGap := fun _ => rfl }
  | overflows event full =>
    have positive : 0 < event.sequence := by
      by_contra notPositive
      refine full (undisturbed (.sending event system.sub.id) ?_ rfl (Int.not_lt.mp notPositive))
      rw [emissionsEq]
      simp
    exact { orderly with
      single := le_refl 1
      emitted_le := by simpa using event_le
      acting := by simpa [EmitStage.sub?] using acting
      numbered := by simpa [EmitStage.isRemoving, EmitStage.event] using positive
      quietGap := fun closes => (notClosing closes).elim }
  | removes event =>
    have isOpen : system.sub.done = false := (acting _ rfl).2
    have positive : 0 < event.sequence := numbered rfl
    have removedEq : removeSubscription system.sub event.sequence =
        { system.sub with
          done := true
          listed := false
          overflowSequence := event.sequence } := by
      rw [removeSubscription, isOpen, if_neg Bool.false_ne_true, if_pos positive]
    rw [removedEq]
    exact { orderly with
      single := zero_le 1
      emitted_le := forall_mem_nil _
      acting := forall_mem_nil _
      numbered := forall_mem_nil _
      listed_eq := rfl
      overflowed := fun _ => positive
      recovering := fun _ => rfl
      quietGap := fun _ => rfl }

/-! ## The worker -/

theorem seen_processEvent (seen : ∀ event ∈ system.delivered, event.sequence ≤ system.lastSequence)
    (event : Event Payload) (require : Bool) :
    ∀ other ∈ (system.processEvent rules event require).delivered,
      other.sequence ≤ (system.processEvent rules event require).lastSequence := by
  intro other isOther
  dsimp only [processEvent] at isOther ⊢
  have isOldOrNew : other ∈ system.delivered ∨ other = event := by
    split_ifs at isOther
    · simpa using isOther
    · exact .inl isOther
  rcases isOldOrNew with isOld | rfl
  · exact Int.le_trans (seen other isOld) (Int.le_max_left _ _)
  · exact Int.le_max_right _ _

theorem orderly_takeEvent (orderly : system.Orderly) {event : Event Payload}
    {rest : List (Event Payload)} (chEq : system.sub.ch = event :: rest) (require : Bool) :
    (system.takeEvent rules event rest require).Orderly := by
  have notDrained : system.worker.hasDrained = true → False := by
    intro hasDrained
    rw [orderly.drained hasDrained] at chEq
    cases chEq
  have event_le : event.sequence ≤ system.log.nextSeq :=
    orderly.ch_le event (by rw [chEq]; exact mem_cons_self)
  exact { orderly with
    seen := seen_processEvent orderly.seen event require
    last_le := Int.max_le.mpr ⟨orderly.last_le, event_le⟩
    ch_le := fun other isOther =>
      orderly.ch_le other (by rw [chEq]; exact mem_cons_of_mem _ isOther)
    drained := fun hasDrained => (notDrained hasDrained).elim
    cursor := by
      intro after isAfter
      change after ∈ system.worker.after? at isAfter
      cases isWorker : system.worker with
      | running | draining | subscribing => rw [isWorker] at isAfter; cases isAfter
      | querying | replaying => exact (notDrained (by rw [isWorker]; rfl)).elim }

theorem Orderly.setWorker (orderly : system.Orderly) {worker : WorkerStage Payload}
    (isDone : system.sub.done = true)
    (items_le : ∀ event ∈ worker.items, event.sequence ≤ system.log.nextSeq)
    (drained : worker.hasDrained = true → system.sub.ch = [])
    (cursor : ∀ after ∈ worker.after?, after = system.lastSequence)
    (quietGap : worker.closesGap = true → system.emissions = []) :
    Orderly { system with worker := worker } :=
  { orderly with
    items_le := items_le
    recovering := fun _ => isDone
    drained := drained
    cursor := cursor
    quietGap := quietGap }

theorem orderly_work (orderly : system.Orderly)
    (undisturbed : system.Undisturbed rules .work)
    (steps : system.stepWork rules = some next) : next.Orderly := by
  revert steps
  fun_cases stepWork rules system with
  | case1 => nofun
  | case2 _ _ _ chEq =>
    rintro ⟨⟩
    exact orderly_takeEvent orderly chEq true
  | case3 isWorker chEq =>
    rintro ⟨⟩
    have isDone := orderly.recovering (by rw [isWorker]; rfl)
    refine orderly.setWorker isDone nofun (fun _ => chEq) ?_ nofun
    rintro _ ⟨⟩
    rfl
  | case4 isWorker _ notOverflowed =>
    have isDone := orderly.recovering (by rw [isWorker]; rfl)
    exact absurd (orderly.overflowed isDone) notOverflowed
  | case5 _ isWorker =>
    rintro ⟨⟩
    have isDone := orderly.recovering (by rw [isWorker]; rfl)
    have chEq := orderly.drained (by rw [isWorker]; rfl)
    have noEmissions := isEmpty_iff.mp (undisturbed (by rw [isWorker]; rfl))
    exact orderly.setWorker isDone nofun (fun _ => chEq) nofun fun _ => noEmissions
  | case6 after isWorker =>
    rintro ⟨⟩
    have isDone := orderly.recovering (by rw [isWorker]; rfl)
    have chEq := orderly.drained (by rw [isWorker]; rfl)
    have cursor := orderly.cursor after (by rw [isWorker]; rfl)
    have noEmissions := isEmpty_iff.mp (undisturbed (by rw [isWorker]; rfl))
    refine orderly.setWorker isDone ?_ (fun _ => chEq) ?_ fun _ => noEmissions
    · exact fun event isEvent =>
        (orderly.keeps.numbered event (NodeEventLog.mem_query_items orderly.keeps isEvent).1).2
    · rintro _ ⟨⟩
      exact cursor
  | case7 _ hasMore isWorker =>
    rintro ⟨⟩
    have isDone := orderly.recovering (by rw [isWorker]; rfl)
    have chEq := orderly.drained (by rw [isWorker]; rfl)
    have cursor := orderly.cursor
    have quietGap := orderly.quietGap
    rw [isWorker] at cursor quietGap
    cases hasMore with
    | true => exact orderly.setWorker isDone nofun (fun _ => chEq) cursor nofun
    | false => exact orderly.setWorker isDone nofun (fun _ => chEq) nofun quietGap
  | case8 after event _ _ isWorker =>
    rintro ⟨⟩
    have isDone := orderly.recovering (by rw [isWorker]; rfl)
    have chEq := orderly.drained (by rw [isWorker]; rfl)
    have afterEq := orderly.cursor after (by rw [isWorker]; rfl)
    have items_le := orderly.items_le
    have quietGap := orderly.quietGap
    rw [isWorker] at items_le quietGap
    exact { orderly with
      seen := seen_processEvent orderly.seen event true
      last_le := Int.max_le.mpr ⟨orderly.last_le, items_le event mem_cons_self⟩
      items_le := fun other isOther => items_le other (mem_cons_of_mem _ isOther)
      recovering := fun _ => isDone
      drained := fun _ => chEq
      cursor := by
        rintro _ ⟨⟩
        rw [afterEq]
        rfl
      quietGap := quietGap }
  | case9 isWorker =>
    rintro ⟨⟩
    have noEmissions := orderly.quietGap (by rw [isWorker]; rfl)
    exact { orderly with
      ch_le := nofun
      items_le := nofun
      acting := by rw [noEmissions]; nofun
      listed_eq := rfl
      overflowed := nofun
      recovering := nofun
      drained := fun _ => rfl
      cursor := nofun
      quietGap := fun _ => noEmissions }

end SinkSystem

end DeepNps.Node
