import DeepNps.EventSinkOrder

/-!
# Events handed to delivery

In an undisturbed run every event that the worker wants is in exactly one place: on its
way through the hub, missed by a lost subscription and ahead of the cursor, in the
channel, in a page that is replayed, or delivered.
-/

namespace DeepNps.Node

open List NodeEventLog Sequenced Option

variable {Payload : Type}

namespace SinkSystem

variable {rules : SinkRules Payload} {system next : SinkSystem Payload}

/-! ## Where an event is -/

section Target

variable [DecidableEq Payload] (target : Event Payload)

def handed (system : SinkSystem Payload) : Nat :=
  system.delivered.count target + system.sub.ch.count target + system.worker.items.count target

/-- All that the worker has seen or is about to see came before the event. -/
structure Below (system : SinkSystem Payload) : Prop where
  last : system.lastSequence < target.sequence
  ch : ∀ event ∈ system.sub.ch, event.sequence < target.sequence
  items : ∀ event ∈ system.worker.items, event.sequence < target.sequence

def OnTheWay (system : SinkSystem Payload) : Prop :=
  ∃ entry ∈ system.emissions, entry.2.event = target ∧ entry.2.isRemoving = false

def Due (system : SinkSystem Payload) : Prop :=
  system.worker.closesGap = false ∧
    (system.sub.done = true ∨ ∃ entry ∈ system.emissions, entry.2.isRemoving = true)

def Apart (system : SinkSystem Payload) : Prop := ∀ entry ∈ system.emissions, entry.2.event ≠ target

inductive Accounted (system : SinkSystem Payload) : Prop
  | absent (notRecorded : target ∉ system.recorded) (none : system.handed target = 0)
      (apart : system.Apart target)
  | handed (isRecorded : target ∈ system.recorded) (one : system.handed target = 1)
      (apart : system.Apart target)
  | waiting (isRecorded : target ∈ system.recorded) (none : system.handed target = 0)
      (below : system.Below target) (due : system.OnTheWay target ∨ system.Due)

structure Wanted (rules : SinkRules Payload) (target : Event Payload) : Prop where
  persists : rules.shouldPersist target.payload = true
  allows : rules.allowsEvent target = true
  selects : rules.matchesEvent target = true
  delivers : rules.shouldDeliver target = true

variable {target}

omit [DecidableEq Payload] in
theorem Due.of_noEmissions (due : system.OnTheWay target ∨ system.Due)
    (noEmissions : system.emissions = []) :
    system.worker.closesGap = false ∧ system.sub.done = true := by
  rcases due with ⟨entry, isEntry, -⟩ | ⟨noGap, isDone | ⟨entry, isEntry, -⟩⟩
  · rw [noEmissions] at isEntry
    cases isEntry
  · exact ⟨noGap, isDone⟩
  · rw [noEmissions] at isEntry
    cases isEntry

theorem accounted_record (orderly : system.Orderly) (accounted : system.Accounted target)
    (wanted : Wanted rules target) (noEmissions : system.emissions = []) (caller : Nat)
    (payload : Payload) : (system.stepRecord rules caller payload).Accounted target := by
  have isEvent : ∀ entry ∈ (system.stepRecord rules caller payload).emissions,
      entry.2.event = (system.log.record payload (rules.shouldPersist payload)).event := by
    intro _ isEntry
    rw [stepRecord, noEmissions] at isEntry
    rw [mem_singleton.mp isEntry]
    rfl
  have recordedEq : (system.stepRecord rules caller payload).recorded =
      if rules.shouldPersist payload then
        system.recorded ++ [(system.log.record payload (rules.shouldPersist payload)).event]
      else system.recorded := rfl
  have persisted : (system.log.record payload (rules.shouldPersist payload)).event = target →
      rules.shouldPersist payload = true ∧ target.sequence = system.log.nextSeq + 1 := by
    rintro rfl
    have isPersisted := wanted.persists
    cases persists : rules.shouldPersist payload with
    | true => exact ⟨rfl, rfl⟩
    | false =>
      rw [persists] at isPersisted
      exact absurd (persists.symm.trans isPersisted) Bool.false_ne_true
  have isOld : target ∈ system.recorded →
      (system.log.record payload (rules.shouldPersist payload)).event ≠ target := by
    intro isRecorded isNew
    have bounded := (orderly.keeps.numbered _ isRecorded).2
    have isNext := (persisted isNew).2
    omega
  have staysRecorded : target ∈ system.recorded →
      target ∈ (system.stepRecord rules caller payload).recorded := by
    intro isRecorded
    rw [recordedEq]
    split_ifs
    · exact mem_append_left _ isRecorded
    · exact isRecorded
  cases accounted with
  | absent notRecorded none =>
    by_cases isNew : (system.log.record payload (rules.shouldPersist payload)).event = target
    · obtain ⟨persists, nextEq⟩ := persisted isNew
      refine .waiting ?_ none ⟨?_, ?_, ?_⟩ (.inl ⟨_, mem_cons_self, isNew, rfl⟩)
      · rw [recordedEq, if_pos persists, isNew]
        exact mem_append_right _ (mem_singleton_self _)
      · have last_le := orderly.last_le
        change system.lastSequence < target.sequence
        omega
      · intro event isEvent
        have bounded := orderly.ch_le event isEvent
        omega
      · intro event isEvent
        have bounded := orderly.items_le event isEvent
        omega
    · refine .absent ?_ none fun entry isEntry => ?_
      · rw [recordedEq]
        split_ifs
        · simpa using ⟨notRecorded, fun isTarget => isNew isTarget.symm⟩
        · exact notRecorded
      · rw [isEvent entry isEntry]
        exact isNew
  | handed isRecorded one =>
    refine .handed (staysRecorded isRecorded) one fun entry isEntry => ?_
    rw [isEvent entry isEntry]
    exact isOld isRecorded
  | waiting isRecorded none below due =>
    obtain ⟨noGap, isDone⟩ := Due.of_noEmissions due noEmissions
    exact .waiting (staysRecorded isRecorded) none ⟨below.last, below.ch, below.items⟩
      (.inr ⟨noGap, .inl isDone⟩)

variable {sub : Subscription Payload} {stage : EmitStage Payload}
  {left : Option (EmitStage Payload)} {rest : List (Event Payload)}

theorem Published.count_ch {after : Subscription Payload}
    (published : Published rules sub stage after left) (isOther : stage.event ≠ target) :
    after.ch.count target = sub.ch.count target := by
  cases published with
  | skips | finds | checks | overflows => rfl
  | sends => rw [count_append, count_singleton, if_neg (by simpa using isOther), Nat.add_zero]
  | removes => rw [ch_removeSubscription]

theorem publish_other {caller : Nat} (isEntry : (caller, stage) ∈ system.emissions)
    (published : Published rules system.sub stage sub left) (apart : system.Apart target) :
    let next : SinkSystem Payload := { system with
      sub := sub
      emissions := (left.map fun stage => (caller, stage)).toList }
    next.handed target = system.handed target ∧ next.Apart target := by
  have isOther : stage.event ≠ target := apart _ isEntry
  refine ⟨?_, fun entry isLeft => ?_⟩
  · simp only [handed, published.count_ch isOther]
  · obtain ⟨after, isAfter, rfl⟩ : ∃ after ∈ left, (caller, after) = entry := by
      simpa [mem_toList] using isLeft
    rw [published.event_eq after isAfter]
    exact isOther

theorem accounted_publish (orderly : system.Orderly) (accounted : system.Accounted target)
    (wanted : Wanted rules target) {caller : Nat}
    (steps : system.step rules (.publish caller) = some next) : next.Accounted target := by
  obtain ⟨stage, sub, _, emissionsEq, published, rfl⟩ := publish_cases orderly steps
  have isEntry : (caller, stage) ∈ system.emissions := by simp [emissionsEq]
  have noGap : system.worker.closesGap = false := by
    cases closes : system.worker.closesGap with
    | false => rfl
    | true =>
      rw [orderly.quietGap closes] at isEntry
      cases isEntry
  cases accounted with
  | absent notRecorded none apart =>
    obtain ⟨handedEq, apartNext⟩ := publish_other isEntry published apart
    exact .absent notRecorded (handedEq.trans none) apartNext
  | handed isRecorded one apart =>
    obtain ⟨handedEq, apartNext⟩ := publish_other isEntry published apart
    exact .handed isRecorded (handedEq.trans one) apartNext
  | waiting isRecorded none below due =>
    have acting : ∀ id ∈ stage.sub?, id = system.sub.id ∧ system.sub.done = false :=
      orderly.acting _ isEntry
    -- The one call has the event unless the subscription is lost already or about to be.
    have isTarget : system.sub.done = false → stage.isRemoving = false → stage.event = target := by
      intro isOpen stays
      rcases due with ⟨entry, isOne, found, -⟩ | ⟨-, isDone | ⟨entry, isOne, found⟩⟩
      · rw [emissionsEq, mem_singleton] at isOne
        subst isOne
        exact found
      · cases isOpen.symm.trans isDone
      · rw [emissionsEq, mem_singleton] at isOne
        subst isOne
        cases stays.symm.trans found
    cases published with
    | skips event passed =>
      refine .waiting isRecorded none ⟨below.last, below.ch, below.items⟩ (.inr ⟨noGap, .inl ?_⟩)
      by_contra notDone
      have isOpen : system.sub.done = false := Bool.eq_false_iff.mpr notDone
      obtain rfl : event = target := isTarget isOpen rfl
      have notListed : system.sub.listed = false := by
        simpa [wanted.allows, wanted.selects] using passed
      have listed_eq := orderly.listed_eq
      rw [notListed, isOpen] at listed_eq
      cases listed_eq
    | finds _ isListed =>
      have isOpen : system.sub.done = false := by simpa [isListed] using orderly.listed_eq
      exact .waiting isRecorded none ⟨below.last, below.ch, below.items⟩
        (.inl ⟨_, mem_singleton_self _, isTarget isOpen rfl, rfl⟩)
    | checks =>
      exact .waiting isRecorded none ⟨below.last, below.ch, below.items⟩
        (.inl ⟨_, mem_singleton_self _, isTarget (acting _ rfl).2 rfl, rfl⟩)
    | sends event =>
      obtain rfl : event = target := isTarget (acting _ rfl).2 rfl
      refine .handed isRecorded ?_ nofun
      simp only [handed, count_append, count_singleton_self] at none ⊢
      omega
    | overflows =>
      exact .waiting isRecorded none ⟨below.last, below.ch, below.items⟩
        (.inr ⟨noGap, .inr ⟨_, mem_singleton_self _, rfl⟩⟩)
    | removes =>
      refine .waiting isRecorded ?_ ⟨below.last, ?_, below.items⟩ (.inr ⟨noGap, .inl ?_⟩)
      · simp only [handed, ch_removeSubscription]
        exact none
      · rw [ch_removeSubscription]
        exact below.ch
      · rw [removeSubscription, (acting _ rfl).2, if_neg Bool.false_ne_true]

theorem count_processEvent (wanted : Wanted rules target) (system : SinkSystem Payload)
    (event : Event Payload) (rest : List (Event Payload)) (require : Bool) :
    (system.processEvent rules event require).delivered.count target + rest.count target =
      system.delivered.count target + (event :: rest).count target := by
  dsimp only [processEvent]
  by_cases isTarget : event = target
  · subst isTarget
    rw [if_pos ⟨wanted.delivers, fun _ => wanted.selects⟩, count_append, count_singleton_self,
      count_cons_self]
    omega
  · have notCounted : [event].count target = 0 :=
      count_eq_zero.mpr fun isEvent => isTarget (mem_singleton.mp isEvent).symm
    rw [count_cons_of_ne isTarget]
    split_ifs
    · rw [count_append, notCounted, Nat.add_zero]
    · rfl

theorem handed_takeEvent (wanted : Wanted rules target) {event : Event Payload}
    (chEq : system.sub.ch = event :: rest) (require : Bool) :
    (system.takeEvent rules event rest require).handed target = system.handed target := by
  rw [handed, handed, chEq]
  exact congrArg (· + _) (count_processEvent wanted { system with
    sub := { system.sub with ch := rest } } event rest require)

theorem Accounted.moved (accounted : system.Accounted target)
    (recordedEq : next.recorded = system.recorded) (emissionsEq : next.emissions = system.emissions)
    (handedEq : next.handed target = system.handed target)
    (waits : system.Below target → system.OnTheWay target ∨ system.Due →
      next.Below target ∧ (next.OnTheWay target ∨ next.Due)) : next.Accounted target := by
  cases accounted with
  | absent _ none =>
    refine .absent ?_ (handedEq.trans none) ?_
    · rwa [recordedEq]
    · rwa [Apart, emissionsEq]
  | handed _ one =>
    refine .handed ?_ (handedEq.trans one) ?_
    · rwa [recordedEq]
    · rwa [Apart, emissionsEq]
  | waiting isRecorded none below due =>
    obtain ⟨nextBelow, nextDue⟩ := waits below due
    exact .waiting (recordedEq ▸ isRecorded) (handedEq.trans none) nextBelow nextDue

theorem accounted_takeEvent (accounted : system.Accounted target) (wanted : Wanted rules target)
    {event : Event Payload} (chEq : system.sub.ch = event :: rest) (require : Bool) :
    (system.takeEvent rules event rest require).Accounted target := by
  refine accounted.moved rfl rfl (handed_takeEvent wanted chEq require) fun below due => ?_
  have ch := below.ch
  rw [chEq] at ch
  refine ⟨⟨?_, ?_, below.items⟩, due⟩
  · exact Int.max_lt.mpr ⟨below.last, ch event mem_cons_self⟩
  · exact fun other isOther => ch other (mem_cons_of_mem _ isOther)

theorem accounted_query (orderly : system.Orderly) (accounted : system.Accounted target)
    (wanted : Wanted rules target) {after : Int} (isWorker : system.worker = .querying after)
    (undisturbed : system.Undisturbed rules .work) (retained : system.Retained target .work)
    (steps : system.stepWork rules = some next) : next.Accounted target := by
  have chEq := orderly.drained (by rw [isWorker]; rfl)
  have noEmissions := isEmpty_iff.mp (undisturbed (by rw [isWorker]; rfl))
  have afterEq := orderly.cursor after (by rw [isWorker]; rfl)
  have handedEq : system.handed target = system.delivered.count target := by
    simp [handed, chEq, isWorker]
  obtain ⟨worker, rfl, itemsEq, gapEq⟩ : ∃ worker, next = { system with worker := worker } ∧
      worker.items = (system.log.query after 100 (some rules.allowsEvent) true).items ∧
      worker.closesGap = !(system.log.query after 100 (some rules.allowsEvent) true).hasMore := by
    simp only [stepWork, isWorker] at steps
    split_ifs at steps with isEmpty
    · obtain rfl := some.inj steps
      have noItems := isEmpty_iff.mp isEmpty
      refine ⟨_, rfl, noItems.symm, ?_⟩
      cases hasMore : (system.log.query after 100 (some rules.allowsEvent) true).hasMore with
      | false => rfl
      | true => exact absurd noItems (query_items_ne_nil orderly.keeps hasMore)
    · obtain rfl := some.inj steps
      exact ⟨_, rfl, rfl, rfl⟩
  have nextHanded : handed target { system with worker := worker } =
      system.handed target + worker.items.count target := by
    simp [handed, chEq, isWorker]
  cases accounted with
  | absent notRecorded _ apart =>
    have notItem : worker.items.count target = 0 := by
      rw [itemsEq]
      exact count_eq_zero.mpr fun isItem => notRecorded (mem_query_items orderly.keeps isItem).1
    exact .absent notRecorded (by omega) apart
  | handed isRecorded _ apart =>
    -- It was delivered, so the cursor is past it.
    have isDelivered : target ∈ system.delivered := by
      apply count_pos_iff.mp
      omega
    have notItem : worker.items.count target = 0 := by
      rw [itemsEq]
      refine count_eq_zero.mpr fun isItem => ?_
      have isAfter := (mem_query_items orderly.keeps isItem).2.1
      have seen := orderly.seen target isDelivered
      omega
    exact .handed isRecorded (by omega) apart
  | waiting isRecorded none below due =>
    have isSource : target ∈ system.log.source true := retained (by rw [isWorker]; rfl) isRecorded
    have isAfter : after < target.sequence := afterEq ▸ below.last
    have allows : (some rules.allowsEvent).all (· target) = true := wanted.allows
    rcases mem_query_items_or_later orderly.keeps 100 isSource allows isAfter with
      isItem | ⟨hasMore, later⟩
    · refine .handed isRecorded ?_ (by rw [Apart, noEmissions]; rintro _ ⟨⟩)
      have nodup : worker.items.Nodup := by
        rw [itemsEq]
        refine (ordered_query_items orderly.keeps ..).imp ?_
        rintro first _ less rfl
        exact Int.lt_irrefl _ less
      rw [← itemsEq] at isItem
      rw [nextHanded, none, count_eq_one_of_mem nodup isItem]
    · have notItem : worker.items.count target = 0 := by
        rw [itemsEq]
        exact count_eq_zero.mpr fun isItem => absurd (later target isItem) (Int.lt_irrefl _)
      refine .waiting isRecorded (by omega) ⟨below.last, below.ch, ?_⟩ (.inr ⟨?_, .inl ?_⟩)
      · change ∀ event ∈ worker.items, _
        rw [itemsEq]
        exact later
      · rw [hasMore] at gapEq
        exact gapEq
      · exact (Due.of_noEmissions due noEmissions).2

theorem accounted_work (orderly : system.Orderly) (accounted : system.Accounted target)
    (wanted : Wanted rules target) (undisturbed : system.Undisturbed rules .work)
    (retained : system.Retained target .work) (steps : system.stepWork rules = some next) :
    next.Accounted target := by
  have requeried : ∀ {worker}, system.worker.items = [] → worker.items = [] →
      worker.closesGap = false → Accounted target { system with worker := worker } := by
    intro worker noItems stillNone noGap
    refine accounted.moved rfl rfl (by simp only [handed, noItems, stillNone]) fun below due => ?_
    refine ⟨⟨below.last, below.ch, ?_⟩, due.imp_right fun due => ⟨noGap, due.2⟩⟩
    change ∀ event ∈ worker.items, _
    rw [stillNone]
    rintro _ ⟨⟩
  have notWaiting : system.worker.closesGap = true →
      system.OnTheWay target ∨ system.Due → False := by
    intro closes due
    have noGap := (Due.of_noEmissions due (orderly.quietGap closes)).1
    rw [closes] at noGap
    cases noGap
  have queries : ∀ after, system.worker = .querying after → next.Accounted target :=
    fun after isWorker =>
      accounted_query orderly accounted wanted isWorker undisturbed retained steps
  revert steps
  fun_cases stepWork rules system with
  | case1 => rintro ⟨⟩
  | case2 _ _ _ chEq =>
    rintro ⟨⟩
    exact accounted_takeEvent accounted wanted chEq true
  | case3 isWorker =>
    rintro ⟨⟩
    exact requeried (by rw [isWorker]; rfl) rfl rfl
  | case4 isWorker _ notOverflowed =>
    have isDone := orderly.recovering (by rw [isWorker]; rfl)
    exact absurd (orderly.overflowed isDone) notOverflowed
  | case5 after isWorker | case6 after isWorker => exact fun _ => queries after isWorker
  | case7 _ hasMore isWorker =>
    rintro ⟨⟩
    cases hasMore with
    | true => exact requeried (by rw [isWorker]; rfl) rfl rfl
    | false =>
      refine accounted.moved rfl rfl (by simp [handed, isWorker]) fun _ due => ?_
      exact (notWaiting (by rw [isWorker]; rfl) due).elim
  | case8 _ event items _ isWorker =>
    rintro ⟨⟩
    refine accounted.moved rfl rfl ?_ fun below due => ?_
    · have delivered := count_processEvent wanted system event items true
      simp only [handed, isWorker, WorkerStage.items]
      dsimp only [processEvent] at delivered ⊢
      omega
    · obtain ⟨last, ch, below⟩ := below
      rw [isWorker] at below
      refine ⟨⟨?_, ch, ?_⟩, due.imp_right fun due => ⟨?_, due.2⟩⟩
      · exact Int.max_lt.mpr ⟨last, below event mem_cons_self⟩
      · exact fun other isOther => below other (mem_cons_of_mem _ isOther)
      · have noGap := due.1
        rw [isWorker] at noGap
        exact noGap
  | case9 isWorker =>
    rintro ⟨⟩
    have chEq := orderly.drained (by rw [isWorker]; rfl)
    refine accounted.moved rfl rfl (by simp [handed, isWorker, chEq, Subscription.new])
      fun _ due => ?_
    exact (notWaiting (by rw [isWorker]; rfl) due).elim

/-! ## Runs -/

theorem accounted_step (orderly : system.Orderly) (accounted : system.Accounted target)
    (wanted : Wanted rules target) {event : SinkEvent Payload}
    (undisturbed : system.Undisturbed rules event) (retained : system.Retained target event)
    (steps : system.step rules event = some next) : next.Orderly ∧ next.Accounted target := by
  cases event with
  | record caller payload =>
    obtain ⟨noEmissions, noGap⟩ := undisturbed
    have noEmissions := isEmpty_iff.mp noEmissions
    simp only [step, noEmissions, lookup_nil, isSome_none, Bool.false_eq_true,
      if_false, some.injEq] at steps
    obtain rfl := steps
    exact ⟨orderly_record orderly noEmissions noGap,
      accounted_record orderly accounted wanted noEmissions caller payload⟩
  | publish =>
    exact ⟨orderly_publish orderly undisturbed steps,
      accounted_publish orderly accounted wanted steps⟩
  | receive =>
    rw [step] at steps
    split at steps
    · next event rest isRunning chEq =>
        obtain rfl := some.inj steps
        exact ⟨orderly_takeEvent orderly chEq false,
          accounted_takeEvent accounted wanted chEq false⟩
    · cases steps
  | recover =>
    rw [step] at steps
    cases isWorker : system.worker with
    | running =>
      simp only [isWorker, ite_none_right_eq_some, some.injEq] at steps
      obtain ⟨isDone, rfl⟩ := steps
      constructor
      · exact { orderly with
          items_le := nofun
          recovering := fun _ => isDone
          drained := nofun
          cursor := nofun
          quietGap := nofun }
      · refine accounted.moved rfl rfl (by simp [handed, isWorker]) fun below due => ?_
        exact ⟨⟨below.last, below.ch, nofun⟩, due.imp_right fun due => ⟨rfl, due.2⟩⟩
    | draining | querying | replaying | subscribing => simp only [isWorker, reduceCtorEq] at steps
  | work =>
    exact ⟨orderly_work orderly undisturbed steps,
      accounted_work orderly accounted wanted undisturbed retained steps⟩

/-- In undisturbed runs, an event that the worker wants, recorded after it has subscribed and
still in the log when it recovers, is delivered at most once, and exactly once when the worker is
at rest. -/
theorem delivered_exactly_once (rules : SinkRules Payload) {log : NodeEventLog Payload}
    {recorded : List (Event Payload)} (keeps : log.Keeps recorded)
    {events : List (SinkEvent Payload)} {system : SinkSystem Payload}
    (runs : Runs.execute (step rules) (start log recorded) events = some system)
    {target : Event Payload} (wanted : Wanted rules target)
    (recordedLater : log.nextSeq < target.sequence)
    (meets : Runs.Meets (step rules)
      (fun system event => system.Undisturbed rules event ∧ system.Retained target event)
      (start log recorded) events) :
    system.delivered.count target ≤ 1 ∧
      (target ∈ system.recorded → system.AtRest → system.delivered.count target = 1) := by
  have notRecorded : target ∉ recorded := by
    intro isRecorded
    have bounded := (keeps.numbered target isRecorded).2
    omega
  have invariant : system.Orderly ∧ system.Accounted target :=
    Runs.invariant_of_meets _
      (fun _ _ _ holds allowed => accounted_step holds.1 holds.2 wanted allowed.1 allowed.2)
      ⟨orderly_start keeps, .absent notRecorded rfl nofun⟩ meets runs
  obtain ⟨_, accounted⟩ := invariant
  have bounded : system.delivered.count target ≤ system.handed target := by
    rw [handed]
    omega
  refine ⟨?_, fun isRecorded atRest => ?_⟩
  · cases accounted with
    | absent | waiting => omega
    | handed => omega
  · have noItems : system.worker.items = [] := by
      cases isWorker : system.worker with
      | running | draining | querying | subscribing => rfl
      | replaying =>
        have isRunning := atRest.isRunning
        rw [isWorker] at isRunning
        cases isRunning
    cases accounted with
    | absent notRecorded => exact absurd isRecorded notRecorded
    | handed _ one =>
      rw [handed, atRest.emptyChannel, noItems] at one
      simpa using one
    | waiting _ _ _ due =>
      have isDone := (Due.of_noEmissions due atRest.noEmissions).2
      rw [atRest.subscribed] at isDone
      cases isDone

end Target

/-! ## Schedules -/

def callbackRules : SinkRules Nat where
  shouldPersist := fun _ => true
  allowsEvent := fun _ => true
  matchesEvent := fun _ => true
  shouldDeliver := fun _ => true
  buffer := 32

/-- Events that fill the channel, one that finds it full, and the recovery up to the end
of the replay. -/
def overflowAndReplay : List (SinkEvent Nat) :=
  (List.replicate 32 [.record 0 7, .publish 0, .publish 0, .publish 0]).flatten ++
    [.record 0 7, .publish 0, .publish 0, .publish 0, .publish 0, .recover] ++
    List.replicate 35 .work

/-- The event that finds the channel full is delivered by the replay. -/
theorem delivered_exactly_once_replayed :
    ∃ system : SinkSystem Nat,
      Runs.execute (step callbackRules) (start (NodeEventLog.new 0) [])
          (overflowAndReplay ++ [.work, .work]) = some system ∧
        system.delivered.count ⟨33, 7⟩ = 1 := by
  obtain ⟨system, runs, isRecorded, noEmissions, emptyChannel, subscribed, isRunning⟩ :
      ∃ system : SinkSystem Nat,
        Runs.execute (step callbackRules) (start (new 0) [])
            (overflowAndReplay ++ [.work, .work]) = some system ∧
          ⟨33, 7⟩ ∈ system.recorded ∧ system.emissions.isEmpty ∧ system.sub.ch.isEmpty ∧
          system.sub.done = false ∧ system.worker.isRunning = true :=
    Runs.exists_of_any (by decide +kernel)
  refine ⟨system, runs, ?_⟩
  exact (delivered_exactly_once callbackRules (new_keeps 0) runs ⟨rfl, rfl, rfl, rfl⟩
    (by decide) (by decide +kernel)).2 isRecorded
      ⟨isEmpty_iff.mp noEmissions, isEmpty_iff.mp emptyChannel, subscribed, isRunning⟩

/-- An event recorded and published between the last query and the new subscription is never
delivered. -/
theorem event_missed_before_subscription :
    ∃ system : SinkSystem Nat,
      Runs.execute (step callbackRules) (start (NodeEventLog.new 0) [])
          (overflowAndReplay ++ [.record 1 8, .publish 1, .work, .work]) = some system ∧
        Runs.Meets (step callbackRules) (Retained ⟨34, 8⟩) (start (NodeEventLog.new 0) [])
          (overflowAndReplay ++ [.record 1 8, .publish 1, .work, .work]) ∧
        Wanted callbackRules ⟨34, 8⟩ ∧ ⟨34, 8⟩ ∈ system.recorded ∧ system.AtRest ∧
        system.delivered.count ⟨34, 8⟩ = 0 := by
  obtain ⟨system, runs, isRecorded, noEmissions, emptyChannel, subscribed, isRunning,
      notDelivered⟩ : ∃ system : SinkSystem Nat,
      Runs.execute (step callbackRules) (start (new 0) [])
          (overflowAndReplay ++ [.record 1 8, .publish 1, .work, .work]) = some system ∧
        ⟨34, 8⟩ ∈ system.recorded ∧ system.emissions.isEmpty ∧ system.sub.ch.isEmpty ∧
        system.sub.done = false ∧ system.worker.isRunning = true ∧
        system.delivered.count ⟨34, 8⟩ = 0 :=
    Runs.exists_of_any (by decide +kernel)
  exact ⟨system, runs, by decide +kernel, ⟨rfl, rfl, rfl, rfl⟩, isRecorded,
    ⟨isEmpty_iff.mp noEmissions, isEmpty_iff.mp emptyChannel, subscribed, isRunning⟩,
    notDelivered⟩

end SinkSystem

end DeepNps.Node
