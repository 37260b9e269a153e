import DeepNps.EventLog
import DeepNps.LabelledRuns
import DeepNps.Table

/-!
# Workers that deliver management events

Recording an event and publishing it are steps of the caller.  A publisher that finds the
channel full removes the subscription, and the worker recovers: it empties the channel,
replays the log from the largest number it has seen and subscribes again.
-/

namespace DeepNps.Node

variable {Payload : Type}

/-- Whether an event is persisted, the worker's actor may see it, it meets the worker's selectors
(always, for a callback) and the sink delivers events of its name; and the size of a channel. -/
structure SinkRules (Payload : Type) where
  shouldPersist : Payload → Bool
  allowsEvent : Event Payload → Bool
  matchesEvent : Event Payload → Bool
  shouldDeliver : Event Payload → Bool
  buffer : Nat

/-- A subscription of the worker.  `listed` says that the hub has it. -/
structure Subscription (Payload : Type) where
  id : Nat
  ch : List (Event Payload)
  done : Bool
  listed : Bool
  overflowSequence : Int

def Subscription.new (id : Nat) : Subscription Payload where
  id := id
  ch := []
  done := false
  listed := true
  overflowSequence := 0

inductive EmitStage (Payload : Type)
  | recorded (event : Event Payload)
  | listed (event : Event Payload) (sub : Nat)
  | sending (event : Event Payload) (sub : Nat)
  | removing (event : Event Payload) (sub : Nat)

namespace EmitStage

@[simp]
def event : EmitStage Payload → Event Payload
  | recorded event | listed event _ | sending event _ | removing event _ => event

@[simp]
def sub? : EmitStage Payload → Option Nat
  | recorded _ => none
  | listed _ sub | sending _ sub | removing _ sub => some sub

@[simp]
def isSending : EmitStage Payload → Bool
  | sending _ _ => true
  | _ => false

@[simp]
def isRemoving : EmitStage Payload → Bool
  | removing _ _ => true
  | _ => false

end EmitStage

inductive WorkerStage (Payload : Type)
  | running
  | draining
  | querying (after : Int)
  | replaying (after : Int) (items : List (Event Payload)) (hasMore : Bool)
  | subscribing

namespace WorkerStage

@[simp]
def items : WorkerStage Payload → List (Event Payload)
  | replaying _ items _ => items
  | running | draining | querying _ | subscribing => []

@[simp]
def isRunning : WorkerStage Payload → Bool
  | running => true
  | _ => false

@[simp]
def queries : WorkerStage Payload → Bool
  | querying _ => true
  | _ => false

/-- The worker has asked the log for the last page of its recovery and has not subscribed
yet. -/
@[simp]
def closesGap : WorkerStage Payload → Bool
  | replaying _ _ hasMore => !hasMore
  | subscribing => true
  | running | draining | querying _ => false

@[simp]
def after? : WorkerStage Payload → Option Int
  | querying after | replaying after _ _ => some after
  | running | draining | subscribing => none

/-- The worker has emptied the channel of the subscription that it lost. -/
@[simp]
def hasDrained : WorkerStage Payload → Bool
  | running | draining => false
  | querying _ | replaying _ _ _ | subscribing => true

end WorkerStage

/-- The log, the callers and a worker with its subscription.  `recorded` lists all persisted
events, `delivered` what was handed to delivery. -/
structure SinkSystem (Payload : Type) where
  log : NodeEventLog Payload
  recorded : List (Event Payload)
  emissions : List (Nat × EmitStage Payload)
  sub : Subscription Payload
  worker : WorkerStage Payload
  lastSequence : Int
  delivered : List (Event Payload)

inductive SinkEvent (Payload : Type)
  | record (caller : Nat) (payload : Payload)
  | publish (caller : Nat)
  | receive
  | recover
  | work

namespace SinkSystem

def start (log : NodeEventLog Payload) (recorded : List (Event Payload)) : SinkSystem Payload where
  log := log
  recorded := recorded
  emissions := []
  sub := .new 1
  worker := .running
  lastSequence := 0
  delivered := []

variable (rules : SinkRules Payload)

def stepRecord (system : SinkSystem Payload) (caller : Nat) (payload : Payload) :
    SinkSystem Payload :=
  let persists := rules.shouldPersist payload
  let recording := system.log.record payload persists
  { system with
    log := recording.log
    recorded := if persists then system.recorded ++ [recording.event] else system.recorded
    emissions := (caller, .recorded recording.event) :: system.emissions }

def removeSubscription (sub : Subscription Payload) (overflowSequence : Int) :
    Subscription Payload :=
  if sub.done then sub
  else
    { sub with
      done := true
      listed := false
      overflowSequence := if 0 < overflowSequence then overflowSequence else sub.overflowSequence }

/-- The subscription afterwards and the stage the caller comes to, if it is not done with it.  A
subscription that the worker has left is no longer seen by anyone. -/
def stepPublish (sub : Subscription Payload) :
    EmitStage Payload → Subscription Payload × Option (EmitStage Payload)
  | .recorded event =>
      if sub.listed ∧ rules.allowsEvent event ∧ rules.matchesEvent event then
        (sub, some (.listed event sub.id))
      else (sub, none)
  | .listed event id =>
      if id = sub.id ∧ ¬ sub.done then (sub, some (.sending event id)) else (sub, none)
  | .sending event id =>
      if id ≠ sub.id then (sub, none)
      else if sub.ch.length < rules.buffer then ({ sub with ch := sub.ch ++ [event] }, none)
      else (sub, some (.removing event id))
  | .removing event id =>
      if id = sub.id then (removeSubscription sub event.sequence, none) else (sub, none)

/-- `processCallbackEvent` and `processWebhookEvent`, which check the selectors again. -/
def processEvent (system : SinkSystem Payload) (event : Event Payload)
    (requireSelectorMatch : Bool) : SinkSystem Payload :=
  { system with
    lastSequence := max system.lastSequence event.sequence
    delivered :=
      if rules.shouldDeliver event ∧ (requireSelectorMatch → rules.matchesEvent event) then
        system.delivered ++ [event]
      else system.delivered }

/-- The next event of the channel is taken out and processed. -/
def takeEvent (system : SinkSystem Payload) (event : Event Payload) (rest : List (Event Payload))
    (requireSelectorMatch : Bool) : SinkSystem Payload :=
  { system with sub := { system.sub with ch := rest } }.processEvent rules event
    requireSelectorMatch

def stepWork (system : SinkSystem Payload) : Option (SinkSystem Payload) :=
  match system.worker with
  | .running => none
  | .draining =>
      match system.sub.ch with
      | event :: rest => some (system.takeEvent rules event rest true)
      | [] =>
          if 0 < system.sub.overflowSequence then
            some { system with worker := .querying system.lastSequence }
          else some { system with worker := .subscribing }
  | .querying after =>
      let snapshot := system.log.query after 100 (some rules.allowsEvent) true
      if snapshot.items.isEmpty then some { system with worker := .subscribing }
      else some { system with worker := .replaying after snapshot.items snapshot.hasMore }
  | .replaying after [] hasMore =>
      some { system with worker := if hasMore then .querying after else .subscribing }
  | .replaying after (event :: items) hasMore =>
      some { system.processEvent rules event true with
        worker := .replaying (max after event.sequence) items hasMore }
  | .subscribing => some { system with sub := .new (system.sub.id + 1), worker := .running }

def step (system : SinkSystem Payload) : SinkEvent Payload → Option (SinkSystem Payload)
  | .record caller payload =>
      if (system.emissions.lookup caller).isSome then none
      else some (system.stepRecord rules caller payload)
  | .publish caller =>
      (system.emissions.lookup caller).map fun stage =>
        let (sub, left) := stepPublish rules system.sub stage
        { system with sub := sub, emissions := Assoc.set system.emissions caller left }
  | .receive =>
      match system.worker, system.sub.ch with
      | .running, event :: rest => some (system.takeEvent rules event rest false)
      | _, _ => none
  | .recover =>
      match system.worker with
      | .running => if system.sub.done then some { system with worker := .draining } else none
      | _ => none
  | .work => system.stepWork rules

/-- An event is recorded only while no other one is on its way and the worker is not between its
last query and its subscription; the worker queries only while no event is on its way; and an
event without a number finds room. -/
def Undisturbed (system : SinkSystem Payload) : SinkEvent Payload → Prop
  | .record _ _ => system.emissions.isEmpty = true ∧ system.worker.closesGap = false
  | .publish caller => ∀ stage ∈ system.emissions.lookup caller,
      stage.isSending = true → stage.event.sequence ≤ 0 → system.sub.ch.length < rules.buffer
  | .receive | .recover => True
  | .work => system.worker.queries = true → system.emissions.isEmpty = true

/-- When the worker queries the log, it still has an event that was recorded. -/
def Retained (event : Event Payload) (system : SinkSystem Payload) : SinkEvent Payload → Prop
  | .work => system.worker.queries = true → event ∈ system.recorded → event ∈ system.log.history
  | .record _ _ | .publish _ | .receive | .recover => True

instance (system : SinkSystem Payload) (event : SinkEvent Payload) :
    Decidable (system.Undisturbed rules event) :=
  match event with
  | .record _ _ => inferInstanceAs
      (Decidable (system.emissions.isEmpty = true ∧ system.worker.closesGap = false))
  | .publish caller => inferInstanceAs (Decidable (∀ stage ∈ system.emissions.lookup caller,
      stage.isSending = true → stage.event.sequence ≤ 0 → system.sub.ch.length < rules.buffer))
  | .receive | .recover => .isTrue trivial
  | .work => inferInstanceAs
      (Decidable (system.worker.queries = true → system.emissions.isEmpty = true))

instance [DecidableEq Payload] (target : Event Payload) (system : SinkSystem Payload)
    (event : SinkEvent Payload) : Decidable (system.Retained target event) :=
  match event with
  | .work => inferInstanceAs (Decidable
      (system.worker.queries = true → target ∈ system.recorded → target ∈ system.log.history))
  | .record _ _ | .publish _ | .receive | .recover => .isTrue trivial

/-- Nothing is on its way to the worker: no call is in `Publish`, and the worker waits at
an empty channel. -/
structure AtRest (system : SinkSystem Payload) : Prop where
  noEmissions : system.emissions = []
  emptyChannel : system.sub.ch = []
  subscribed : system.sub.done = false
  isRunning : system.worker.isRunning = true

end SinkSystem

end DeepNps.Node
