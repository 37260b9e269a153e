import DeepNps.LaneFifo
import DeepNps.MuxStreamBuckets

/-!
# The mux write queue

Control frames go first, then two classes of per-stream buckets in rotation; a run of
priority pops is cut short after `maxPriorityBurst` of them while normal frames wait.  The
queue is a set of FIFO lanes: control, or one stream of one class.
-/

namespace DeepNps.Mux

/-- The control chain is a list; `stop` is the flag that `Stop` raises. -/
structure PriorityQueue where
  length : UInt64
  control : List MuxPackager
  priorityStreams : StreamBucketSet
  streams : StreamBucketSet
  priorityBurst : UInt8
  stop : Bool

def maxPriorityBurst : UInt8 := 8

namespace PriorityQueue

def new : PriorityQueue where
  length := 0
  control := []
  priorityStreams := StreamBucketSet.init
  streams := StreamBucketSet.init
  priorityBurst := 0
  stop := false

def pushControl (queue : PriorityQueue) (packager : MuxPackager) : PriorityQueue :=
  { queue with control := queue.control ++ [packager] }

def pushFrame (queue : PriorityQueue) (packager : MuxPackager) : PriorityQueue :=
  if isMuxStreamOrderedFlag packager.flag then
    if packager.priority then
      { queue with priorityStreams := queue.priorityStreams.push packager }
    else
      { queue with streams := queue.streams.push packager }
  else
    queue.pushControl packager

/-- `Push` reports whether the frame was accepted. -/
def push (queue : PriorityQueue) (packager : MuxPackager) : Bool × PriorityQueue :=
  if queue.stop then (false, queue)
  else (true, { queue with length := queue.length + 1 }.pushFrame packager)

def len (queue : PriorityQueue) : UInt64 := queue.length

def afterPop (queue : PriorityQueue) : PriorityQueue := { queue with length := queue.length - 1 }

def popControl (queue : PriorityQueue) : Option MuxPackager × PriorityQueue :=
  match queue.control with
  | [] => (none, queue)
  | packager :: rest => (some packager, { queue with control := rest })

def popPriority (queue : PriorityQueue) (burst : UInt8) : Option MuxPackager × PriorityQueue :=
  match queue.priorityStreams.pop with
  | (none, _) => (none, queue)
  | (some packager, rest) =>
    (some packager, { queue with priorityStreams := rest, priorityBurst := burst })

def popNormal (queue : PriorityQueue) : Option MuxPackager × PriorityQueue :=
  match queue.streams.pop with
  | (none, _) => (none, queue)
  | (some packager, rest) => (some packager, { queue with streams := rest, priorityBurst := 0 })

def popStream (queue : PriorityQueue) : Option MuxPackager × PriorityQueue :=
  let priorityReady := queue.priorityStreams.hasPending
  let normalReady := queue.streams.hasPending
  let burst := priorityReady && (!normalReady || queue.priorityBurst < maxPriorityBurst)
  match (if burst then queue.popPriority (if normalReady then queue.priorityBurst + 1 else 0)
    else (none, queue)) with
  | (some packager, rest) => (some packager, rest)
  | (none, _) =>
    match (if normalReady then queue.popNormal else (none, queue)) with
    | (some packager, rest) => (some packager, rest)
    | (none, _) =>
      -- a priority class whose pop has already failed is not tried again
      if priorityReady && !burst then queue.popPriority 0 else (none, queue)

def tryPop (queue : PriorityQueue) : Option MuxPackager × PriorityQueue :=
  match queue.popControl with
  | (some packager, rest) => (some packager, rest.afterPop)
  | (none, _) =>
    match queue.popStream with
    | (some packager, rest) => (some packager, rest.afterPop)
    | (none, rest) => (none, rest)

def stopQueue (queue : PriorityQueue) : PriorityQueue := { queue with stop := true }

end PriorityQueue

inductive QueueLane where
  | control
  | stream (priority : Bool) (id : Int32)
  deriving DecidableEq

def MuxPackager.lane (packager : MuxPackager) : QueueLane :=
  if isMuxStreamOrderedFlag packager.flag then .stream packager.priority packager.id
  else .control

open StreamBucketSet Function

namespace PriorityQueue

def waiting (queue : PriorityQueue) : QueueLane → List MuxPackager
  | .control => queue.control
  | .stream true id => queue.priorityStreams.queued id
  | .stream false id => queue.streams.queued id

/-- Both rotations are intact and every frame waits in its own lane. -/
structure Represents (queue : PriorityQueue) (priorityKeys keys : List Int32) : Prop where
  priorityStreams : queue.priorityStreams.Represents priorityKeys
  streams : queue.streams.Represents keys
  lane_eq : ∀ lane, ∀ packager ∈ queue.waiting lane, packager.lane = lane

@[simp]
theorem waiting_new (lane : QueueLane) : new.waiting lane = [] := by
  rcases lane with _ | ⟨_ | _, id⟩ <;> simp [new, waiting, queued, init]

theorem new_represents : new.Represents [] [] where
  priorityStreams := init_represents
  streams := init_represents
  lane_eq := by simp

variable {queue : PriorityQueue} {priorityKeys keys : List Int32} {packager : MuxPackager}
  {id : Int32}

theorem waiting_pushFrame (represents : queue.Represents priorityKeys keys)
    (packager : MuxPackager) :
    (queue.pushFrame packager).waiting =
      update queue.waiting packager.lane (queue.waiting packager.lane ++ [packager]) := by
  funext lane
  by_cases ordered : isMuxStreamOrderedFlag packager.flag = true
  · by_cases priority : packager.priority = true
    · have grown := queued_push _ _ packager represents.priorityStreams
      rcases lane with _ | ⟨_ | _, id⟩ <;>
        simp [pushFrame, waiting, MuxPackager.lane, ordered, priority, grown, update_apply]
    · have grown := queued_push _ _ packager represents.streams
      rcases lane with _ | ⟨_ | _, id⟩ <;>
        simp [pushFrame, waiting, MuxPackager.lane, ordered, priority, grown, update_apply]
  · rcases lane with _ | ⟨_ | _, id⟩ <;>
      simp [pushFrame, pushControl, waiting, MuxPackager.lane, ordered]

theorem Represents.pushFrame (represents : queue.Represents priorityKeys keys)
    (packager : MuxPackager) :
    ∃ priorityKeys keys, (queue.pushFrame packager).Represents priorityKeys keys := by
  have lanes : ∀ lane, ∀ frame ∈ (queue.pushFrame packager).waiting lane, frame.lane = lane := by
    intro lane frame member
    rw [waiting_pushFrame represents] at member
    by_cases same : lane = packager.lane
    · subst same
      simp only [update_self, List.mem_append, List.mem_singleton] at member
      rcases member with old | rfl
      · exact represents.lane_eq _ frame old
      · rfl
    · rw [update_of_ne same] at member
      exact represents.lane_eq lane frame member
  by_cases ordered : isMuxStreamOrderedFlag packager.flag = true
  · by_cases priority : packager.priority = true
    · refine ⟨if packager.id ∈ priorityKeys then priorityKeys else priorityKeys ++ [packager.id],
        keys, ⟨?_, ?_, lanes⟩⟩
      · simpa [PriorityQueue.pushFrame, ordered, priority] using
          represents.priorityStreams.push packager
      · simpa [PriorityQueue.pushFrame, ordered, priority] using represents.streams
    · refine ⟨priorityKeys, if packager.id ∈ keys then keys else keys ++ [packager.id],
        ⟨?_, ?_, lanes⟩⟩
      · simpa [PriorityQueue.pushFrame, ordered, priority] using represents.priorityStreams
      · simpa [PriorityQueue.pushFrame, ordered, priority] using represents.streams.push packager
  · refine ⟨priorityKeys, keys, ⟨?_, ?_, lanes⟩⟩
    · simpa [PriorityQueue.pushFrame, pushControl, ordered] using represents.priorityStreams
    · simpa [PriorityQueue.pushFrame, pushControl, ordered] using represents.streams

@[simp]
theorem pushFrame_length (queue : PriorityQueue) (packager : MuxPackager) :
    (queue.pushFrame packager).length = queue.length := by
  simp only [pushFrame, pushControl]
  split
  · split <;> rfl
  · rfl

@[simp]
theorem pushFrame_stop (queue : PriorityQueue) (packager : MuxPackager) :
    (queue.pushFrame packager).stop = queue.stop := by
  simp only [pushFrame, pushControl]
  split
  · split <;> rfl
  · rfl

/-- What an accepted `Push` does: the frame joins the back of its lane. -/
structure Pushes (before : PriorityQueue) (packager : MuxPackager) (after : PriorityQueue) :
    Prop where
  back : after.waiting =
    update before.waiting packager.lane (before.waiting packager.lane ++ [packager])
  represents : ∃ priorityKeys keys, after.Represents priorityKeys keys
  length : after.length = before.length + 1
  stop : after.stop = before.stop

theorem push_spec (represents : queue.Represents priorityKeys keys) (packager : MuxPackager) :
    (queue.stop = true ∧ queue.push packager = (false, queue)) ∨
      ∃ after, queue.stop = false ∧ queue.push packager = (true, after) ∧
        queue.Pushes packager after := by
  cases stopped : queue.stop with
  | true => exact Or.inl ⟨rfl, by simp [push, stopped]⟩
  | false =>
    let counted : PriorityQueue := { queue with length := queue.length + 1 }
    have sameLanes : counted.waiting = queue.waiting := by
      funext lane
      rcases lane with _ | ⟨_ | _, id⟩ <;> rfl
    have countedOk : counted.Represents priorityKeys keys :=
      ⟨represents.priorityStreams, represents.streams, sameLanes ▸ represents.lane_eq⟩
    refine Or.inr ⟨counted.pushFrame packager, rfl, by simp [push, stopped, counted], ?_⟩
    exact
      { back := by rw [waiting_pushFrame countedOk, sameLanes]
        represents := countedOk.pushFrame packager
        length := by simp [counted]
        stop := by simp [counted] }

/-- The frame was at the front of its lane, which loses it, and nothing else changes. -/
structure PopsStream (before : PriorityQueue) (packager : MuxPackager) (after : PriorityQueue) :
    Prop where
  front : ∃ rest, before.waiting packager.lane = packager :: rest ∧
    after.waiting = update before.waiting packager.lane rest
  represents : ∃ priorityKeys keys, after.Represents priorityKeys keys
  control : after.control = before.control
  length : after.length = before.length
  stop : after.stop = before.stop
  ordered : isMuxStreamOrderedFlag packager.flag = true

private theorem lane_eq_update {before after : QueueLane → List MuxPackager} {lane : QueueLane}
    {rest : List MuxPackager} (laneEq : ∀ which, ∀ frame ∈ before which, frame.lane = which)
    (front : before lane = packager :: rest) (updated : after = update before lane rest) :
    ∀ which, ∀ frame ∈ after which, frame.lane = which := by
  intro which frame member
  rw [updated] at member
  by_cases same : which = lane
  · subst same
    rw [update_self] at member
    exact laneEq which frame (by rw [front]; exact List.mem_cons_of_mem _ member)
  · rw [update_of_ne same] at member
    exact laneEq which frame member

theorem PopsStream.of_front {after : PriorityQueue} {frames : List MuxPackager} (priority : Bool)
    (represents : queue.Represents priorityKeys keys)
    (front : queue.waiting (.stream priority id) = packager :: frames)
    (updated : after.waiting = update queue.waiting (.stream priority id) frames)
    (intact : ∃ priorityKeys keys, after.priorityStreams.Represents priorityKeys ∧
      after.streams.Represents keys)
    (same : after.control = queue.control ∧ after.length = queue.length ∧
      after.stop = queue.stop) : queue.PopsStream packager after := by
  have laneEq : packager.lane = .stream priority id :=
    represents.lane_eq _ packager (by rw [front]; exact List.mem_cons_self)
  obtain ⟨_, _, priorityStreams, streams⟩ := intact
  refine ⟨⟨frames, by rw [laneEq, front], by rw [laneEq, updated]⟩,
    ⟨_, _, priorityStreams, streams, lane_eq_update represents.lane_eq front updated⟩,
    same.1, same.2.1, same.2.2, ?_⟩
  by_contra unordered
  simp [MuxPackager.lane, unordered] at laneEq

theorem popPriority_spec {others : List Int32} (represents : queue.Represents (id :: others) keys)
    (burst : UInt8) :
    ∃ packager rest, queue.popPriority burst = (some packager, rest) ∧
      queue.PopsStream packager rest := by
  obtain ⟨packager, frames, front, popped, remaining, intact⟩ := represents.priorityStreams.pop
  have popEq : queue.priorityStreams.pop = (some packager, queue.priorityStreams.pop.2) :=
    Prod.ext popped rfl
  refine ⟨packager,
    { queue with priorityStreams := queue.priorityStreams.pop.2, priorityBurst := burst },
    by rw [popPriority, popEq], .of_front true represents front ?_
    ⟨_, keys, intact, represents.streams⟩ ⟨rfl, rfl, rfl⟩⟩
  funext lane
  rcases lane with _ | ⟨_ | _, other⟩ <;> simp [waiting, remaining, update_apply]

theorem popNormal_spec {others : List Int32}
    (represents : queue.Represents priorityKeys (id :: others)) :
    ∃ packager rest, queue.popNormal = (some packager, rest) ∧ queue.PopsStream packager rest := by
  obtain ⟨packager, frames, front, popped, remaining, intact⟩ := represents.streams.pop
  have popEq : queue.streams.pop = (some packager, queue.streams.pop.2) := Prod.ext popped rfl
  refine ⟨packager, { queue with streams := queue.streams.pop.2, priorityBurst := 0 },
    by rw [popNormal, popEq], .of_front false represents front ?_
    ⟨priorityKeys, _, represents.priorityStreams, intact⟩ ⟨rfl, rfl, rfl⟩⟩
  funext lane
  rcases lane with _ | ⟨_ | _, other⟩ <;> simp [waiting, remaining, update_apply]

theorem popStream_spec (represents : queue.Represents priorityKeys keys) :
    (priorityKeys = [] ∧ keys = [] ∧ queue.popStream = (none, queue)) ∨
      ∃ packager rest, queue.popStream = (some packager, rest) ∧
        queue.PopsStream packager rest := by
  have priorityReady := represents.priorityStreams.hasPending_iff
  have normalReady := represents.streams.hasPending_iff
  cases priorityKeys with
  | nil =>
    have notReady : queue.priorityStreams.hasPending = false := by simpa using priorityReady
    cases keys with
    | nil =>
      have notNormal : queue.streams.hasPending = false := by simpa using normalReady
      exact Or.inl ⟨rfl, rfl, by simp [popStream, notReady, notNormal]⟩
    | cons =>
      have ready : queue.streams.hasPending = true := normalReady.mpr (by simp)
      obtain ⟨packager, rest, popEq, pops⟩ := popNormal_spec represents
      exact Or.inr ⟨packager, rest, by simp [popStream, notReady, ready, popEq], pops⟩
  | cons =>
    have ready : queue.priorityStreams.hasPending = true := priorityReady.mpr (by simp)
    cases keys with
    | nil =>
      have notNormal : queue.streams.hasPending = false := by simpa using normalReady
      obtain ⟨packager, rest, popEq, pops⟩ := popPriority_spec represents 0
      exact Or.inr ⟨packager, rest, by simp [popStream, ready, notNormal, popEq], pops⟩
    | cons =>
      have normalTrue : queue.streams.hasPending = true := normalReady.mpr (by simp)
      -- with both classes waiting, the burst counter decides which is served
      by_cases burst : queue.priorityBurst < maxPriorityBurst
      · obtain ⟨packager, rest, popEq, pops⟩ :=
          popPriority_spec represents (queue.priorityBurst + 1)
        exact Or.inr ⟨packager, rest, by simp [popStream, ready, normalTrue, burst, popEq], pops⟩
      · obtain ⟨packager, rest, popEq, pops⟩ := popNormal_spec represents
        exact Or.inr ⟨packager, rest, by simp [popStream, ready, normalTrue, burst, popEq], pops⟩

structure Pops (before : PriorityQueue) (packager : MuxPackager) (after : PriorityQueue) :
    Prop where
  front : ∃ rest, before.waiting packager.lane = packager :: rest ∧
    after.waiting = update before.waiting packager.lane rest
  represents : ∃ priorityKeys keys, after.Represents priorityKeys keys
  length : after.length = before.length - 1
  stop : after.stop = before.stop
  controlFirst : isMuxStreamOrderedFlag packager.flag = true → before.control = []

theorem tryPop_spec (represents : queue.Represents priorityKeys keys) :
    ((∀ lane, queue.waiting lane = []) ∧ queue.tryPop = (none, queue)) ∨
      ∃ packager rest, queue.tryPop = (some packager, rest) ∧ queue.Pops packager rest := by
  cases controlEq : queue.control with
  | cons packager rest =>
    right
    have laneEq : packager.lane = .control :=
      represents.lane_eq .control packager (by simp [waiting, controlEq])
    have updated : PriorityQueue.waiting { queue with control := rest }.afterPop =
        update queue.waiting packager.lane rest := by
      funext lane
      rcases lane with _ | ⟨_ | _, id⟩ <;> simp [waiting, laneEq, afterPop]
    have front : queue.waiting packager.lane = packager :: rest := by
      simp [laneEq, waiting, controlEq]
    refine ⟨packager, { queue with control := rest }.afterPop,
      by simp [tryPop, popControl, controlEq], ?_⟩
    exact
      { front := ⟨rest, front, updated⟩
        represents := ⟨priorityKeys, keys, represents.priorityStreams, represents.streams,
          lane_eq_update represents.lane_eq front updated⟩
        length := rfl
        stop := rfl
        controlFirst := by
          intro ordered
          simp [MuxPackager.lane, ordered] at laneEq }
  | nil =>
    rcases popStream_spec represents with ⟨rfl, rfl, popEq⟩ | ⟨packager, rest, popEq, pops⟩
    · left
      refine ⟨?_, by simp [tryPop, popControl, controlEq, popEq]⟩
      rintro (_ | ⟨_ | _, id⟩)
      · exact controlEq
      · exact represents.streams.queued_eq_nil (by simp)
      · exact represents.priorityStreams.queued_eq_nil (by simp)
    · right
      obtain ⟨frames, front, updated⟩ := pops.front
      obtain ⟨priorityKeys, keys, intact⟩ := pops.represents
      have unchanged : rest.afterPop.waiting = rest.waiting := by
        funext lane
        rcases lane with _ | ⟨_ | _, id⟩ <;> rfl
      refine ⟨packager, rest.afterPop, by simp [tryPop, popControl, controlEq, popEq], ?_⟩
      exact
        { front := ⟨frames, front, unchanged.trans updated⟩
          represents := ⟨priorityKeys, keys, intact.priorityStreams, intact.streams,
            unchanged ▸ intact.lane_eq⟩
          length := by simp [afterPop, pops.length]
          stop := pops.stop
          controlFirst := fun _ => controlEq }

end PriorityQueue

end DeepNps.Mux
