import DeepNps.MuxPriorityQueue

/-!
# The write queue refines a set of FIFO queues

Over every sequence of `Push`, `TryPop` and `Stop` the queue is a set of FIFO lanes; where
the frames of a stream carry the same priority flag, a lane is a stream.
-/

namespace DeepNps.Mux

open List MuxPackager LaneFifo

inductive QueueOp where
  | push (packager : MuxPackager)
  | tryPop
  | stop

/-- The frames that are pushed before the queue is stopped. -/
def offered : List QueueOp → List MuxPackager
  | [] => []
  | .push packager :: ops => packager :: offered ops
  | .tryPop :: ops => offered ops
  | .stop :: _ => []

/-- A queue with the frames it has accepted and the frames it has handed out. -/
structure QueueTrace where
  queue : PriorityQueue
  pushed : List MuxPackager
  popped : List MuxPackager

open QueueTrace

namespace QueueTrace

def new : QueueTrace where
  queue := PriorityQueue.new
  pushed := []
  popped := []

def step (trace : QueueTrace) : QueueOp → QueueTrace
  | .push packager =>
    match trace.queue.push packager with
    | (true, queue) => { trace with queue := queue, pushed := trace.pushed ++ [packager] }
    | (false, queue) => { trace with queue := queue }
  | .tryPop =>
    match trace.queue.tryPop with
    | (some packager, queue) => { trace with queue := queue, popped := trace.popped ++ [packager] }
    | (none, queue) => { trace with queue := queue }
  | .stop => { trace with queue := trace.queue.stopQueue }

def run (trace : QueueTrace) (ops : List QueueOp) : QueueTrace := ops.foldl step trace

/-- The rotations are intact, every lane is a FIFO queue, and the length is the difference of the
histories. -/
structure Sound (trace : QueueTrace) : Prop where
  represents : ∃ priorityKeys keys, trace.queue.Represents priorityKeys keys
  fifo : Fifo MuxPackager.lane trace.pushed trace.popped trace.queue.waiting
  length : trace.queue.length + UInt64.ofNat trace.popped.length = UInt64.ofNat trace.pushed.length

theorem new_sound : new.Sound where
  represents := ⟨[], [], PriorityQueue.new_represents⟩
  fifo := by
    rintro (_ | ⟨_ | _, id⟩) <;> rfl
  length := rfl

variable {trace : QueueTrace}

theorem Sound.push (sound : trace.Sound) (packager : MuxPackager) :
    (trace.step (.push packager)).Sound := by
  obtain ⟨_, _, represents⟩ := sound.represents
  rcases PriorityQueue.push_spec represents packager with ⟨_, pushEq⟩ | ⟨after, _, pushEq, pushes⟩
  · simpa [step, pushEq] using sound
  · refine ⟨?_, ?_, ?_⟩
    · simpa [step, pushEq] using pushes.represents
    · simp only [step, pushEq]
      exact sound.fifo.enter pushes.back
    · simp only [step, pushEq, pushes.length, length_append, length_singleton,
        UInt64.ofNat_add, UInt64.ofNat_one]
      rw [← sound.length]
      ac_rfl

theorem Sound.tryPop (sound : trace.Sound) : (trace.step .tryPop).Sound := by
  obtain ⟨_, _, represents⟩ := sound.represents
  rcases PriorityQueue.tryPop_spec represents with ⟨_, popEq⟩ | ⟨packager, rest, popEq, pops⟩
  · simpa [step, popEq] using sound
  · obtain ⟨_, front, updated⟩ := pops.front
    refine ⟨?_, ?_, ?_⟩
    · simpa [step, popEq] using pops.represents
    · simp only [step, popEq]
      exact sound.fifo.leave front updated
    · simp only [step, popEq, pops.length, length_append, length_singleton,
        UInt64.ofNat_add, UInt64.ofNat_one]
      rw [← sound.length]
      grind

theorem Sound.stop (sound : trace.Sound) : (trace.step .stop).Sound := by
  obtain ⟨priorityKeys, keys, represents⟩ := sound.represents
  have unchanged : trace.queue.stopQueue.waiting = trace.queue.waiting := by
    funext lane
    rcases lane with _ | ⟨_ | _, id⟩ <;> rfl
  refine ⟨⟨priorityKeys, keys, represents.priorityStreams, represents.streams, ?_⟩, ?_, ?_⟩
  · simpa [step, unchanged] using represents.lane_eq
  · simpa [step, unchanged] using sound.fifo
  · exact sound.length

theorem sound_run (ops : List QueueOp) (sound : trace.Sound) : (trace.run ops).Sound := by
  induction ops generalizing trace with
  | nil => exact sound
  | cons op _ ih =>
    cases op with
    | push packager => exact ih (sound.push packager)
    | tryPop => exact ih sound.tryPop
    | stop => exact ih sound.stop

/-- A queue accepts every frame that is offered until it is stopped, and none after. -/
theorem Sound.pushed_run (sound : trace.Sound) (ops : List QueueOp) :
    (trace.run ops).pushed = trace.pushed ++ if trace.queue.stop then [] else offered ops := by
  induction ops generalizing trace with
  | nil => simp [run, offered]
  | cons op ops ih =>
    have runEq : trace.run (op :: ops) = (trace.step op).run ops := rfl
    obtain ⟨_, _, represents⟩ := sound.represents
    rw [runEq]
    cases op with
    | push packager =>
      rw [ih (sound.push packager)]
      rcases PriorityQueue.push_spec represents packager with
        ⟨stopped, pushEq⟩ | ⟨_, isOpen, pushEq, pushes⟩
      · simp [step, pushEq, stopped]
      · simp [step, pushEq, pushes.stop, isOpen, offered]
    | tryPop =>
      rw [ih sound.tryPop]
      rcases PriorityQueue.tryPop_spec represents with ⟨_, popEq⟩ | ⟨_, _, popEq, pops⟩
      · simp [step, popEq, offered]
      · simp [step, popEq, pops.stop, offered]
    | stop =>
      rw [ih sound.stop]
      simp [step, PriorityQueue.stopQueue, offered]

end QueueTrace

namespace PriorityQueue

/-- All frames in the queue: the control chain and the buckets of both
classes. -/
def frames (queue : PriorityQueue) (priorityKeys keys : List Int32) : List MuxPackager :=
  queue.control ++ priorityKeys.flatMap queue.priorityStreams.queued ++
    keys.flatMap queue.streams.queued

theorem inLane_frames {queue : PriorityQueue} {priorityKeys keys : List Int32}
    (represents : queue.Represents priorityKeys keys) (lane : QueueLane) :
    inLane MuxPackager.lane (queue.frames priorityKeys keys) lane = queue.waiting lane := by
  have priorityHome : ∀ id, ∀ packager ∈ queue.priorityStreams.queued id,
      packager.lane = QueueLane.stream true id := fun id => represents.lane_eq (.stream true id)
  have home : ∀ id, ∀ packager ∈ queue.streams.queued id,
      packager.lane = QueueLane.stream false id := fun id => represents.lane_eq (.stream false id)
  have controlHome : ∀ packager ∈ queue.control, packager.lane = .control :=
    represents.lane_eq .control
  have injective (priority : Bool) : Function.Injective (QueueLane.stream priority) := by
    intro _ _ same
    cases same
    rfl
  simp only [frames, inLane_append]
  rcases lane with _ | ⟨_ | _, id⟩
  · rw [inLane_eq_self controlHome, inLane_eq_nil, inLane_eq_nil]
    · simp [waiting]
    · intro packager member
      obtain ⟨key, -, inKey⟩ := mem_flatMap.mp member
      simp [home key packager inKey]
    · intro packager member
      obtain ⟨key, -, inKey⟩ := mem_flatMap.mp member
      simp [priorityHome key packager inKey]
  · rw [inLane_eq_nil (by simpa using fun packager member => by simp [controlHome packager member]),
      inLane_eq_nil, inLane_flatMap (injective false) represents.streams.lists.nodup home]
    · by_cases member : id ∈ keys
      · simp [member, waiting]
      · simp [member, waiting, represents.streams.queued_eq_nil member]
    · intro packager member
      obtain ⟨key, -, inKey⟩ := mem_flatMap.mp member
      simp [priorityHome key packager inKey]
  · rw [inLane_eq_nil (by simpa using fun packager member => by simp [controlHome packager member]),
      inLane_flatMap (injective true) represents.priorityStreams.lists.nodup priorityHome,
      inLane_eq_nil]
    · by_cases member : id ∈ priorityKeys
      · simp [member, waiting]
      · simp [member, waiting, represents.priorityStreams.queued_eq_nil member]
    · intro packager member
      obtain ⟨key, -, inKey⟩ := mem_flatMap.mp member
      simp [home key packager inKey]

def queuedOf (queue : PriorityQueue) (id : Int32) : List MuxPackager :=
  queue.priorityStreams.queued id ++ queue.streams.queued id

end PriorityQueue

def streamFrames (frames : List MuxPackager) (id : Int32) : List MuxPackager :=
  frames.filter fun packager => isMuxStreamOrderedFlag packager.flag && packager.id == id

def controlFrames (frames : List MuxPackager) : List MuxPackager :=
  frames.filter fun packager => !isMuxStreamOrderedFlag packager.flag

/-- All frames of one stream carry the same priority flag. -/
def SamePriority (frames : List MuxPackager) : Prop :=
  ∀ first ∈ frames, ∀ second ∈ frames, isMuxStreamOrderedFlag first.flag = true →
    isMuxStreamOrderedFlag second.flag = true → first.id = second.id →
      first.priority = second.priority

theorem controlFrames_eq_inLane (frames : List MuxPackager) :
    controlFrames frames = inLane lane frames .control := by
  refine filter_congr fun packager _ => ?_
  cases ordered : isMuxStreamOrderedFlag packager.flag <;> simp [lane, ordered]

theorem streamFrames_eq_inLane {frames : List MuxPackager} {id : Int32} {priority : Bool}
    (uniform : ∀ packager ∈ frames, isMuxStreamOrderedFlag packager.flag = true →
      packager.id = id → packager.priority = priority) :
    streamFrames frames id = inLane lane frames (.stream priority id) := by
  refine filter_congr fun packager member => ?_
  cases ordered : isMuxStreamOrderedFlag packager.flag with
  | false => simp [lane, ordered]
  | true =>
    by_cases same : packager.id = id
    · simp [lane, ordered, same, uniform packager member ordered same]
    · simp [lane, ordered, same]

/-- One flag serves all frames of a stream: the flag of any one of them. -/
theorem SamePriority.uniform {frames : List MuxPackager} (same : SamePriority frames)
    (id : Int32) :
    ∃ priority, ∀ packager ∈ frames, isMuxStreamOrderedFlag packager.flag = true →
      packager.id = id → packager.priority = priority := by
  by_cases present : ∃ packager ∈ frames, isMuxStreamOrderedFlag packager.flag = true ∧
      packager.id = id
  · obtain ⟨first, member, ordered, idEq⟩ := present
    refine ⟨first.priority, fun packager packagerMem packagerOrdered packagerId => ?_⟩
    exact same packager packagerMem first member packagerOrdered ordered
      (packagerId.trans idEq.symm)
  · push Not at present
    exact ⟨false, fun packager member ordered idEq => absurd idEq (present packager member ordered)⟩

namespace QueueTrace

variable {trace : QueueTrace}

section

variable (sound : trace.Sound)

include sound

theorem Sound.popped_subset : ∀ packager ∈ trace.popped, packager ∈ trace.pushed := by
  intro packager member
  have inLanePopped : packager ∈ inLane lane trace.popped packager.lane := by
    simp [inLane, member]
  have inLanePushed : packager ∈ inLane lane trace.pushed packager.lane := by
    rw [sound.fifo]
    exact mem_append_left _ inLanePopped
  exact (mem_filter.mp inLanePushed).1

theorem Sound.waiting_other {id : Int32} {priority : Bool}
    (uniform : ∀ packager ∈ trace.pushed, isMuxStreamOrderedFlag packager.flag = true →
      packager.id = id → packager.priority = priority) :
    trace.queue.waiting (.stream (!priority) id) = [] := by
  have noneEntered : inLane lane trace.pushed (.stream (!priority) id) = [] := by
    apply inLane_eq_nil
    intro packager member laneEq
    cases ordered : isMuxStreamOrderedFlag packager.flag with
    | false => simp [lane, ordered] at laneEq
    | true =>
      simp only [lane, ordered, if_true, QueueLane.stream.injEq] at laneEq
      have flag := uniform packager member ordered laneEq.2
      rw [flag] at laneEq
      exact absurd laneEq.1 (by cases priority <;> simp)
  have split := sound.fifo (.stream (!priority) id)
  rw [noneEntered] at split
  exact (append_eq_nil_iff.mp split.symm).2

/-- With one priority flag per stream, a stream waits in a single lane. -/
theorem Sound.queuedOf_eq {id : Int32} {priority : Bool}
    (uniform : ∀ packager ∈ trace.pushed, isMuxStreamOrderedFlag packager.flag = true →
      packager.id = id → packager.priority = priority) :
    trace.queue.queuedOf id = trace.queue.waiting (.stream priority id) := by
  have other := sound.waiting_other uniform
  cases priority with
  | false =>
    simp only [PriorityQueue.waiting, Bool.not_false] at other ⊢
    simp [PriorityQueue.queuedOf, other]
  | true =>
    simp only [PriorityQueue.waiting, Bool.not_true] at other ⊢
    simp [PriorityQueue.queuedOf, other]

/-- The frames queued and handed out are those accepted, and the length counter counts the
former. -/
theorem Sound.queued :
    ∃ queued, trace.pushed.Perm (trace.popped ++ queued) ∧
      (∀ lane, inLane MuxPackager.lane queued lane = trace.queue.waiting lane) ∧
      trace.queue.len = UInt64.ofNat queued.length := by
  obtain ⟨_, _, represents⟩ := sound.represents
  have holds := PriorityQueue.inLane_frames represents
  have perm := sound.fifo.perm holds
  refine ⟨_, perm, holds, ?_⟩
  have counted := sound.length
  rw [perm.length_eq, length_append, UInt64.ofNat_add] at counted
  rw [PriorityQueue.len]
  grind

end

end QueueTrace

/-- If the frames of each stream share one priority flag, every frame that is offered before
`Stop` enters the queue, streams and control frames leave in push order, nothing is lost or
duplicated, `Len` counts the queued frames, and a stream frame is popped only when no control
frame is queued. -/
theorem writeQueue_refines_fifos (ops : List QueueOp) (same : SamePriority (offered ops)) :
    let trace := new.run ops
    trace.pushed = offered ops ∧
    (∀ id, streamFrames trace.pushed id = streamFrames trace.popped id ++ trace.queue.queuedOf id) ∧
    controlFrames trace.pushed = controlFrames trace.popped ++ trace.queue.control ∧
    (∃ queued, trace.pushed.Perm (trace.popped ++ queued) ∧
      (∀ id, streamFrames queued id = trace.queue.queuedOf id) ∧
      controlFrames queued = trace.queue.control ∧
      trace.queue.len = UInt64.ofNat queued.length) ∧
    (∀ packager rest, trace.queue.tryPop = (some packager, rest) →
      isMuxStreamOrderedFlag packager.flag = true → trace.queue.control = []) ∧
    (trace.queue.tryPop.1 = none → trace.pushed.Perm trace.popped) := by
  intro trace
  have sound : trace.Sound := sound_run ops new_sound
  have areOffered : trace.pushed = offered ops := new_sound.pushed_run ops
  rw [← areOffered] at same
  obtain ⟨queued, perm, holds, count⟩ := sound.queued
  obtain ⟨_, _, represents⟩ := sound.represents
  refine ⟨areOffered, ?_, ?_, ⟨queued, perm, ?_, ?_, count⟩, ?_, ?_⟩
  · intro id
    obtain ⟨_, uniform⟩ := same.uniform id
    rw [streamFrames_eq_inLane uniform, streamFrames_eq_inLane fun packager member =>
        uniform packager (sound.popped_subset packager member),
      sound.fifo, sound.queuedOf_eq uniform]
  · rw [controlFrames_eq_inLane, controlFrames_eq_inLane]
    exact sound.fifo .control
  · intro id
    obtain ⟨_, uniform⟩ := same.uniform id
    have queuedSubset : ∀ packager ∈ queued, packager ∈ trace.pushed := fun packager member =>
      perm.symm.subset (mem_append_right _ member)
    rw [streamFrames_eq_inLane fun packager member =>
        uniform packager (queuedSubset packager member),
      holds, sound.queuedOf_eq uniform]
  · rw [controlFrames_eq_inLane]
    exact holds .control
  · intro _ _ popEq ordered
    rcases PriorityQueue.tryPop_spec represents with ⟨_, noneEq⟩ | ⟨found, after, someEq, pops⟩
    · rw [noneEq] at popEq
      simp at popEq
    · rw [someEq] at popEq
      cases popEq
      exact pops.controlFirst ordered
  · intro popEq
    rcases PriorityQueue.tryPop_spec represents with ⟨isEmpty, _⟩ | ⟨found, after, someEq, _⟩
    · have noneLeft : queued = [] := by
        cases queued with
        | nil => rfl
        | cons packager =>
          have here := holds packager.lane
          rw [isEmpty] at here
          simp [inLane] at here
      simpa [noneLeft] using perm
    · rw [someEq] at popEq
      simp at popEq

/-- A run that mixes control frames with data and close frames of two streams: the priority
stream is popped first, a control frame before the stream that waits. -/
theorem writeQueue_refines_fifos_mixed :
    let first : MuxPackager := { flag := muxNewMsg, id := 2, content := [1] }
    let second : MuxPackager := { flag := muxNewMsg, id := 4, priority := true, content := [2] }
    let last : MuxPackager := { flag := muxConnClose, id := 2 }
    let control : MuxPackager := { flag := muxNewConn, id := 6 }
    let trace := new.run [.push first, .push second, .push last, .tryPop, .push control, .tryPop,
      .tryPop, .stop, .push first]
    trace.pushed = [first, second, last, control] ∧ trace.popped = [second, control, first] ∧
      trace.queue.queuedOf 2 = [last] ∧
      streamFrames trace.pushed 2 = streamFrames trace.popped 2 ++ [last] := by
  intro first second last control trace
  have same : SamePriority (offered [.push first, .push second, .push last, .tryPop,
      .push control, .tryPop, .tryPop, .stop, .push first]) := by
    unfold SamePriority
    decide
  obtain ⟨areOffered, inOrder, -⟩ := writeQueue_refines_fifos _ same
  exact ⟨areOffered, rfl, rfl, inOrder 2⟩

end DeepNps.Mux
