import DeepNps.MuxEndpointSteps

/-!
# The write queue of an endpoint

Everything that an endpoint queues was built by `Set`, and the queue takes frames exactly
as long as the mux is open.
-/

namespace DeepNps.Mux.Endpoint

open Function

structure QueueOk (endpoint : Endpoint) : Prop where
  represents : ∃ priorityKeys keys, endpoint.writeQueue.Represents priorityKeys keys
  encodable : ∀ lane, ∀ packager ∈ endpoint.writeQueue.waiting lane, packager.Encodable
  stop : endpoint.writeQueue.stop = endpoint.closed

def Queued (endpoint : Endpoint) (flag : UInt8) (id : Int32) : Prop :=
  ∃ lane, ∃ packager ∈ endpoint.writeQueue.waiting lane, packager.flag = flag ∧ packager.id = id

inductive Sends (endpoint : Endpoint) (flag : UInt8) (id : Int32) (priority : Bool)
    (data : FrameData) : Bool × Endpoint → Prop
  | lost (isClosed : endpoint.closed = true) :
      Sends endpoint flag id priority data (false, endpoint)
  | invalid (isOpen : endpoint.closed = false) (error : String)
      (isSet : MuxPackager.set priority flag id data = .error error) :
      Sends endpoint flag id priority data (false, endpoint.closeMux)
  | queued (isOpen : endpoint.closed = false) (packager : MuxPackager)
      (isSet : MuxPackager.set priority flag id data = .ok packager) (queue : PriorityQueue)
      (pushes : endpoint.writeQueue.Pushes packager queue) :
      Sends endpoint flag id priority data (true, { endpoint with writeQueue := queue })

section Steps

variable {cfg : MuxConfig} {endpoint after : Endpoint}

theorem sendInfo_eq (endpoint : Endpoint) (flag : UInt8) (id : Int32) (priority : Bool)
    (data : FrameData) :
    ∃ closed queue, (endpoint.sendInfo flag id priority data).2 =
      { endpoint with closed := closed, writeQueue := queue } := by
  rw [sendInfo]
  split_ifs
  · exact ⟨_, _, rfl⟩
  · cases MuxPackager.set priority flag id data with
    | error | ok => exact ⟨_, _, rfl⟩

theorem sendUpdate_eq (endpoint : Endpoint) (conn : Conn) (output : ReceiverOutput) :
    ∃ closed queue, endpoint.sendUpdate conn output =
      { endpoint with closed := closed, writeQueue := queue } := by
  rw [sendUpdate]
  cases output.update with
  | none => exact ⟨_, _, rfl⟩
  | some => exact endpoint.sendInfo_eq _ _ _ _

theorem sendNotice_eq (endpoint : Endpoint) (i : Nat) (conn : Conn) (flag : UInt8) :
    ∃ closed queue closedAfter, endpoint.sendNotice i conn flag =
      { endpoint with
        closed := closed
        writeQueue := queue
        conns := endpoint.conns.set i { conn with closedAfter := closedAfter } } := by
  obtain ⟨_, _, isSent⟩ := endpoint.sendInfo_eq flag conn.connId conn.priority .nil
  rw [sendNotice]
  generalize endpoint.sendInfo flag conn.connId conn.priority .nil = outcome at isSent
  obtain ⟨accepted, _⟩ := outcome
  simp only at isSent
  subst isSent
  cases accepted with
  | true | false => exact ⟨_, _, _, rfl⟩

theorem QueueOk.sendInfo_spec (queueOk : endpoint.QueueOk) (flag : UInt8) (id : Int32)
    (priority : Bool) (data : FrameData) :
    Sends endpoint flag id priority data (endpoint.sendInfo flag id priority data) := by
  rw [sendInfo]
  split_ifs with isClosed
  · exact .lost isClosed
  · have isOpen : endpoint.closed = false := by simpa using isClosed
    cases isSet : MuxPackager.set priority flag id data with
    | error error => exact .invalid isOpen error isSet
    | ok packager =>
      obtain ⟨_, _, represents⟩ := queueOk.represents
      rcases PriorityQueue.push_spec represents packager with ⟨isStopped, -⟩ |
        ⟨queue, -, pushEq, pushes⟩
      · exact absurd (isStopped.symm.trans (queueOk.stop.trans isOpen)) (by simp)
      · simp only [pushEq]
        exact .queued isOpen packager isSet queue pushes

theorem QueueOk.of_same (queueOk : endpoint.QueueOk)
    (sameQueue : after.writeQueue = endpoint.writeQueue)
    (sameClosed : after.closed = endpoint.closed) : after.QueueOk where
  represents := by
    rw [sameQueue]
    exact queueOk.represents
  encodable := by
    rw [sameQueue]
    exact queueOk.encodable
  stop := by
    rw [sameQueue, sameClosed]
    exact queueOk.stop

theorem waiting_stopQueue (queue : PriorityQueue) : queue.stopQueue.waiting = queue.waiting := by
  funext lane
  rcases lane with _ | ⟨_ | _, id⟩ <;> rfl

theorem QueueOk.closeMux (queueOk : endpoint.QueueOk) : endpoint.closeMux.QueueOk where
  represents := by
    obtain ⟨priorityKeys, keys, represents⟩ := queueOk.represents
    refine ⟨priorityKeys, keys, represents.priorityStreams, represents.streams, ?_⟩
    rw [Endpoint.closeMux, waiting_stopQueue]
    exact represents.lane_eq
  encodable := by
    rw [Endpoint.closeMux, waiting_stopQueue]
    exact queueOk.encodable
  stop := rfl

variable {packager other : MuxPackager} {before queue : PriorityQueue} {flag : UInt8} {id : Int32}
  {lane : QueueLane}

theorem mem_of_pushes (pushes : before.Pushes packager queue)
    (isMember : other ∈ queue.waiting lane) :
    other ∈ before.waiting lane ∨ other = packager := by
  rw [pushes.back] at isMember
  by_cases isLane : lane = packager.lane
  · subst isLane
    simpa using isMember
  · rw [update_of_ne isLane] at isMember
    exact .inl isMember

theorem mem_of_pops (pops : before.Pops packager queue) :
    packager ∈ before.waiting packager.lane ∧ ∀ lane, queue.waiting lane ⊆ before.waiting lane := by
  obtain ⟨_, front, updated⟩ := pops.front
  refine ⟨by simp [front], fun lane _ isMember => ?_⟩
  rw [updated] at isMember
  by_cases isLane : lane = packager.lane
  · subst isLane
    rw [update_self] at isMember
    rw [front]
    exact List.mem_cons_of_mem _ isMember
  · rwa [update_of_ne isLane] at isMember

theorem queued_closeMux (queued : endpoint.closeMux.Queued flag id) : endpoint.Queued flag id := by
  obtain ⟨lane, packager, isMember, isFlag, isId⟩ := queued
  rw [Endpoint.closeMux, waiting_stopQueue] at isMember
  exact ⟨lane, packager, isMember, isFlag, isId⟩

section

variable (queueOk : endpoint.QueueOk)

include queueOk

theorem QueueOk.push (pushes : endpoint.writeQueue.Pushes packager queue)
    (encodable : packager.Encodable) :
    ({ endpoint with writeQueue := queue } : Endpoint).QueueOk where
  represents := pushes.represents
  encodable := by
    intro lane other isMember
    rcases mem_of_pushes pushes isMember with isMember | rfl
    · exact queueOk.encodable lane other isMember
    · exact encodable
  stop := pushes.stop.trans queueOk.stop

theorem QueueOk.sendInfo (flag : UInt8) (id : Int32) (priority : Bool) (data : FrameData) :
    (endpoint.sendInfo flag id priority data).2.QueueOk := by
  have sends := queueOk.sendInfo_spec flag id priority data
  generalize endpoint.sendInfo flag id priority data = outcome at sends
  cases sends with
  | lost => exact queueOk
  | invalid => exact queueOk.closeMux
  | queued _ _ isSet _ pushes => exact queueOk.push pushes (MuxPackager.set_encodable isSet).1

theorem QueueOk.tryPop (popped : endpoint.writeQueue.tryPop = (some packager, queue)) :
    endpoint.writeQueue.Pops packager queue ∧ packager.Encodable ∧
      ({ endpoint with writeQueue := queue } : Endpoint).QueueOk := by
  obtain ⟨_, _, represents⟩ := queueOk.represents
  rcases PriorityQueue.tryPop_spec represents with ⟨-, popEq⟩ | ⟨found, rest, popEq, pops⟩
  · rw [popEq] at popped
    simp at popped
  · rw [popEq] at popped
    cases popped
    refine ⟨pops, queueOk.encodable _ packager (mem_of_pops pops).1, ?_⟩
    refine ⟨pops.represents, ?_, pops.stop.trans queueOk.stop⟩
    intro lane other isMember
    exact queueOk.encodable lane other ((mem_of_pops pops).2 lane isMember)

theorem QueueOk.setConn (i : Nat) (conn : Conn) : (endpoint.setConn i conn).QueueOk :=
  queueOk.of_same rfl rfl

theorem QueueOk.sendUpdate (conn : Conn) (output : ReceiverOutput) :
    (endpoint.sendUpdate conn output).QueueOk := by
  rw [Endpoint.sendUpdate]
  cases output.update with
  | none => exact queueOk
  | some => exact queueOk.sendInfo _ _ _ _

theorem QueueOk.sendNotice (i : Nat) (conn : Conn) (flag : UInt8) :
    (endpoint.sendNotice i conn flag).QueueOk := by
  have sent := queueOk.sendInfo flag conn.connId conn.priority .nil
  rw [Endpoint.sendNotice]
  generalize endpoint.sendInfo flag conn.connId conn.priority .nil = outcome at sent
  obtain ⟨accepted, _⟩ := outcome
  cases accepted with
  | true | false => exact sent.setConn i _

theorem QueueOk.steps {event : EndpointEvent} (steps : Steps cfg endpoint event after) :
    after.QueueOk := by
  cases steps with
  | request i | requestLost i => exact (queueOk.sendInfo _ _ _ _).setConn i _
  | queueSegment i => exact (queueOk.sendInfo _ _ _ _).setConn i _
  | reading i conn _ _ _ _ result => exact (queueOk.sendUpdate conn result.2).setConn i _
  | notify i _ _ after flag => exact queueOk.sendNotice i after flag
  | incoming _ _ conn _ _ _ result => exact (queueOk.sendUpdate conn result.2).of_same rfl rfl
  | answer | reply => exact (queueOk.sendInfo _ _ _ _).of_same rfl rfl
  | ping => exact queueOk.sendInfo _ _ _ _
  | closeMux => exact queueOk.closeMux
  | release _ _ _ popped => exact (queueOk.tryPop popped).2.2.of_same rfl rfl
  | _ => exact queueOk.of_same rfl rfl

theorem QueueOk.handles (handles : Handles cfg endpoint packager after) : after.QueueOk := by
  cases handles with
  | update i =>
    split_ifs
    · exact (queueOk.setConn i _).closeMux
    · exact queueOk.setConn i _
  | _ => exact queueOk.of_same rfl rfl

theorem QueueOk.queued_sendInfo {other : UInt8} {otherId : Int32} {priority : Bool}
    {data : FrameData} (queued : (endpoint.sendInfo flag id priority data).2.Queued other otherId) :
    endpoint.Queued other otherId ∨ other = flag ∧ otherId = id := by
  have sends := queueOk.sendInfo_spec flag id priority data
  generalize endpoint.sendInfo flag id priority data = outcome at sends queued
  obtain ⟨lane, packager, isMember, isFlag, isId⟩ := queued
  cases sends with
  | lost => exact .inl ⟨lane, packager, isMember, isFlag, isId⟩
  | invalid => exact .inl (queued_closeMux ⟨lane, packager, isMember, isFlag, isId⟩)
  | queued _ _ isSet _ pushes =>
    obtain ⟨-, sentFlag, sentId, -⟩ := MuxPackager.set_encodable isSet
    rcases mem_of_pushes pushes isMember with isMember | rfl
    · exact .inl ⟨lane, packager, isMember, isFlag, isId⟩
    · exact .inr ⟨isFlag.symm.trans sentFlag, isId.symm.trans sentId⟩

theorem QueueOk.queued_sendNotice {i : Nat} {conn : Conn} {other : UInt8}
    (queued : (endpoint.sendNotice i conn flag).Queued other id) :
    endpoint.Queued other id ∨ other = flag ∧ id = conn.connId := by
  have sent : (endpoint.sendInfo flag conn.connId conn.priority .nil).2.Queued other id := by
    rw [Endpoint.sendNotice] at queued
    generalize endpoint.sendInfo flag conn.connId conn.priority .nil = outcome at queued
    obtain ⟨accepted, _⟩ := outcome
    cases accepted with
    | true | false => exact queued
  exact queueOk.queued_sendInfo sent

theorem QueueOk.queued_tryPop (popped : endpoint.writeQueue.tryPop = (some packager, queue))
    (queued : ({ endpoint with writeQueue := queue } : Endpoint).Queued flag id) :
    endpoint.Queued flag id := by
  obtain ⟨lane, other, isMember, isFlag, isId⟩ := queued
  exact ⟨lane, other, (mem_of_pops (queueOk.tryPop popped).1).2 lane isMember, isFlag, isId⟩

theorem QueueOk.queued_of_tryPop (popped : endpoint.writeQueue.tryPop = (some packager, queue)) :
    endpoint.Queued packager.flag packager.id :=
  ⟨packager.lane, packager, (mem_of_pops (queueOk.tryPop popped).1).1, rfl, rfl⟩

end

theorem queueOk_of_new {endpoint : Endpoint} (isNew : endpoint.writeQueue = PriorityQueue.new)
    (isOpen : endpoint.closed = false) : endpoint.QueueOk where
  represents := by
    rw [isNew]
    exact ⟨[], [], PriorityQueue.new_represents⟩
  encodable := by simp [isNew]
  stop := by
    rw [isNew, isOpen]
    rfl

theorem new_queueOk (isInitiator : Bool) : (new isInitiator).QueueOk :=
  (queueOk_of_new rfl rfl).sendInfo _ _ _ _

end Steps

end DeepNps.Mux.Endpoint
