import DeepNps.MuxSession

/-!
# Allocation of stream ids by two endpoints

The two ends draw from the same even numbers.  They stay apart only while, whenever a
stream is opened, every id of the peer is registered at the opener or further ahead of its
counter than its map has entries.
-/

namespace DeepNps.Mux

open List

namespace Conn

theorem Moves.unsent {cfg : MuxConfig} {endpoint : Endpoint} {conn after : Conn}
    {event : ConnEvent} (moves : conn.Moves cfg endpoint event after) :
    after.connId = conn.connId ∧ (after.unsent = true → conn.unsent = true) := by
  cases moves with
  | opened => exact ⟨rfl, by simp [Conn.unsent]⟩
  | abandon =>
    rw [beginClose_eq]
    exact ⟨rfl, by simp [Conn.unsent]⟩
  | leaveClosing | closeInstead | close =>
    rw [beginClose_eq]
    exact ⟨rfl, id⟩
  | _ => exact ⟨rfl, id⟩

theorem Notifies.unsent {conn after : Conn} {event : ConnEvent} {flag : UInt8}
    (notifies : conn.Notifies event after flag) :
    after.connId = conn.connId ∧ after.unsent = conn.unsent ∧
      isMuxOrderedCloseFlag flag = true := by
  cases notifies with
  | close | closeWrite => exact ⟨rfl, rfl, rfl⟩

end Conn

namespace Endpoint

/-- The endpoint has handed out ids of the round, and requests only what it has handed out. -/
structure IdsOk (endpoint : Endpoint) : Prop where
  isInitiator : endpoint.isInitiator = false
  counting : Counting endpoint.id
  places : ∀ id ∈ endpoint.allocated, ∃ place, id = idAt place
  unsent : ∀ conn ∈ endpoint.conns, conn.unsent = true → conn.connId ∈ endpoint.allocated
  queued : ∀ id, endpoint.Queued muxNewConn id → id ∈ endpoint.allocated

section Steps

variable {cfg : MuxConfig} {endpoint after : Endpoint}

section

variable (idsOk : endpoint.IdsOk)

include idsOk

theorem IdsOk.of_same (isInitiator : after.isInitiator = endpoint.isInitiator)
    (id : after.id = endpoint.id) (allocated : after.allocated = endpoint.allocated)
    (unsent : ∀ conn ∈ after.conns, conn.unsent = true → conn.connId ∈ endpoint.allocated)
    (queued : ∀ id, after.Queued muxNewConn id → id ∈ endpoint.allocated) : after.IdsOk where
  isInitiator := isInitiator.trans idsOk.isInitiator
  counting := by
    rw [id]
    exact idsOk.counting
  places := by
    rw [allocated]
    exact idsOk.places
  unsent := by
    rw [allocated]
    exact unsent
  queued := by
    rw [allocated]
    exact queued

theorem IdsOk.of_set {i : Nat} {conn changed : Conn} (found : endpoint.conns[i]? = some conn)
    (conns : after.conns = endpoint.conns.set i changed)
    (isInitiator : after.isInitiator = endpoint.isInitiator) (id : after.id = endpoint.id)
    (allocated : after.allocated = endpoint.allocated) (connId : changed.connId = conn.connId)
    (unsent : changed.unsent = true → conn.unsent = true)
    (queued : ∀ id, after.Queued muxNewConn id → id ∈ endpoint.allocated) : after.IdsOk := by
  refine idsOk.of_same isInitiator id allocated (fun other isMember isUnsent => ?_) queued
  rw [conns] at isMember
  rcases mem_or_eq_of_mem_set isMember with isMember | rfl
  · exact idsOk.unsent other isMember isUnsent
  · rw [connId]
    exact idsOk.unsent conn (mem_of_getElem? found) (unsent isUnsent)

theorem IdsOk.setConn {i : Nat} {conn changed : Conn} (found : endpoint.conns[i]? = some conn)
    (connId : changed.connId = conn.connId) (unsent : changed.unsent = true → conn.unsent = true) :
    (endpoint.setConn i changed).IdsOk :=
  idsOk.of_set found rfl rfl rfl rfl connId unsent idsOk.queued

theorem IdsOk.sendInfo (queueOk : endpoint.QueueOk) (flag : UInt8) (id : Int32) (priority : Bool)
    (data : FrameData) (allocated : flag = muxNewConn → id ∈ endpoint.allocated) :
    (endpoint.sendInfo flag id priority data).2.IdsOk ∧
      ∀ i conn changed, endpoint.conns[i]? = some conn → changed.connId = conn.connId →
        (changed.unsent = true → conn.unsent = true) →
        ((endpoint.sendInfo flag id priority data).2.setConn i changed).IdsOk := by
  have queued : ∀ other, (endpoint.sendInfo flag id priority data).2.Queued muxNewConn other →
      other ∈ endpoint.allocated := by
    intro other isQueued
    rcases queueOk.queued_sendInfo isQueued with isQueued | ⟨isFlag, rfl⟩
    · exact idsOk.queued other isQueued
    · exact allocated isFlag.symm
  obtain ⟨closed, queue, isSent⟩ := endpoint.sendInfo_eq flag id priority data
  rw [isSent] at queued ⊢
  have sentOk : ({ endpoint with closed := closed, writeQueue := queue } : Endpoint).IdsOk :=
    idsOk.of_same rfl rfl rfl idsOk.unsent queued
  exact ⟨sentOk, fun _ _ _ found connId unsent => sentOk.setConn found connId unsent⟩

theorem IdsOk.sendUpdate (queueOk : endpoint.QueueOk) (conn : Conn) (output : ReceiverOutput) :
    ∀ i conn' changed, endpoint.conns[i]? = some conn' → changed.connId = conn'.connId →
      (changed.unsent = true → conn'.unsent = true) →
      ((endpoint.sendUpdate conn output).setConn i changed).IdsOk := by
  rw [Endpoint.sendUpdate]
  cases output.update with
  | none => exact fun _ _ _ found connId unsent => idsOk.setConn found connId unsent
  | some => exact (idsOk.sendInfo queueOk _ _ _ _ fun isFlag => absurd isFlag (by decide)).2

theorem IdsOk.setReader (reader : SessionReader) :
    ({ endpoint with reader := reader } : Endpoint).IdsOk :=
  idsOk.of_same rfl rfl rfl idsOk.unsent idsOk.queued

theorem IdsOk.steps (queueOk : endpoint.QueueOk) {event : EndpointEvent}
    (steps : Steps cfg endpoint event after) : after.IdsOk := by
  cases steps with
  | openConn _ _ isId =>
    rw [idsOk.isInitiator] at isId
    obtain ⟨place, isPlace⟩ := getId_idAt idsOk.counting isId
    refine ⟨idsOk.isInitiator, ?_, ?_, ?_, ?_⟩
    · rw [isPlace]
      exact ⟨place + 1, nextId_idAt place⟩
    · intro other isMember
      rcases mem_append.mp isMember with isMember | isMember
      · exact idsOk.places other isMember
      · exact ⟨place, (mem_singleton.mp isMember).trans isPlace⟩
    · intro conn isMember isUnsent
      rcases mem_append.mp isMember with isMember | isMember
      · exact mem_append_left _ (idsOk.unsent conn isMember isUnsent)
      · rw [mem_singleton.mp isMember]
        exact mem_append_right _ mem_cons_self
    · intro other isQueued
      exact mem_append_left _ (idsOk.queued other isQueued)
  | move _ _ _ _ found moves => exact idsOk.setConn found moves.unsent.1 moves.unsent.2
  | register _ _ found isStage =>
    exact idsOk.of_set found rfl rfl rfl rfl rfl (by simp [Conn.unsent, isStage]) idsOk.queued
  | request _ conn found isStage =>
    have isAllocated := idsOk.unsent conn (mem_of_getElem? found) (by simp [Conn.unsent, isStage])
    exact (idsOk.sendInfo queueOk _ _ _ _ fun _ => isAllocated).2 _ _ _ found rfl
      (by simp [Conn.unsent])
  | requestLost _ conn found isStage =>
    have isAllocated := idsOk.unsent conn (mem_of_getElem? found) (by simp [Conn.unsent, isStage])
    rw [Conn.beginClose_eq]
    exact (idsOk.sendInfo queueOk _ _ _ _ fun _ => isAllocated).2 _ _ _ found rfl
      (by simp [Conn.unsent])
  | queueSegment _ _ found _ _ _ part =>
    exact (idsOk.sendInfo queueOk _ _ _ _ fun isFlag =>
      absurd isFlag (by cases part <;> decide)).2 _ _ _ found rfl fun isUnsent => isUnsent
  | reading _ conn found _ _ _ result =>
    exact idsOk.sendUpdate queueOk conn result.2 _ _ _ found rfl fun isUnsent => isUnsent
  | notify i _ _ after flag found notifies =>
    obtain ⟨sameId, sameUnsent, isNotice⟩ := notifies.unsent
    have queued : ∀ id, (endpoint.sendNotice i after flag).Queued muxNewConn id →
        id ∈ endpoint.allocated := by
      intro id isQueued
      rcases queueOk.queued_sendNotice isQueued with isQueued | ⟨isFlag, -⟩
      · exact idsOk.queued id isQueued
      · rw [← isFlag] at isNotice
        exact absurd isNotice (by decide)
    obtain ⟨_, _, _, isSent⟩ := endpoint.sendNotice_eq i after flag
    rw [isSent] at queued ⊢
    exact idsOk.of_set found rfl rfl rfl rfl sameId
      (fun isUnsent => sameUnsent.symm.trans isUnsent) queued
  | remove _ _ found =>
    exact idsOk.of_set found rfl rfl rfl rfl rfl (fun isUnsent => isUnsent) idsOk.queued
  | accept _ _ _ _ _ found =>
    exact idsOk.of_set found rfl rfl rfl rfl rfl (by simp [Conn.unsent]) idsOk.queued
  | incoming i _ conn found _ _ result =>
    have moved : ((endpoint.sendUpdate conn result.2).setConn i (conn.afterReceive result)).IdsOk :=
      idsOk.sendUpdate queueOk conn result.2 _ _ _ found rfl fun isUnsent => isUnsent
    exact moved.setReader _
  | registerOffered => exact idsOk.of_same rfl rfl rfl idsOk.unsent idsOk.queued
  | answer offered id =>
    refine (idsOk.sendInfo queueOk _ id false .nil fun isFlag => absurd isFlag ?_).1.setReader _
    cases offered <;> decide
  | reply content =>
    exact (idsOk.sendInfo queueOk muxPingReturn muxPing false (.bytes content)
      fun isFlag => absurd isFlag (by decide)).1.setReader _
  | ping content =>
    exact (idsOk.sendInfo queueOk muxPingFlag muxPing false (.bytes content)
      fun isFlag => absurd isFlag (by decide)).1
  | closeMux =>
    exact idsOk.of_same rfl rfl rfl idsOk.unsent fun id isQueued =>
      idsOk.queued id (queued_closeMux isQueued)
  | release _ _ _ popped =>
    refine idsOk.of_same rfl rfl rfl idsOk.unsent ?_
    intro id isQueued
    exact idsOk.queued id (queueOk.queued_tryPop popped isQueued)

theorem IdsOk.handles {packager : MuxPackager} (handles : Handles cfg endpoint packager after) :
    after.IdsOk := by
  cases handles with
  | offer =>
    refine ⟨idsOk.isInitiator, idsOk.counting, idsOk.places, ?_, idsOk.queued⟩
    intro conn isMember isUnsent
    rcases mem_append.mp isMember with isMember | isMember
    · exact idsOk.unsent conn isMember isUnsent
    · rw [mem_singleton.mp isMember] at isUnsent
      exact absurd isUnsent (by simp [Conn.unsent, Conn.new])
  | data _ _ _ _ found
  | statusOk _ _ _ _ found
  | statusFail _ _ _ _ found
  | notice _ _ _ _ _ found =>
    exact idsOk.of_set found rfl rfl rfl rfl rfl (fun isUnsent => isUnsent) idsOk.queued
  | dataRefused _ _ _ _ found =>
    rw [Conn.beginClose_eq]
    exact idsOk.of_set found rfl rfl rfl rfl rfl (fun isUnsent => isUnsent) idsOk.queued
  | update i conn _ _ found _ result =>
    have changed : (endpoint.setConn i { conn with sender := result.1 }).IdsOk :=
      idsOk.of_set found rfl rfl rfl rfl rfl (fun isUnsent => isUnsent) idsOk.queued
    split_ifs
    · exact changed.of_same rfl rfl rfl changed.unsent fun id isQueued =>
        idsOk.queued id (queued_closeMux isQueued)
    · exact changed
  | _ => exact idsOk.of_same rfl rfl rfl idsOk.unsent idsOk.queued

end

@[simp]
theorem allocated_sendInfo (endpoint : Endpoint) (flag : UInt8) (id : Int32) (priority : Bool)
    (data : FrameData) :
    (endpoint.sendInfo flag id priority data).2.allocated = endpoint.allocated := by
  obtain ⟨_, _, isSent⟩ := endpoint.sendInfo_eq flag id priority data
  rw [isSent]

theorem Steps.allocated_eq {event : EndpointEvent} (steps : Steps cfg endpoint event after) :
    after.allocated = endpoint.allocated ∨
      event = .openConn ∧ ∃ id, getId endpoint.isInitiator endpoint.connMap endpoint.id = some id ∧
        after.allocated = endpoint.allocated ++ [id] := by
  cases steps with
  | openConn id _ isId => exact .inr ⟨rfl, id, isId, rfl⟩
  | request | requestLost | queueSegment | answer | reply | ping =>
    exact .inl (by simp [setConn, sendSegment, sendAnswer])
  | reading _ conn _ _ _ _ result
  | incoming _ _ conn _ _ _ result =>
    obtain ⟨_, _, isSent⟩ := endpoint.sendUpdate_eq conn result.2
    exact .inl (by rw [isSent]; rfl)
  | notify i _ _ after flag =>
    obtain ⟨_, _, _, isSent⟩ := endpoint.sendNotice_eq i after flag
    exact .inl (by rw [isSent])
  | _ => exact .inl rfl

theorem Handles.allocated_eq {packager : MuxPackager}
    (handles : Handles cfg endpoint packager after) : after.allocated = endpoint.allocated := by
  cases handles with
  | update =>
    split_ifs
    · rfl
    · rfl
  | _ => rfl

theorem new_idsOk (isInitiator : Bool) : (new isInitiator).IdsOk where
  isInitiator := by cases isInitiator <;> rfl
  counting := by
    have sameId : (new isInitiator).id = startId isInitiator := by cases isInitiator <;> rfl
    rw [sameId]
    exact ⟨0, by cases isInitiator <;> decide⟩
  places := by
    have none : (new isInitiator).allocated = [] := by cases isInitiator <;> rfl
    simp [none]
  unsent := by
    have none : (new isInitiator).conns = [] := by cases isInitiator <;> rfl
    simp [none]
  queued := by
    intro id isQueued
    rcases (queueOk_of_new rfl rfl).queued_sendInfo isQueued with ⟨_, _, isMember, -⟩ | ⟨isFlag, -⟩
    · simp at isMember
    · exact absurd isFlag (by decide)

end Steps

end Endpoint

end DeepNps.Mux
