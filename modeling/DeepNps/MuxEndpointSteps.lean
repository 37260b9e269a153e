import DeepNps.MuxEndpoint

/-!
# The transitions of an endpoint

The step functions of an endpoint, inverted: one constructor for each way in which an
event can go, with the facts that the step has checked.
-/

namespace DeepNps.Mux

open Option

/-- The moves of one connection on its own. -/
inductive Conn.Moves (cfg : MuxConfig) (endpoint : Endpoint) (conn : Conn) : ConnEvent → Conn → Prop
  | opened (isStage : conn.stage = .requested) (isOk : conn.connStatusOk = true) :
      Moves cfg endpoint conn .opened { conn with stage := .opened, connStatusOk := false }
  | abandon (error : OpenError) (isStage : conn.stage = .requested)
      (may : endpoint.mayAbandon conn error = true) :
      Moves cfg endpoint conn (.abandon error) ({ conn with stage := .abandoned }.beginClose false)
  | enterWrite (isHeld : conn.held = true) (notClosed : conn.writeClosed = false) :
      Moves cfg endpoint conn .enterWrite { conn with writers := conn.writers + 1 }
  | write (buf : List UInt8) (some : 0 < conn.writers) (result : StreamSender × SenderOutput)
      (isResult : conn.sender.step (.write buf) = .some result) :
      Moves cfg endpoint conn (.write buf)
        { conn with writers := conn.writers - 1, sender := result.1 }
  | writing (event : SenderEvent) (isWriting : event.isWriting = true)
      (result : StreamSender × SenderOutput) (isResult : conn.sender.step event = .some result) :
      Moves cfg endpoint conn (.writing event) { conn with sender := result.1 }
  | enterRead (isHeld : conn.held = true) (notClosed : conn.isClose = false) :
      Moves cfg endpoint conn .enterRead { conn with readers := conn.readers + 1 }
  | read (room : Nat) (some : 0 < conn.readers) (result : StreamReceiver × ReceiverOutput)
      (isResult : conn.receiver.step cfg (.read room) = .some result) :
      Moves cfg endpoint conn (.read room)
        ({ conn with readers := conn.readers - 1 }.afterReceive result)
  | leave (isEof : conn.atEof = true) :
      Moves cfg endpoint conn .checkEnd { conn with atEof := false }
  | leaveClosing (isEof : conn.atEof = true) (writeClosed : conn.writeClosed = true) :
      Moves cfg endpoint conn .checkEnd ({ conn with atEof := false }.beginClose false)
  | setPriority (isHeld : conn.held = true) : Moves cfg endpoint conn .setPriority conn.setPriority
  | enterCloseWrite (isHeld : conn.held = true) (notClosed : conn.isClose = false) :
      Moves cfg endpoint conn .enterCloseWrite { conn with closeWriters := conn.closeWriters + 1 }
  | closeInstead (isHeld : conn.held = true) :
      Moves cfg endpoint conn .enterCloseWrite (conn.beginClose true)
  | closeWriteTwice (some : 0 < conn.closeWriters) (writeClosed : conn.writeClosed = true) :
      Moves cfg endpoint conn .closeWrite { conn with closeWriters := conn.closeWriters - 1 }
  | closeWrite (some : 0 < conn.closeWriters) (notClosed : conn.writeClosed = false) :
      Moves cfg endpoint conn .closeWrite
        { conn with
          closeWriters := conn.closeWriters - 1
          writeClosed := true
          closingWrite := .marked }
  | closeWriteSender (isClosing : conn.closingWrite = .marked) :
      Moves cfg endpoint conn .closeWriteStep
        { conn with
          sender := { conn.sender with window := conn.sender.window.closeWindow }
          closingWrite := .sendClosed }
  | close (may : conn.held = true ∨ endpoint.closed = true) :
      Moves cfg endpoint conn .close (conn.beginClose true)
  | closeMarked (notify : Bool) (isClosing : conn.closing = .begun notify) :
      Moves cfg endpoint conn .closeStep { conn with isClose := true, closing := .marked notify }
  | closeFlagged (notify : Bool) (isClosing : conn.closing = .marked notify) :
      Moves cfg endpoint conn .closeStep
        { conn with closingFlag := true, closing := .flagged notify }
  | closeShut (notify : Bool) (isClosing : conn.closing = .flagged notify) :
      Moves cfg endpoint conn .closeStep { conn with writeClosed := true, closing := .shut notify }
  | closeSilently (isClosing : conn.closing = .removed false) :
      Moves cfg endpoint conn .closeStep { conn with closing := .notified }
  | closeSender (isClosing : conn.closing = .notified) :
      Moves cfg endpoint conn .closeStep
        { conn with
          sender := { conn.sender with window := conn.sender.window.closeWindow }
          closing := .sendClosed }
  | closeReceiver (isClosing : conn.closing = .sendClosed) :
      Moves cfg endpoint conn .closeStep
        { conn with
          receiver := { conn.receiver with window := conn.receiver.window.closeWindow }
          closing := .done }

/-- The notices of a connection: its state once the notice is sent, and the flag
of the frame. -/
inductive Conn.Notifies (conn : Conn) : ConnEvent → Conn → UInt8 → Prop
  | close (isClosing : conn.closing = .removed true) :
      Notifies conn .closeStep { conn with closing := .notified } muxConnClose
  | closeWrite (isClosing : conn.closingWrite = .sendClosed) :
      Notifies conn .closeWriteStep { conn with closingWrite := .done } muxConnCloseWrite

namespace Endpoint

/-- The transitions of an endpoint that do not touch the transport. -/
inductive Steps (cfg : MuxConfig) (endpoint : Endpoint) : EndpointEvent → Endpoint → Prop
  | openConn (id : Int32) (isOpen : endpoint.closed = false)
      (isId : getId endpoint.isInitiator endpoint.connMap endpoint.id = some id) :
      Steps cfg endpoint .openConn
        { endpoint with
          conns := endpoint.conns ++ [Conn.new id .created]
          id := id
          allocated := endpoint.allocated ++ [id] }
  | move (i : Nat) (event : ConnEvent) (conn after : Conn)
      (found : endpoint.conns[i]? = some conn) (moves : conn.Moves cfg endpoint event after) :
      Steps cfg endpoint (.conn i event) (endpoint.setConn i after)
  | register (i : Nat) (conn : Conn) (found : endpoint.conns[i]? = some conn)
      (isStage : conn.stage = .created) :
      Steps cfg endpoint (.conn i .register)
        { endpoint.setConn i { conn with stage := .registered } with
          connMap := endpoint.connMap.set conn.connId i }
  | request (i : Nat) (conn : Conn) (found : endpoint.conns[i]? = some conn)
      (isStage : conn.stage = .registered)
      (isSent : (endpoint.sendInfo muxNewConn conn.connId false .nil).1 = true) :
      Steps cfg endpoint (.conn i .request)
        ((endpoint.sendInfo muxNewConn conn.connId false .nil).2.setConn i
          { conn with stage := .requested })
  | requestLost (i : Nat) (conn : Conn) (found : endpoint.conns[i]? = some conn)
      (isStage : conn.stage = .registered)
      (notSent : (endpoint.sendInfo muxNewConn conn.connId false .nil).1 = false) :
      Steps cfg endpoint (.conn i .request)
        ((endpoint.sendInfo muxNewConn conn.connId false .nil).2.setConn i
          ({ conn with stage := .abandoned }.beginClose false))
  | queueSegment (i : Nat) (conn : Conn) (found : endpoint.conns[i]? = some conn)
      (isHeld : conn.held = true) (bytes : List UInt8) (sendSize : UInt32) (part : Bool)
      (isWriting : conn.sender.writing = .cut bytes sendSize part)
      (result : StreamSender × SenderOutput)
      (isResult : conn.sender.step
        (if (endpoint.sendSegment conn bytes part).1 then .queue else .refuse) = some result) :
      Steps cfg endpoint (.conn i .queueSegment)
        ((endpoint.sendSegment conn bytes part).2.setConn i { conn with sender := result.1 })
  | reading (i : Nat) (conn : Conn) (found : endpoint.conns[i]? = some conn)
      (isHeld : conn.held = true) (event : ReceiverEvent) (isReading : event.isReading = true)
      (result : StreamReceiver × ReceiverOutput)
      (isResult : conn.receiver.step cfg event = some result) :
      Steps cfg endpoint (.conn i (.reading event))
        ((endpoint.sendUpdate conn result.2).setConn i (conn.afterReceive result))
  | notify (i : Nat) (event : ConnEvent) (conn after : Conn) (flag : UInt8)
      (found : endpoint.conns[i]? = some conn) (notifies : conn.Notifies event after flag) :
      Steps cfg endpoint (.conn i event) (endpoint.sendNotice i after flag)
  | remove (i : Nat) (conn : Conn) (found : endpoint.conns[i]? = some conn) (notify : Bool)
      (isClosing : conn.closing = .shut notify) :
      Steps cfg endpoint (.conn i .closeStep)
        { endpoint.setConn i { conn with closing := .removed notify } with
          connMap := endpoint.connMap.delete conn.connId }
  | accept (i : Nat) (rest : List Nat) (isQueue : endpoint.newConnCh = i :: rest)
      (isOpen : endpoint.closed = false) (conn : Conn) (found : endpoint.conns[i]? = some conn) :
      Steps cfg endpoint .accept
        { endpoint.setConn i { conn with stage := .accepted } with newConnCh := rest }
  | incoming (i : Nat) (isReader : endpoint.reader = .writing i) (conn : Conn)
      (found : endpoint.conns[i]? = some conn) (event : ReceiverEvent)
      (isIncoming : event.isIncoming = true) (result : StreamReceiver × ReceiverOutput)
      (isResult : conn.receiver.step cfg event = some result) :
      Steps cfg endpoint (.incoming event)
        { (endpoint.sendUpdate conn result.2).setConn i (conn.afterReceive result) with
          reader := if result.1.incoming = .idle then .idle else .writing i }
  | registerOffered (i : Nat) (isReader : endpoint.reader = .registering i) (conn : Conn)
      (found : endpoint.conns[i]? = some conn) :
      Steps cfg endpoint .readerStep
        { endpoint with
          connMap := endpoint.connMap.set conn.connId i
          reader := .answering true conn.connId }
  | answer (offered : Bool) (id : Int32) (isReader : endpoint.reader = .answering offered id) :
      Steps cfg endpoint .readerStep { (endpoint.sendAnswer offered id).2 with reader := .idle }
  | reply (content : List UInt8) (isReader : endpoint.reader = .replying) :
      Steps cfg endpoint (.reply content)
        { (endpoint.sendInfo muxPingReturn muxPing false (.bytes content)).2 with reader := .idle }
  | ping (content : List UInt8) :
      Steps cfg endpoint (.ping content)
        (endpoint.sendInfo muxPingFlag muxPing false (.bytes content)).2
  | closeMux : Steps cfg endpoint .closeMux endpoint.closeMux
  | release (isClosed : endpoint.closed = true) (packager : MuxPackager) (queue : PriorityQueue)
      (popped : endpoint.writeQueue.tryPop = (some packager, queue)) :
      Steps cfg endpoint .release { endpoint with writeQueue := queue, released := true }

section Inversion

variable {cfg : MuxConfig} {endpoint after : Endpoint}

variable {i : Nat} {conn : Conn}

section

variable (found : endpoint.conns[i]? = some conn)

include found

theorem steps_of_closeStep (stepEq : endpoint.closeStep i conn = some after) :
    Steps cfg endpoint (.conn i .closeStep) after := by
  revert stepEq
  fun_cases closeStep endpoint i conn with
  | case1 notify isClosing =>
    rintro ⟨⟩
    exact .move i _ conn _ found (.closeMarked notify isClosing)
  | case2 notify isClosing =>
    rintro ⟨⟩
    exact .move i _ conn _ found (.closeFlagged notify isClosing)
  | case3 notify isClosing =>
    rintro ⟨⟩
    exact .move i _ conn _ found (.closeShut notify isClosing)
  | case4 notify isClosing =>
    rintro ⟨⟩
    exact .remove i conn found notify isClosing
  | case5 isClosing =>
    rintro ⟨⟩
    exact .notify i _ conn _ _ found (.close isClosing)
  | case6 isClosing =>
    rintro ⟨⟩
    exact .move i _ conn _ found (.closeSilently isClosing)
  | case7 isClosing =>
    rintro ⟨⟩
    exact .move i _ conn _ found (.closeSender isClosing)
  | case8 isClosing =>
    rintro ⟨⟩
    exact .move i _ conn _ found (.closeReceiver isClosing)
  | _ => rintro ⟨⟩

theorem steps_of_connStep {event : ConnEvent}
    (stepEq : endpoint.connStep cfg i conn event = some after) :
    Steps cfg endpoint (.conn i event) after := by
  revert stepEq
  fun_cases connStep cfg endpoint i conn event with
  | case1 isStage =>
    rintro ⟨⟩
    exact .register i conn found isStage
  | case3 isStage _ isSent =>
    have steps : Steps cfg endpoint _ _ := .request i conn found isStage (by rw [isSent])
    rintro ⟨⟩
    rwa [isSent] at steps
  | case4 isStage _ isSent =>
    have steps : Steps cfg endpoint _ _ := .requestLost i conn found isStage (by rw [isSent])
    rintro ⟨⟩
    rwa [isSent] at steps
  | case6 may =>
    rintro ⟨⟩
    exact .move i _ conn _ found (.opened may.1 may.2)
  | case8 error may =>
    rintro ⟨⟩
    exact .move i _ conn _ found (.abandon error may.1 may.2)
  | case10 may =>
    have notClosed : conn.writeClosed = false := by
      have notAny := may.2
      simp only [not_or, Bool.not_eq_true] at notAny
      exact notAny.2.2
    rintro ⟨⟩
    exact .move i _ conn _ found (.enterWrite may.1 notClosed)
  | case12 buf may =>
    intro stepEq
    obtain ⟨result, isResult, rfl⟩ := map_eq_some_iff.mp stepEq
    exact .move i _ conn _ found (.write buf may result isResult)
  | case14 event may =>
    intro stepEq
    obtain ⟨result, isResult, rfl⟩ := map_eq_some_iff.mp stepEq
    exact .move i _ conn _ found (.writing event may result isResult)
  | case16 isHeld =>
    fun_cases queueSegment endpoint i conn with
    | case1 bytes sendSize part isWriting _ _ isSent =>
      intro stepEq
      obtain ⟨result, _, rfl⟩ := map_eq_some_iff.mp stepEq
      have steps : Steps cfg endpoint _ _ :=
        .queueSegment i conn found isHeld bytes sendSize part isWriting result (by rwa [isSent])
      rwa [isSent] at steps
    | _ => rintro ⟨⟩
  | case18 may =>
    rintro ⟨⟩
    exact .move i _ conn _ found (.enterRead may.1 (by simpa using may.2))
  | case20 room may =>
    intro stepEq
    obtain ⟨result, isResult, rfl⟩ := map_eq_some_iff.mp stepEq
    exact .move i _ conn _ found (.read room may.1 result isResult)
  | case22 event may =>
    intro stepEq
    obtain ⟨result, isResult, rfl⟩ := map_eq_some_iff.mp stepEq
    exact .reading i conn found may.1 event may.2 result isResult
  | case24 isEof _ closed =>
    rintro ⟨⟩
    exact .move i _ conn _ found (.leaveClosing isEof closed.1)
  | case25 isEof =>
    rintro ⟨⟩
    exact .move i _ conn _ found (.leave isEof)
  | case27 isHeld =>
    rintro ⟨⟩
    exact .move i _ conn _ found (.setPriority isHeld)
  | case29 may =>
    rintro ⟨⟩
    exact .move i _ conn _ found (.enterCloseWrite may.1 (by simpa using may.2))
  | case30 may =>
    rintro ⟨⟩
    exact .move i _ conn _ found (.closeInstead may.1)
  | case32 entered _ writeClosed =>
    rintro ⟨⟩
    exact .move i _ conn _ found (.closeWriteTwice entered writeClosed)
  | case33 entered _ isOpen =>
    rintro ⟨⟩
    exact .move i _ conn _ found (.closeWrite entered (by simpa using isOpen))
  | case35 =>
    fun_cases closeWriteStep endpoint i conn with
    | case1 isClosing =>
      rintro ⟨⟩
      exact .move i _ conn _ found (.closeWriteSender isClosing)
    | case2 isClosing =>
      rintro ⟨⟩
      exact .notify i _ conn _ _ found (.closeWrite isClosing)
    | _ => rintro ⟨⟩
  | case36 may =>
    rintro ⟨⟩
    exact .move i _ conn _ found (.close may)
  | case38 => exact steps_of_closeStep found
  | _ => rintro ⟨⟩

end

theorem steps_of_step {event : EndpointEvent} (stepEq : endpoint.step cfg event = some after) :
    Steps cfg endpoint event after := by
  revert stepEq
  fun_cases step cfg endpoint event with
  | case2 isOpen =>
    intro stepEq
    obtain ⟨id, isId, rfl⟩ := map_eq_some_iff.mp stepEq
    exact .openConn id (by simpa using isOpen) isId
  | case3 =>
    intro stepEq
    obtain ⟨_, found, stepEq⟩ := bind_eq_some_iff.mp stepEq
    exact steps_of_connStep found stepEq
  | case6 i rest isQueue isOpen =>
    intro stepEq
    obtain ⟨conn, found, rfl⟩ := map_eq_some_iff.mp stepEq
    exact .accept i rest isQueue (by simpa using isOpen) conn found
  | case7 event i isReader isIncoming =>
    intro stepEq
    obtain ⟨conn, found, stepEq⟩ := bind_eq_some_iff.mp stepEq
    obtain ⟨result, isResult, rfl⟩ := map_eq_some_iff.mp stepEq
    exact .incoming i isReader conn found event isIncoming result isResult
  | case10 i isReader =>
    intro stepEq
    obtain ⟨conn, found, rfl⟩ := map_eq_some_iff.mp stepEq
    exact .registerOffered i isReader conn found
  | case11 offered id isReader =>
    rintro ⟨⟩
    exact .answer offered id isReader
  | case13 content isReader =>
    rintro ⟨⟩
    exact .reply content isReader
  | case15 content =>
    rintro ⟨⟩
    exact .ping content
  | case17 =>
    rintro ⟨⟩
    exact .closeMux
  | case19 isClosed packager queue popped =>
    rintro ⟨⟩
    exact .release isClosed packager queue popped
  | _ => rintro ⟨⟩

end Inversion

/-- What the session reader does with a frame. -/
inductive Handles (cfg : MuxConfig) (endpoint : Endpoint) (packager : MuxPackager) : Endpoint → Prop
  | refuse (isFlag : packager.flag = muxNewConn) :
      Handles cfg endpoint packager
        { endpoint with
          connMap := endpoint.connMap.delete packager.id
          reader := .answering false packager.id }
  | offer (isFlag : packager.flag = muxNewConn) (isOpen : endpoint.closed = false) :
      Handles cfg endpoint packager
        { endpoint with
          conns := endpoint.conns ++ [Conn.new packager.id .offered]
          newConnCh := endpoint.newConnCh ++ [endpoint.conns.length]
          reader := .registering endpoint.conns.length }
  | ping (isFlag : packager.flag = muxPingFlag) :
      Handles cfg endpoint packager { endpoint with reader := .replying }
  | pong (isFlag : packager.flag = muxPingReturn) : Handles cfg endpoint packager endpoint
  | hello (isFlag : packager.flag = muxPeerHello) :
      Handles cfg endpoint packager { endpoint with remoteCapabilities := packager.id.toUInt32 }
  | unknown (notFlag : packager.flag ≠ muxNewConn)
      (notFound : ∀ i conn, endpoint.connMap.get packager.id = some i →
        endpoint.conns[i]? = some conn → conn.isClose = true) :
      Handles cfg endpoint packager endpoint
  | ignored (notData : isMuxStreamOrderedFlag packager.flag = false)
      (notFlag : packager.flag ≠ muxNewConn ∧ packager.flag ≠ muxMsgSendOk ∧
        packager.flag ≠ muxNewConnOk ∧ packager.flag ≠ muxNewConnFail) :
      Handles cfg endpoint packager endpoint
  | data (i : Nat) (conn : Conn) (isFlag : isMuxStreamDataFlag packager.flag = true)
      (isConn : endpoint.connMap.get packager.id = some i) (found : endpoint.conns[i]? = some conn)
      (notClosed : conn.isClose = false) (result : StreamReceiver × ReceiverOutput)
      (isResult : conn.receiver.step cfg
        (.arrive packager.content (packager.flag == muxNewMsgPart)) = some result)
      (taken : result.2.refused = false) :
      Handles cfg endpoint packager
        { endpoint.setConn i { conn with receiver := result.1 } with reader := .writing i }
  | dataRefused (i : Nat) (conn : Conn) (isFlag : isMuxStreamDataFlag packager.flag = true)
      (isConn : endpoint.connMap.get packager.id = some i) (found : endpoint.conns[i]? = some conn)
      (notClosed : conn.isClose = false) (result : StreamReceiver × ReceiverOutput)
      (isResult : conn.receiver.step cfg
        (.arrive packager.content (packager.flag == muxNewMsgPart)) = some result)
      (refused : result.2.refused = true) :
      Handles cfg endpoint packager (endpoint.setConn i (conn.beginClose true))
  | statusOk (i : Nat) (conn : Conn) (isFlag : packager.flag = muxNewConnOk)
      (isConn : endpoint.connMap.get packager.id = some i) (found : endpoint.conns[i]? = some conn)
      (notClosed : conn.isClose = false) :
      Handles cfg endpoint packager (endpoint.setConn i { conn with connStatusOk := true })
  | statusFail (i : Nat) (conn : Conn) (isFlag : packager.flag = muxNewConnFail)
      (isConn : endpoint.connMap.get packager.id = some i) (found : endpoint.conns[i]? = some conn)
      (notClosed : conn.isClose = false) :
      Handles cfg endpoint packager (endpoint.setConn i { conn with connStatusFail := true })
  | update (i : Nat) (conn : Conn) (isFlag : packager.flag = muxMsgSendOk)
      (isConn : endpoint.connMap.get packager.id = some i) (found : endpoint.conns[i]? = some conn)
      (notClosed : conn.isClose = false) (result : StreamSender × SenderOutput)
      (isResult : conn.sender.step (.update packager.window) = some result) :
      Handles cfg endpoint packager
        (if result.2.violation.isSome then
          (endpoint.setConn i { conn with sender := result.1 }).closeMux
        else endpoint.setConn i { conn with sender := result.1 })
  | notice (i : Nat) (conn : Conn) (closingFlag : Bool)
      (isFlag : isMuxOrderedCloseFlag packager.flag = true)
      (isConn : endpoint.connMap.get packager.id = some i) (found : endpoint.conns[i]? = some conn)
      (notClosed : conn.isClose = false) :
      Handles cfg endpoint packager
        (endpoint.setConn i
          { conn with
            remoteWriteClosed := true
            closingFlag := closingFlag
            receiver := { conn.receiver with window := conn.receiver.window.stop } })

section Inversion

variable {cfg : MuxConfig} {endpoint after : Endpoint} {packager : MuxPackager}

theorem handles_of_dispatch {i : Nat} {conn : Conn} (notFlag : packager.flag ≠ muxNewConn)
    (isConn : endpoint.connMap.get packager.id = some i) (found : endpoint.conns[i]? = some conn)
    (notClosed : conn.isClose = false)
    (isAfter : endpoint.dispatch cfg i conn packager = some after) :
    Handles cfg endpoint packager after := by
  rw [dispatch] at isAfter
  split_ifs at isAfter with isData isOk isFail isUpdate isCloseWrite isCloseFlag
  · obtain ⟨result, isResult, rfl⟩ := map_eq_some_iff.mp isAfter
    cases refused : result.2.refused with
    | true => exact .dataRefused i conn isData isConn found notClosed result isResult refused
    | false => exact .data i conn isData isConn found notClosed result isResult refused
  · cases isAfter
    exact .statusOk i conn (by simpa using isOk) isConn found notClosed
  · cases isAfter
    exact .statusFail i conn (by simpa using isFail) isConn found notClosed
  · obtain ⟨result, isResult, rfl⟩ := map_eq_some_iff.mp isAfter
    exact .update i conn (by simpa using isUpdate) isConn found notClosed result isResult
  · cases isAfter
    have isNotice : isMuxOrderedCloseFlag packager.flag = true := by
      simp [isMuxOrderedCloseFlag, isCloseWrite]
    exact .notice i conn conn.closingFlag isNotice isConn found notClosed
  · cases isAfter
    have isNotice : isMuxOrderedCloseFlag packager.flag = true := by
      simp [isMuxOrderedCloseFlag, isCloseFlag]
    exact .notice i conn true isNotice isConn found notClosed
  · cases isAfter
    refine .ignored ?_
      ⟨notFlag, by simpa using isUpdate, by simpa using isOk, by simpa using isFail⟩
    simp [isMuxStreamOrderedFlag, isMuxOrderedCloseFlag, isData, isCloseWrite, isCloseFlag]

theorem handles_of_handle (isAfter : endpoint.handle cfg packager = some after) :
    endpoint.reader = .idle ∧ Handles cfg endpoint packager after := by
  rw [handle] at isAfter
  split_ifs at isAfter with busy isNewConn isPing isPong isHello
  all_goals refine ⟨by simpa using busy, ?_⟩
  · have isFlag : packager.flag = muxNewConn := by simpa using isNewConn
    cases isAfter
    rw [newConn]
    split_ifs with full
    · exact .refuse isFlag
    · exact .offer isFlag (by simpa using (not_or.mp full).1)
  · cases isAfter
    exact .ping (by simpa using isPing)
  · cases isAfter
    exact .pong (by simpa using isPong)
  · cases isAfter
    exact .hello (by simpa using isHello)
  · have notFlag : packager.flag ≠ muxNewConn := by simpa using isNewConn
    cases isConn : endpoint.connMap.get packager.id with
    | none =>
      simp only [isConn] at isAfter
      cases isAfter
      exact .unknown notFlag (by simp [isConn])
    | some i =>
      simp only [isConn] at isAfter
      cases found : endpoint.conns[i]? with
      | none =>
        simp only [found] at isAfter
        cases isAfter
        refine .unknown notFlag ?_
        intro _ _ isOther foundOther
        cases isConn.symm.trans isOther
        cases found.symm.trans foundOther
      | some =>
        simp only [found] at isAfter
        split_ifs at isAfter with isClosed
        · cases isAfter
          refine .unknown notFlag ?_
          intro _ _ isOther foundOther
          cases isConn.symm.trans isOther
          cases found.symm.trans foundOther
          exact isClosed
        · exact handles_of_dispatch notFlag isConn found (by simpa using isClosed) isAfter

end Inversion

end Endpoint

end DeepNps.Mux
