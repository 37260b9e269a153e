import DeepNps.MuxFrameCodec
import DeepNps.MuxPriorityQueue
import DeepNps.MuxStreamIds

/-!
# A mux endpoint

The state of one `Mux` and the atomic actions of its threads.  `sendInfo` may be held up
by backpressure, which only delays a frame.  The measurements that size calculations use,
the values of the session receive counter and the ping payloads are inputs.
-/

namespace DeepNps.Mux

def capabilityCloseWrite : UInt32 := 1

/-- It is in `receiveWindow.Write` of a connection, about to register a connection that it has
offered to `Accept`, to answer a request, or to answer a ping. -/
inductive SessionReader where
  | idle
  | writing (i : Nat)
  | registering (i : Nat)
  | answering (offered : Bool) (id : Int32)
  | replying
  deriving DecidableEq, Repr

/-- `conns` are all connections created, `newConnCh` the accept queue.  `allocated` records what
`getId` has returned, `released` whether the closed mux has begun to drop its frames. -/
structure Endpoint where
  conns : List Conn
  connMap : ConnMap
  newConnCh : List Nat
  id : Int32
  isInitiator : Bool
  remoteCapabilities : UInt32
  closed : Bool
  writeQueue : PriorityQueue
  reader : SessionReader
  allocated : List Int32
  released : Bool

inductive OpenError where
  | refused
  | muxClosed
  | timeout
  deriving DecidableEq, Repr

inductive ConnEvent where
  | register
  | request
  | opened
  | abandon (error : OpenError)
  | enterWrite
  | write (buf : List UInt8)
  | writing (event : SenderEvent)
  | queueSegment
  | enterRead
  | read (room : Nat)
  | reading (event : ReceiverEvent)
  | checkEnd
  | setPriority
  | enterCloseWrite
  | closeWrite
  | closeWriteStep
  | close
  | closeStep

inductive EndpointEvent where
  | openConn
  | conn (i : Nat) (event : ConnEvent)
  | accept
  | incoming (event : ReceiverEvent)
  | readerStep
  | reply (content : List UInt8)
  | ping (content : List UInt8)
  | closeMux
  | release

namespace Endpoint

/-- `closeWithReason`, up to the closing of the connections. -/
def closeMux (endpoint : Endpoint) : Endpoint :=
  { endpoint with closed := true, writeQueue := endpoint.writeQueue.stopQueue }

/-- `sendInfo` reports whether the frame was queued. -/
def sendInfo (endpoint : Endpoint) (flag : UInt8) (id : Int32) (priority : Bool)
    (data : FrameData) : Bool × Endpoint :=
  if endpoint.closed then (false, endpoint)
  else
    match MuxPackager.set priority flag id data with
    | .error _ => (false, endpoint.closeMux)
    | .ok packager =>
        let (accepted, queue) := endpoint.writeQueue.push packager
        (accepted, { endpoint with writeQueue := queue })

/-- `NewMuxWithConfig`.  It does not store `isInitiator` in the mux. -/
def new (isInitiator : Bool) : Endpoint :=
  let endpoint : Endpoint :=
    { conns := []
      connMap := ConnMap.new
      newConnCh := []
      id := startId isInitiator
      isInitiator := false
      remoteCapabilities := 0
      closed := false
      writeQueue := PriorityQueue.new
      reader := .idle
      allocated := []
      released := false }
  (endpoint.sendInfo muxPeerHello capabilityCloseWrite.toInt32 true .nil).2

def supportsRemoteCapability (endpoint : Endpoint) (capability : UInt32) : Bool :=
  endpoint.remoteCapabilities &&& capability == capability

def setConn (endpoint : Endpoint) (i : Nat) (conn : Conn) : Endpoint :=
  { endpoint with conns := endpoint.conns.set i conn }

def sendUpdate (endpoint : Endpoint) (conn : Conn) (output : ReceiverOutput) : Endpoint :=
  match output.update with
  | none => endpoint
  | some word =>
      (endpoint.sendInfo muxMsgSendOk conn.connId conn.receiver.window.priority (.window word)).2

def sendNotice (endpoint : Endpoint) (i : Nat) (conn : Conn) (flag : UInt8) : Endpoint :=
  match endpoint.sendInfo flag conn.connId conn.priority .nil with
  | (true, endpoint) => endpoint.setConn i conn.afterNotice
  | (false, endpoint) => endpoint.setConn i conn

def sendAnswer (endpoint : Endpoint) (offered : Bool) (id : Int32) : Bool × Endpoint :=
  endpoint.sendInfo (if offered then muxNewConnOk else muxNewConnFail) id false .nil

def mayAbandon (endpoint : Endpoint) (conn : Conn) : OpenError → Bool
  | .refused => conn.connStatusFail
  | .muxClosed => endpoint.closed
  | .timeout => true

def closeStep (endpoint : Endpoint) (i : Nat) (conn : Conn) : Option Endpoint :=
  match conn.closing with
  | .begun notify =>
      some (endpoint.setConn i { conn with isClose := true, closing := .marked notify })
  | .marked notify =>
      some (endpoint.setConn i { conn with closingFlag := true, closing := .flagged notify })
  | .flagged notify =>
      some (endpoint.setConn i { conn with writeClosed := true, closing := .shut notify })
  | .shut notify => some
      { endpoint.setConn i { conn with closing := .removed notify } with
        connMap := endpoint.connMap.delete conn.connId }
  | .removed true => some (endpoint.sendNotice i { conn with closing := .notified } muxConnClose)
  | .removed false => some (endpoint.setConn i { conn with closing := .notified })
  | .notified => some
      (endpoint.setConn i
        { conn with
          sender := { conn.sender with window := conn.sender.window.closeWindow }
          closing := .sendClosed })
  | .sendClosed => some
      (endpoint.setConn i
        { conn with
          receiver := { conn.receiver with window := conn.receiver.window.closeWindow }
          closing := .done })
  | _ => none

def closeWriteStep (endpoint : Endpoint) (i : Nat) (conn : Conn) : Option Endpoint :=
  match conn.closingWrite with
  | .marked => some
      (endpoint.setConn i
        { conn with
          sender := { conn.sender with window := conn.sender.window.closeWindow }
          closingWrite := .sendClosed })
  | .sendClosed =>
      some (endpoint.sendNotice i { conn with closingWrite := .done } muxConnCloseWrite)
  | _ => none

def sendSegment (endpoint : Endpoint) (conn : Conn) (bytes : List UInt8) (part : Bool) :
    Bool × Endpoint :=
  endpoint.sendInfo (if part then muxNewMsgPart else muxNewMsg) conn.connId
    conn.sender.window.priority (.bytes bytes)

/-- Hand a segment to the mux; the window takes it back if it is refused. -/
def queueSegment (endpoint : Endpoint) (i : Nat) (conn : Conn) : Option Endpoint :=
  match conn.sender.writing with
  | .cut bytes _ part =>
      let (accepted, endpoint) := endpoint.sendSegment conn bytes part
      (conn.sender.step (if accepted then .queue else .refuse)).map fun result =>
        endpoint.setConn i { conn with sender := result.1 }
  | _ => none

def connStep (cfg : MuxConfig) (endpoint : Endpoint) (i : Nat) (conn : Conn) :
    ConnEvent → Option Endpoint
  | .register =>
      if conn.stage = .created then some
        { endpoint.setConn i { conn with stage := .registered } with
          connMap := endpoint.connMap.set conn.connId i }
      else none
  | .request =>
      if conn.stage = .registered then
        match endpoint.sendInfo muxNewConn conn.connId false .nil with
        | (true, endpoint) => some (endpoint.setConn i { conn with stage := .requested })
        | (false, endpoint) =>
            some (endpoint.setConn i ({ conn with stage := .abandoned }.beginClose false))
      else none
  | .opened =>
      if conn.stage = .requested ∧ conn.connStatusOk then
        some (endpoint.setConn i { conn with stage := .opened, connStatusOk := false })
      else none
  | .abandon error =>
      if conn.stage = .requested ∧ endpoint.mayAbandon conn error then
        some (endpoint.setConn i ({ conn with stage := .abandoned }.beginClose false))
      else none
  | .enterWrite =>
      if conn.held ∧ ¬ (conn.isClose ∨ conn.closingFlag ∨ conn.writeClosed) then
        some (endpoint.setConn i { conn with writers := conn.writers + 1 })
      else none
  | .write buf =>
      if 0 < conn.writers then
        (conn.sender.step (.write buf)).map fun result =>
          endpoint.setConn i { conn with writers := conn.writers - 1, sender := result.1 }
      else none
  | .writing event =>
      if event.isWriting then
        (conn.sender.step event).map fun result =>
          endpoint.setConn i { conn with sender := result.1 }
      else none
  | .queueSegment => if conn.held then endpoint.queueSegment i conn else none
  | .enterRead =>
      if conn.held ∧ ¬ conn.isClose then
        some (endpoint.setConn i { conn with readers := conn.readers + 1 })
      else none
  | .read room =>
      if 0 < conn.readers ∧ ¬ conn.atEof then
        (conn.receiver.step cfg (.read room)).map fun result =>
          endpoint.setConn i ({ conn with readers := conn.readers - 1 }.afterReceive result)
      else none
  | .reading event =>
      if conn.held ∧ event.isReading then
        (conn.receiver.step cfg event).map fun result =>
          (endpoint.sendUpdate conn result.2).setConn i (conn.afterReceive result)
      else none
  | .checkEnd =>
      if conn.atEof then
        let returned := { conn with atEof := false }
        if conn.writeClosed ∧ conn.remoteWriteClosed then
          some (endpoint.setConn i (returned.beginClose false))
        else some (endpoint.setConn i returned)
      else none
  | .setPriority => if conn.held then some (endpoint.setConn i conn.setPriority) else none
  | .enterCloseWrite =>
      if conn.held ∧ ¬ conn.isClose then
        if endpoint.supportsRemoteCapability capabilityCloseWrite then
          some (endpoint.setConn i { conn with closeWriters := conn.closeWriters + 1 })
        else some (endpoint.setConn i (conn.beginClose true))
      else none
  | .closeWrite =>
      if 0 < conn.closeWriters then
        let returned := { conn with closeWriters := conn.closeWriters - 1 }
        if conn.writeClosed then some (endpoint.setConn i returned)
        else some
          (endpoint.setConn i { returned with writeClosed := true, closingWrite := .marked })
      else none
  | .closeWriteStep => endpoint.closeWriteStep i conn
  | .close =>
      -- a closed mux closes the connections in its map
      if conn.held ∨ endpoint.closed then some (endpoint.setConn i (conn.beginClose true))
      else none
  | .closeStep => endpoint.closeStep i conn

/-- The actions of one endpoint that do not touch the transport. -/
def step (cfg : MuxConfig) (endpoint : Endpoint) : EndpointEvent → Option Endpoint
  | .openConn =>
      if endpoint.closed then none
      else
        (getId endpoint.isInitiator endpoint.connMap endpoint.id).map fun id =>
          { endpoint with
            conns := endpoint.conns ++ [Conn.new id .created]
            id := id
            allocated := endpoint.allocated ++ [id] }
  | .conn i event => (endpoint.conns[i]?).bind fun conn => endpoint.connStep cfg i conn event
  | .accept =>
      match endpoint.newConnCh with
      | [] => none
      | i :: rest =>
          if endpoint.closed then none
          else
            (endpoint.conns[i]?).map fun conn =>
              { endpoint.setConn i { conn with stage := .accepted } with newConnCh := rest }
  | .incoming event =>
      match endpoint.reader with
      | .writing i =>
          if event.isIncoming then
            (endpoint.conns[i]?).bind fun conn =>
              (conn.receiver.step cfg event).map fun result =>
                { (endpoint.sendUpdate conn result.2).setConn i (conn.afterReceive result) with
                  reader := if result.1.incoming = .idle then .idle else .writing i }
          else none
      | _ => none
  | .readerStep =>
      match endpoint.reader with
      | .registering i =>
          (endpoint.conns[i]?).map fun conn =>
            { endpoint with
              connMap := endpoint.connMap.set conn.connId i
              reader := .answering true conn.connId }
      | .answering offered id => some { (endpoint.sendAnswer offered id).2 with reader := .idle }
      | _ => none
  | .reply content =>
      if endpoint.reader = .replying then
        some { (endpoint.sendInfo muxPingReturn muxPing false (.bytes content)).2 with
          reader := .idle }
      else none
  | .ping content => some (endpoint.sendInfo muxPingFlag muxPing false (.bytes content)).2
  | .closeMux => if endpoint.closed then none else some endpoint.closeMux
  | .release =>
      if endpoint.closed then
        match endpoint.writeQueue.tryPop with
        | (none, _) => none
        | (some _, queue) => some { endpoint with writeQueue := queue, released := true }
      else none

/-- `enqueueAcceptedConn` offers the connection to `Accept` if there is room; otherwise
`closeLocal` deletes its id from the map and the request is refused. -/
def newConn (cfg : MuxConfig) (endpoint : Endpoint) (id : Int32) : Endpoint :=
  if endpoint.closed ∨ cfg.acceptBacklog.toInt ≤ endpoint.newConnCh.length then
    { endpoint with
      connMap := endpoint.connMap.delete id
      reader := .answering false id }
  else
    { endpoint with
      conns := endpoint.conns ++ [Conn.new id .offered]
      newConnCh := endpoint.newConnCh ++ [endpoint.conns.length]
      reader := .registering endpoint.conns.length }

/-- `newMsg`: a segment that the receive window refuses closes the connection. -/
def newMsg (cfg : MuxConfig) (endpoint : Endpoint) (i : Nat) (conn : Conn)
    (packager : MuxPackager) : Option Endpoint :=
  (conn.receiver.step cfg (.arrive packager.content (packager.flag == muxNewMsgPart))).map
    fun result =>
      if result.2.refused then endpoint.setConn i (conn.beginClose true)
      else
        { endpoint.setConn i { conn with receiver := result.1 } with reader := .writing i }

/-- A frame for a registered connection that is not closed. -/
def dispatch (cfg : MuxConfig) (endpoint : Endpoint) (i : Nat) (conn : Conn)
    (packager : MuxPackager) : Option Endpoint :=
  if isMuxStreamDataFlag packager.flag then endpoint.newMsg cfg i conn packager
  else if packager.flag == muxNewConnOk then
    some (endpoint.setConn i { conn with connStatusOk := true })
  else if packager.flag == muxNewConnFail then
    some (endpoint.setConn i { conn with connStatusFail := true })
  else if packager.flag == muxMsgSendOk then
    (conn.sender.step (.update packager.window)).map fun result =>
      let endpoint := endpoint.setConn i { conn with sender := result.1 }
      if result.2.violation.isSome then endpoint.closeMux else endpoint
  else if packager.flag == muxConnCloseWrite then
    some (endpoint.setConn i
      { conn with
        remoteWriteClosed := true
        receiver := { conn.receiver with window := conn.receiver.window.stop } })
  else if packager.flag == muxConnClose then
    some (endpoint.setConn i
      { conn with
        remoteWriteClosed := true
        closingFlag := true
        receiver := { conn.receiver with window := conn.receiver.window.stop } })
  else some endpoint

/-- `readSession`, for one frame.  Frames for unknown or closed connections are
dropped. -/
def handle (cfg : MuxConfig) (endpoint : Endpoint) (packager : MuxPackager) : Option Endpoint :=
  if endpoint.reader ≠ .idle then none
  else if packager.flag == muxNewConn then some (endpoint.newConn cfg packager.id)
  else if packager.flag == muxPingFlag then some { endpoint with reader := .replying }
  else if packager.flag == muxPingReturn then some endpoint
  else if packager.flag == muxPeerHello then
    some { endpoint with remoteCapabilities := packager.id.toUInt32 }
  else
    match endpoint.connMap.get packager.id with
    | none => some endpoint
    | some i =>
        match endpoint.conns[i]? with
        | none => some endpoint
        | some conn => if conn.isClose then some endpoint else endpoint.dispatch cfg i conn packager

end Endpoint

end DeepNps.Mux
