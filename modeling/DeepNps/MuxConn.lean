import DeepNps.MuxStreamLink

/-!
# Connections of a mux

A connection is a sending and a receiving end with the flags that its closing goes
through.  Where a call stands is part of the state, so that the actions of threads mix.
-/

namespace DeepNps.Mux

/-- A connection is named by its position among all connections that its mux has created. -/
structure ConnMap where
  cMap : List (Int32 × Nat)

namespace ConnMap

def new : ConnMap where
  cMap := []

def size (connMap : ConnMap) : Nat := connMap.cMap.length

def get (connMap : ConnMap) (id : Int32) : Option Nat := connMap.cMap.lookup id

def delete (connMap : ConnMap) (id : Int32) : ConnMap where
  cMap := connMap.cMap.filter fun entry => entry.1 != id

def set (connMap : ConnMap) (id : Int32) (conn : Nat) : ConnMap where
  cMap := (id, conn) :: (connMap.delete id).cMap

theorem mem_keys_of_get {connMap : ConnMap} {id : Int32} {conn : Nat}
    (found : connMap.get id = some conn) : id ∈ connMap.cMap.map Prod.fst := by
  by_contra absent
  have none : connMap.get id = none := by
    rw [get, List.lookup_eq_none_iff]
    intro entry isMember
    have notId : entry.1 ≠ id := by
      rintro rfl
      exact absent (List.mem_map_of_mem isMember)
    simpa using notId.symm
  rw [none] at found
  cases found

end ConnMap

/-- A connection that this end opens is created, registered and requested before it is opened or
abandoned; one that the peer opens is offered to `Accept` and then accepted. -/
inductive Stage where
  | created
  | registered
  | requested
  | opened
  | abandoned
  | offered
  | accepted
  deriving DecidableEq, Repr

/-- `closeProcess` stores three flags, deletes the connection from the map, notifies the peer and
closes the two windows. -/
inductive Closing where
  | idle
  | begun (notifyRemote : Bool)
  | marked (notifyRemote : Bool)
  | flagged (notifyRemote : Bool)
  | shut (notifyRemote : Bool)
  | removed (notifyRemote : Bool)
  | notified
  | sendClosed
  | done
  deriving DecidableEq, Repr

/-- How far a `CloseWrite` has come that has set the flag. -/
inductive ClosingWrite where
  | idle
  | marked
  | sendClosed
  | done
  deriving DecidableEq, Repr

/-- `writers`, `readers` and `closeWriters` count the calls that have just passed their checks on
entry.  `atEof` marks a `Read` that has returned the end of the stream and still holds the lock.
`closedAfter` records what was accepted before the first notice was queued, `ended` whether a
`Read` has reported the end of the stream on an open window. -/
structure Conn where
  connId : Int32
  priority : Bool
  isClose : Bool
  closingFlag : Bool
  writeClosed : Bool
  remoteWriteClosed : Bool
  connStatusOk : Bool
  connStatusFail : Bool
  stage : Stage
  closing : Closing
  closingWrite : ClosingWrite
  writers : Nat
  readers : Nat
  closeWriters : Nat
  atEof : Bool
  sender : StreamSender
  receiver : StreamReceiver
  closedAfter : Option (List UInt8)
  ended : Bool

namespace Conn

def new (connId : Int32) (stage : Stage) : Conn where
  connId := connId
  priority := false
  isClose := false
  closingFlag := false
  writeClosed := false
  remoteWriteClosed := false
  connStatusOk := false
  connStatusFail := false
  stage := stage
  closing := .idle
  closingWrite := .idle
  writers := 0
  readers := 0
  closeWriters := 0
  atEof := false
  sender := StreamSender.new
  receiver := StreamReceiver.new
  closedAfter := none
  ended := false

def held (conn : Conn) : Bool := conn.stage == .opened || conn.stage == .accepted

/-- `Close` and `closeLocal` run `closeProcess` once. -/
def beginClose (conn : Conn) (notifyRemote : Bool) : Conn :=
  if conn.closing = .idle then { conn with closing := .begun notifyRemote } else conn

def setPriority (conn : Conn) : Conn :=
  { conn with
    priority := true
    sender := { conn.sender with window := { conn.sender.window with priority := true } }
    receiver := { conn.receiver with window := { conn.receiver.window with priority := true } } }

def afterReceive (conn : Conn) (result : StreamReceiver × ReceiverOutput) : Conn :=
  { conn with
    receiver := result.1
    ended := conn.ended || (!conn.receiver.window.closeOp && StreamLink.reportsEnd result.2)
    atEof := conn.atEof || StreamLink.reportsEnd result.2 }

def afterNotice (conn : Conn) : Conn :=
  { conn with closedAfter := conn.closedAfter.or (some conn.sender.accepted) }

def unsent (conn : Conn) : Bool := conn.stage == .created || conn.stage == .registered

theorem beginClose_eq (conn : Conn) (notifyRemote : Bool) :
    conn.beginClose notifyRemote =
      { conn with
        closing := if conn.closing = .idle then .begun notifyRemote else conn.closing } := by
  rw [beginClose]
  split_ifs
  · rfl
  · rfl

end Conn

/-- The steps of a `Write` on its own window; queueing a segment goes through the
mux. -/
def SenderEvent.isWriting : SenderEvent → Bool
  | .writeTo => true
  | .resume => true
  | .giveUp => true
  | .sent => true
  | _ => false

/-- The steps of a `Read` behind its entry, and the read deadline. -/
def ReceiverEvent.isReading : ReceiverEvent → Bool
  | .loop => true
  | .pop => true
  | .expire _ => true
  | .copy => true
  | .release => true
  | .statusSize _ => true
  | .statusLoad => true
  | .statusBound _ => true
  | .statusLimit _ => true
  | .statusRemain => true
  | .statusCommit => true
  | .statusNotify => true
  | .fail => true
  | .setDeadline _ => true
  | _ => false

/-- The steps of the session reader in `receiveWindow.Write`. -/
def ReceiverEvent.isIncoming : ReceiverEvent → Bool
  | .incomingSize _ => true
  | .incomingLoad => true
  | .incomingBound _ => true
  | .incomingLimit _ => true
  | .incomingRemain => true
  | .incomingCommit => true
  | .incomingReserve => true
  | .incomingPush => true
  | .incomingNotify => true
  | _ => false

end DeepNps.Mux
