import DeepNps.BridgeNodes
import DeepNps.LabelledRuns

/-!
# Choosing the current node

Calls of `GetNode` and `CheckNode` are cut into sections: one under the lock of the
client, an operation of the node pool, a read of the node map, of the status of a node or
of the pointer to the current id.
-/

namespace DeepNps.Bridge

inductive SelectMode
  | primary
  | roundRobin
  | random
  deriving DecidableEq

/-- The check for an online node before the loop, with the size of the list, or the loop with the
grace checks that are left. -/
inductive Reader
  | online (size : Nat)
  | loop (graceChecksLeft : Nat)
  deriving DecidableEq

/-- Where a call of `GetNode` or `CheckNode` stands: the section it runs next. -/
inductive Call
  /-- `GetNode` has picked an id and stores it as the current one. -/
  | picked (uuid : String)
  /-- `CheckNode` reads the size of the list. -/
  | start
  /-- `currentNodeUUID` loads the pointer. -/
  | readRef (reader : Reader)
  /-- The pointer was empty: `LastUUID` is read under the lock. -/
  | readLast (reader : Reader)
  /-- The id that was read is swapped into the empty pointer. -/
  | casRef (reader : Reader) (uuid : String) (named : uuid ≠ "")
  /-- `currentNodeIfOnline` looks up the node, then its status. -/
  | onlineLookup (size : Nat) (uuid : String)
  | onlineStatus (size : Nat) (node : NodeRef)
  /-- `currentOrNextNodeUUID` picks an id, then stores it if there is still none. -/
  | loopPick (graceChecksLeft : Nat)
  | loopStore (graceChecksLeft : Nat) (uuid : String) (named : uuid ≠ "")
  /-- `evaluateNodeCandidate` looks up the node, then its status. -/
  | lookup (graceChecksLeft : Nat) (uuid : String)
  | status (graceChecksLeft : Nat) (uuid : String) (node : NodeRef)
  /-- `nextDistinctNodeUUID` reads the size of the list, tries that many picks, then the list
  itself. -/
  | deferSize (graceChecksLeft : Nat) (exclude : String)
  | deferNext (graceChecksLeft : Nat) (exclude : String) (attempts : Nat)
  | deferStore (graceChecksLeft : Nat) (uuid : String)
  | pruneMissing (graceChecksLeft : Nat) (uuid : String)
  | pruneNode (graceChecksLeft : Nat) (uuid : String) (node : NodeRef)
  | returned (node : Option NodeRef)
  deriving DecidableEq

namespace Reader

def proceed (reader : Reader) (uuid : String) : Call :=
  match reader with
  | online size =>
      if Text.trimSpace uuid = "" then .readRef (.loop size)
      else .onlineLookup size (Text.trimSpace uuid)
  | loop graceChecksLeft =>
      if uuid = "" then .loopPick graceChecksLeft else .lookup graceChecksLeft uuid

end Reader

namespace NodeTable

def nextNodeUUIDByMode (table : NodeTable) (mode : SelectMode) : String × NodeTable :=
  let choice :=
    match mode with
    | .random => table.nodeList.random
    | .primary | .roundRobin => table.nodeList.next
  (choice.1.getD "", { table with nodeList := choice.2 })

/-- The last resort of `nextDistinctNodeUUID`: the first other id of the list. -/
def firstDistinctNodeUUID (table : NodeTable) (exclude : String) : String :=
  ((table.nodeList.list.map Text.trimSpace).find? fun uuid => uuid ≠ "" ∧ uuid ≠ exclude).getD ""

end NodeTable

/-- A client with the status of the nodes and the calls that have been started. -/
structure NodeSystem where
  table : NodeTable
  isOnline : NodeRef → Bool
  isOffline : NodeRef → Bool
  calls : List Call

inductive NodeEvent
  | addNode (uuid : String) (node : NodeRef) (baseVer : Int)
  /-- The connections of a node change. -/
  | connections (node : NodeRef) (online offline : Bool)
  /-- A removal outside of the calls: the section of `closeAndRemoveNodeIfCurrent`. -/
  | removeNode (uuid : String) (node : NodeRef)
  | pruneMissingNode (uuid : String)
  | getNode
  | checkNode
  /-- A call runs its next section; the flags tell whether the client or the node is
  in its grace window. -/
  | resume (call : Nat) (connectGrace joinGrace : Bool)

namespace NodeSystem

variable (mode : SelectMode)

def new (uuid : String) (node : NodeRef) : NodeSystem where
  table := .new uuid node
  isOnline := fun _ => true
  isOffline := fun _ => false
  calls := []

def runSection (system : NodeSystem) (connectGrace joinGrace : Bool) :
    Call → Option (NodeTable × Call)
  | .picked uuid => some (system.table.assignCurrentNodeUUID uuid, .start)
  | .start =>
      let size := system.table.nodeList.size
      some (system.table, if size = 0 then .returned none else .readRef (.online size))
  | .readRef reader =>
      some (system.table,
        match system.table.lastUUIDRef with
        | some uuid => reader.proceed uuid
        | none => .readLast reader)
  | .readLast reader =>
      let uuid := system.table.lastUUID
      some (system.table,
        if named : uuid = "" then reader.proceed "" else .casRef reader uuid named)
  | .casRef reader uuid _ =>
      some ({ system.table with
          lastUUIDRef := if system.table.lastUUIDRef = none then some uuid
            else system.table.lastUUIDRef },
        reader.proceed uuid)
  | .onlineLookup size uuid =>
      some (system.table,
        match system.table.lookupNodeByUUID uuid with
        | some node => .onlineStatus size node
        | none => .readRef (.loop size))
  | .onlineStatus size node =>
      some (system.table,
        if system.isOffline node then .readRef (.loop size) else .returned (some node))
  | .loopPick graceChecksLeft =>
      let (uuid, table) := system.table.nextNodeUUIDByMode mode
      some (table,
        if named : uuid = "" then .returned none else .loopStore graceChecksLeft uuid named)
  | .loopStore graceChecksLeft uuid _ =>
      let table :=
        if system.table.lastUUID = "" then system.table.assignCurrentNodeUUID uuid
        else system.table
      some (table, .lookup graceChecksLeft table.lastUUID)
  | .lookup graceChecksLeft uuid =>
      some (system.table,
        match system.table.lookupNodeByUUID uuid with
        | some node => .status graceChecksLeft uuid node
        | none => .pruneMissing graceChecksLeft uuid)
  | .status graceChecksLeft uuid node =>
      some (system.table,
        if ¬ system.isOffline node then .returned (some node)
        else if connectGrace ∨ joinGrace then
          if graceChecksLeft - 1 = 0 then .returned none
          else .deferSize (graceChecksLeft - 1) uuid
        else .pruneNode graceChecksLeft uuid node)
  | .deferSize graceChecksLeft exclude =>
      let size := system.table.nodeList.size
      some (system.table,
        if size = 0 then .deferStore graceChecksLeft ""
        else .deferNext graceChecksLeft (Text.trimSpace exclude) size)
  | .deferNext graceChecksLeft exclude 0 =>
      some (system.table, .deferStore graceChecksLeft (system.table.firstDistinctNodeUUID exclude))
  | .deferNext graceChecksLeft exclude (attempts + 1) =>
      let (picked, table) := system.table.nextNodeUUIDByMode mode
      let uuid := Text.trimSpace picked
      some (table,
        if uuid ≠ "" ∧ uuid ≠ exclude then .deferStore graceChecksLeft uuid
        else .deferNext graceChecksLeft exclude attempts)
  | .deferStore graceChecksLeft uuid =>
      some (system.table.assignCurrentNodeUUID uuid, .readRef (.loop graceChecksLeft))
  | .pruneMissing graceChecksLeft uuid =>
      some ((system.table.pruneMissingNodeUUID uuid).2, .readRef (.loop graceChecksLeft))
  | .pruneNode graceChecksLeft uuid node =>
      some ((system.table.closeAndRemoveNodeIfCurrent system.isOffline uuid node).2,
        .readRef (.loop graceChecksLeft))
  | .returned _ => none

def step (system : NodeSystem) : NodeEvent → Option NodeSystem
  | .addNode uuid node baseVer =>
      some { system with table := system.table.addNode system.isOnline uuid node baseVer }
  | .connections node online offline =>
      some { system with
        isOnline := Function.update system.isOnline node online
        isOffline := Function.update system.isOffline node offline }
  | .removeNode uuid node =>
      some { system with
        table := (system.table.closeAndRemoveNodeIfCurrent system.isOffline uuid node).2 }
  | .pruneMissingNode uuid =>
      some { system with table := (system.table.pruneMissingNodeUUID uuid).2 }
  | .getNode =>
      if mode = .primary then some { system with calls := system.calls ++ [.start] }
      else
        let (uuid, table) := system.table.nextNodeUUIDByMode mode
        some { system with table := table, calls := system.calls ++ [.picked uuid] }
  | .checkNode => some { system with calls := system.calls ++ [.start] }
  | .resume index connectGrace joinGrace =>
      (system.calls[index]?).bind fun call =>
        (system.runSection mode connectGrace joinGrace call).map fun (table, after) =>
          { system with table := table, calls := system.calls.set index after }

end NodeSystem

end DeepNps.Bridge
