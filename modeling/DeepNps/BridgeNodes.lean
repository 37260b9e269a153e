import DeepNps.Pool
import DeepNps.Text

/-!
# The node table of a bridge client

The ids of the nodes are in a pool, the nodes in a map, and the id of the current node is
kept under the lock and in a pointer.  The functions here are the sections under the lock.
-/

namespace DeepNps.Bridge

/-- A pointer to a node.  The state of its connections is not part of the table. -/
abbrev NodeRef := Nat

structure NodeTable where
  lastUUID : String
  lastUUIDRef : Option String
  nodeList : Pool String
  nodes : String → Option NodeRef

namespace NodeTable

def assignCurrentNodeUUID (table : NodeTable) (uuid : String) : NodeTable :=
  { table with lastUUID := uuid, lastUUIDRef := if uuid = "" then none else some uuid }

def new (uuid : String) (node : NodeRef) : NodeTable :=
  { lastUUID := ""
    lastUUIDRef := none
    nodeList := Pool.new.add uuid
    nodes := Function.update (fun _ => none) uuid (some node) : NodeTable
  }.assignCurrentNodeUUID uuid

def advanceCurrentNodeLocked (table : NodeTable) (uuid : String) : NodeTable :=
  if uuid = "" ∨ table.lastUUID ≠ uuid then table
  else
    match table.nodeList.next with
    | (some next, nodeList) => { table with nodeList := nodeList }.assignCurrentNodeUUID next
    | (none, nodeList) => { table with nodeList := nodeList }.assignCurrentNodeUUID ""

def dropNodeRuntimeLocked (table : NodeTable) (uuid : String) (removeNodeEntry : Bool) :
    NodeTable :=
  if uuid = "" then table
  else
    { table with
      nodes := if removeNodeEntry then Function.update table.nodes uuid none else table.nodes
      nodeList := table.nodeList.remove uuid }.advanceCurrentNodeLocked uuid

/-- A node whose id is known joins the node that has it, unless that one is online and the new one
speaks an old protocol. -/
def addNode (table : NodeTable) (isOnline : NodeRef → Bool) (uuid : String) (node : NodeRef)
    (baseVer : Int) : NodeTable :=
  match table.nodes uuid with
  | some existing =>
      if isOnline existing ∧ baseVer < 6 then table else table.assignCurrentNodeUUID uuid
  | none =>
      { table with
        nodes := Function.update table.nodes uuid (some node)
        nodeList := table.nodeList.add uuid }.assignCurrentNodeUUID uuid

def lookupNodeByUUID (table : NodeTable) (uuid : String) : Option NodeRef :=
  if Text.trimSpace uuid = "" then none else table.nodes (Text.trimSpace uuid)

def closeAndRemoveNodeIfCurrent (table : NodeTable) (isOffline : NodeRef → Bool) (uuid : String)
    (node : NodeRef) : Bool × NodeTable :=
  if uuid ≠ "" ∧ table.nodes uuid = some node ∧ isOffline node then
    (true, table.dropNodeRuntimeLocked uuid true)
  else (false, table)

def pruneMissingNodeUUID (table : NodeTable) (uuid : String) : Bool × NodeTable :=
  if uuid ≠ "" ∧ table.nodes uuid = none ∧ table.nodeList.has uuid then
    (true, table.dropNodeRuntimeLocked uuid false)
  else (false, table)

/-- The list holds exactly the ids of the nodes. -/
structure Ok (table : NodeTable) : Prop where
  pool : table.nodeList.Ok
  keys : ∀ uuid, uuid ∈ table.nodeList.list ↔ table.nodes uuid ≠ none

/-- The current id is empty or one of the list, and the pointer agrees with it. -/
structure Current (table : NodeTable) : Prop where
  listed : table.lastUUID = "" ∨ table.lastUUID ∈ table.nodeList.list
  pointer : table.lastUUIDRef = if table.lastUUID = "" then none else some table.lastUUID

variable {table : NodeTable} {uuid other : String} {node : NodeRef}

theorem new_ok (uuid : String) (node : NodeRef) : (new uuid node).Ok where
  pool := Pool.new_ok.add uuid
  keys := by
    intro other
    have isNode : other ∈ (new uuid node).nodeList.list ↔
        other = uuid ∨ other ∈ (Pool.new : Pool String).list :=
      Pool.new_ok.mem_add
    rw [isNode]
    by_cases isSame : other = uuid
    · simp [new, assignCurrentNodeUUID, isSame]
    · simp [new, assignCurrentNodeUUID, isSame, Pool.new]

theorem Ok.assign (ok : table.Ok) (uuid : String) : (table.assignCurrentNodeUUID uuid).Ok :=
  ⟨ok.pool, ok.keys⟩

theorem current_assign (isListed : uuid = "" ∨ uuid ∈ table.nodeList.list) :
    (table.assignCurrentNodeUUID uuid).Current where
  listed := isListed
  pointer := rfl

theorem advance_spec (table : NodeTable) (uuid : String) :
    (table.advanceCurrentNodeLocked uuid).nodes = table.nodes ∧
      (table.advanceCurrentNodeLocked uuid).nodeList.list = table.nodeList.list ∧
      (table.advanceCurrentNodeLocked uuid).nodeList.idx = table.nodeList.idx ∧
      (table.advanceCurrentNodeLocked uuid = table ∧ (uuid = "" ∨ table.lastUUID ≠ uuid) ∨
        (table.advanceCurrentNodeLocked uuid).Current) := by
  have chooses := table.nodeList.next_chooses
  rw [advanceCurrentNodeLocked]
  split_ifs with isOther
  · exact ⟨rfl, rfl, rfl, .inl ⟨rfl, isOther⟩⟩
  · split
    · next next nodeList isNext =>
        rw [isNext] at chooses
        refine ⟨rfl, chooses.list, chooses.idx, .inr (current_assign (.inr ?_))⟩
        rw [chooses.list]
        exact chooses.isMember next rfl
    · next nodeList isNext =>
        rw [isNext] at chooses
        exact ⟨rfl, chooses.list, chooses.idx, .inr (current_assign (.inl rfl))⟩

def without (table : NodeTable) (uuid : String) : NodeTable :=
  { table with
    nodes := Function.update table.nodes uuid none
    nodeList := table.nodeList.remove uuid }

theorem drop_eq (named : uuid ≠ "") :
    table.dropNodeRuntimeLocked uuid true = (table.without uuid).advanceCurrentNodeLocked uuid := by
  rw [dropNodeRuntimeLocked, if_neg named, without, if_pos rfl]

theorem Ok.mem_without (ok : table.Ok) :
    other ∈ (table.without uuid).nodeList.list ↔ other ∈ table.nodeList.list ∧ other ≠ uuid :=
  (ok.pool.remove_spec uuid).2 other

theorem drop_nodes (named : uuid ≠ "") :
    (table.dropNodeRuntimeLocked uuid true).nodes = Function.update table.nodes uuid none := by
  rw [drop_eq named, ((table.without uuid).advance_spec uuid).1, without]

theorem Ok.mem_drop (ok : table.Ok) (named : uuid ≠ "") :
    other ∈ (table.dropNodeRuntimeLocked uuid true).nodeList.list ↔
      other ∈ table.nodeList.list ∧ other ≠ uuid := by
  rw [drop_eq named, ((table.without uuid).advance_spec uuid).2.1, ok.mem_without]

theorem Ok.drop (ok : table.Ok) (named : uuid ≠ "") :
    (table.dropNodeRuntimeLocked uuid true).Ok where
  pool := by
    obtain ⟨-, sameList, sameIdx, -⟩ := (table.without uuid).advance_spec uuid
    rw [drop_eq named, Pool.Ok, sameList, sameIdx]
    exact ok.pool.remove uuid
  keys := by
    intro other
    rw [ok.mem_drop named, drop_nodes named, ok.keys]
    by_cases isSame : other = uuid
    · simp [isSame]
    · simp [isSame]

theorem Current.drop (current : table.Current) (ok : table.Ok) (named : uuid ≠ "") :
    (table.dropNodeRuntimeLocked uuid true).Current := by
  rw [drop_eq named]
  obtain ⟨-, -, -, moved⟩ := (table.without uuid).advance_spec uuid
  obtain ⟨stays, isOther⟩ | isCurrent := moved
  · have notLast : table.lastUUID ≠ uuid := isOther.resolve_left named
    rw [stays]
    refine ⟨?_, current.pointer⟩
    exact current.listed.imp_right fun isListed => ok.mem_without.mpr ⟨isListed, notLast⟩
  · exact isCurrent

end NodeTable

end DeepNps.Bridge
