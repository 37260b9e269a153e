import DeepNps.BridgeCheckNodeSafety

/-!
# The retry loop of `CheckNode` ends

Each round takes a node out of the list, uses up a grace check or has seen a node that
another goroutine took away, which bounds the sections of a call that runs alone.
-/

namespace DeepNps.Bridge

namespace Call

def grace (size : Nat) : Call → Nat
  | .picked _ | .start => size
  | .readRef (.online size) | .readLast (.online size) | .casRef (.online size) _ _
  | .onlineLookup size _ | .onlineStatus size _ => size
  | .readRef (.loop left) | .readLast (.loop left) | .casRef (.loop left) _ _
  | .loopPick left | .loopStore left _ _ | .lookup left _ | .status left _ _
  | .deferSize left _ | .deferNext left _ _ | .deferStore left _
  | .pruneMissing left _ | .pruneNode left _ _ => left
  | .returned _ => 0

def rank (size : Nat) : Call → Nat
  | .picked _ => 21
  | .start => 20
  | .readRef (.online _) => 19
  | .readLast (.online _) => 18
  | .casRef (.online _) _ _ => 17
  | .onlineLookup _ _ => 16
  | .onlineStatus _ _ => 15
  | .deferSize _ _ => size + 12
  | .deferNext _ _ attempts => attempts + 11
  | .deferStore _ _ => 10
  | .readRef (.loop _) => 9
  | .readLast (.loop _) => 8
  | .casRef (.loop _) _ _ => 7
  | .loopPick _ => 6
  | .loopStore _ _ _ => 5
  | .lookup _ _ => 4
  | .status _ _ _ => 3
  | .pruneMissing _ _ | .pruneNode _ _ _ => 2
  | .returned _ => 0

end Call

open Call

namespace NodeTable

variable {table after : NodeTable} {isOffline : NodeRef → Bool} {call next : Call} {uuid : String}

/-- Whether the node that a call works on has been taken away or has come back. -/
def stale (table : NodeTable) (isOffline : NodeRef → Bool) : Call → Nat
  | .lookup _ uuid =>
      if table.lookupNodeByUUID uuid = table.nodes uuid ∧ table.nodes uuid ≠ none then 0 else 1
  | .status _ uuid node => if uuid ≠ "" ∧ table.nodes uuid = some node then 0 else 1
  | .pruneMissing _ _ => 1
  | .pruneNode _ uuid node =>
      if uuid ≠ "" ∧ table.nodes uuid = some node ∧ isOffline node = true then 0 else 1
  | _ => 0

/-- The turns that the loop of a call can still make when the call runs alone. -/
def turns (table : NodeTable) (isOffline : NodeRef → Bool) (call : Call) : Nat :=
  table.nodeList.list.length + call.grace table.nodeList.list.length + table.stale isOffline call

/-- The sections that a call can still run alone. -/
def measure (table : NodeTable) (isOffline : NodeRef → Bool) (call : Call) : Nat :=
  table.turns isOffline call * (table.nodeList.list.length + 20) +
    call.rank table.nodeList.list.length

theorem measure_lt_of_rank (same : after.nodeList.list = table.nodeList.list)
    (turns : after.turns isOffline next ≤ table.turns isOffline call)
    (rank : next.rank table.nodeList.list.length < call.rank table.nodeList.list.length) :
    after.measure isOffline next < table.measure isOffline call := by
  rw [measure, measure, same]
  exact Nat.add_lt_add_of_le_of_lt (Nat.mul_le_mul_right _ turns) rank

theorem measure_lt_of_returned (same : after.nodeList.list = table.nodeList.list)
    {node : Option NodeRef} (runs : 0 < call.rank table.nodeList.list.length) :
    after.measure isOffline (.returned node) < table.measure isOffline call := by
  refine measure_lt_of_rank same ?_ runs
  simp only [turns, stale, grace, same]
  omega

theorem measure_lt_of_turns (shrinks : after.nodeList.list.length ≤ table.nodeList.list.length)
    (turns : after.turns isOffline next < table.turns isOffline call)
    (rank : next.rank after.nodeList.list.length < table.nodeList.list.length + 20) :
    after.measure isOffline next < table.measure isOffline call := by
  rw [measure, measure]
  calc after.turns isOffline next * (after.nodeList.list.length + 20) +
        next.rank after.nodeList.list.length
      < after.turns isOffline next * (table.nodeList.list.length + 20) +
        (table.nodeList.list.length + 20) :=
        Nat.add_lt_add_of_le_of_lt (Nat.mul_le_mul_left _ (Nat.add_le_add_right shrinks 20)) rank
    _ = (after.turns isOffline next + 1) * (table.nodeList.list.length + 20) :=
        (Nat.succ_mul _ _).symm
    _ ≤ table.turns isOffline call * (table.nodeList.list.length + 20) :=
        Nat.mul_le_mul_right _ turns
    _ ≤ _ := Nat.le_add_right _ _

theorem Ok.length_drop (ok : table.Ok) (named : uuid ≠ "")
    (isListed : uuid ∈ table.nodeList.list) :
    (table.dropNodeRuntimeLocked uuid true).nodeList.list.length + 1 =
      table.nodeList.list.length := by
  have perm : (table.dropNodeRuntimeLocked uuid true).nodeList.list.Perm
      (table.nodeList.list.erase uuid) := by
    rw [List.perm_ext_iff_of_nodup (ok.drop named).pool.nodup (ok.pool.nodup.erase uuid)]
    intro _
    rw [ok.mem_drop named, ok.pool.nodup.mem_erase_iff, and_comm]
  have nonempty := List.length_pos_of_mem isListed
  rw [perm.length_eq, List.length_erase_of_mem isListed]
  omega

theorem Ok.lookup_of_mem (ok : table.Ok) (named : uuid ≠ "")
    (trimmed : Text.trimSpace uuid = uuid) (isListed : uuid ∈ table.nodeList.list) :
    table.lookupNodeByUUID uuid = table.nodes uuid ∧ table.nodes uuid ≠ none := by
  rw [lookupNodeByUUID, trimmed, if_neg named]
  exact ⟨rfl, (ok.keys uuid).mp isListed⟩

end NodeTable

open NodeTable

namespace NodeSystem

variable {mode : SelectMode} {system next : NodeSystem} {index : Nat} {uuid : String} {call : Call}
  {left : Nat}

theorem Ok.turns_proceed (ok : system.Ok) (reader : Reader)
    (isCurrent : uuid = "" ∨ uuid ∈ system.table.nodeList.list) :
    system.table.turns system.isOffline (reader.proceed uuid) =
      system.table.turns system.isOffline (.readRef reader) := by
  cases reader with
  | online =>
    rw [Reader.proceed]
    split_ifs <;> rfl
  | loop =>
    rw [Reader.proceed]
    split_ifs with isEmpty
    · rfl
    · have isListed := isCurrent.resolve_left isEmpty
      have found := ok.table.lookup_of_mem isEmpty (ok.trimmed uuid isListed) isListed
      simp only [turns, stale, if_pos found]
      rfl

theorem rank_proceed (reader : Reader) (size : Nat) (uuid other : String) (named : other ≠ "") :
    (reader.proceed uuid).rank size < (casRef reader other named).rank size := by
  cases reader with
  | online | loop =>
    rw [Reader.proceed]
    split_ifs <;> simp [rank]

theorem rank_readers (reader : Reader) (size : Nat) (uuid : String) (named : uuid ≠ "") :
    (casRef reader uuid named).rank size < (readLast reader).rank size ∧
      (readLast reader).rank size < (readRef reader).rank size := by
  cases reader with
  | online | loop => simp [rank]

variable {connectGrace joinGrace : Bool} {after : Call} {table : NodeTable}

theorem Ok.measure_read (ok : system.Ok) (reader : Reader)
    (reads : call = .readRef reader ∨ call = .readLast reader ∨
      ∃ named, call = .casRef reader system.table.lastUUID named)
    (runs : system.runSection mode connectGrace joinGrace call = some (table, after)) :
    table.measure system.isOffline after < system.table.measure system.isOffline call := by
  have dash : "-" ≠ "" := by decide
  obtain ⟨casRank, lastRank⟩ := rank_readers reader system.table.nodeList.list.length "-" dash
  have turnsLast : system.table.turns system.isOffline (.readLast reader) =
      system.table.turns system.isOffline (.readRef reader) := by cases reader <;> rfl
  obtain rfl | rfl | ⟨named, rfl⟩ := reads
  · cases runs
    split
    · next uuid isRef =>
        obtain ⟨-, -, isListed⟩ := ok.current.ref_mem isRef
        refine measure_lt_of_rank rfl (ok.turns_proceed reader (.inr isListed)).le ?_
        exact (rank_proceed reader _ uuid "-" dash).trans (casRank.trans lastRank)
    · exact measure_lt_of_rank rfl turnsLast.le lastRank
  · cases runs
    split_ifs with named
    · refine measure_lt_of_rank rfl ?_ ?_
      · exact ((ok.turns_proceed reader (.inl rfl)).trans turnsLast.symm).le
      · exact (rank_proceed reader _ "" "-" dash).trans casRank
    · refine measure_lt_of_rank rfl ?_ ?_
      · cases reader <;> exact le_rfl
      · exact (rank_readers reader _ _ named).1
  · cases runs
    refine measure_lt_of_rank rfl ?_ (rank_proceed reader _ _ _ named)
    calc _ = system.table.turns system.isOffline (reader.proceed system.table.lastUUID) := rfl
      _ = system.table.turns system.isOffline (.readRef reader) :=
          ok.turns_proceed reader ok.current.listed
      _ ≤ _ := by cases reader <;> exact le_rfl

theorem Ok.fresh_lookup (ok : system.Ok) (named : uuid ≠ "")
    (isListed : uuid ∈ system.table.nodeList.list) (left : Nat) :
    system.table.stale system.isOffline (.lookup left uuid) = 0 := by
  have found := ok.table.lookup_of_mem named (ok.trimmed uuid isListed) isListed
  rw [stale, if_pos found]

theorem Ok.measure_loopStore (ok : system.Ok) {named : uuid ≠ ""}
    (held : uuid = "" ∨ uuid ∈ system.table.nodeList.list)
    (runs : system.runSection mode connectGrace joinGrace (.loopStore left uuid named) =
      some (table, after)) :
    table.measure system.isOffline after <
      system.table.measure system.isOffline (.loopStore left uuid named) := by
  cases runs
  by_cases isEmpty : system.table.lastUUID = ""
  · rw [if_pos isEmpty]
    refine measure_lt_of_rank rfl ?_ (by simp [rank])
    have fresh := ok.fresh_lookup named (held.resolve_left named) left
    exact Nat.add_le_add_left fresh.le _
  · rw [if_neg isEmpty]
    refine measure_lt_of_rank rfl ?_ (by simp [rank])
    have fresh := ok.fresh_lookup isEmpty (ok.current.listed.resolve_left isEmpty) left
    exact Nat.add_le_add_left fresh.le _

theorem measure_lookup (runs : system.runSection mode connectGrace joinGrace (.lookup left uuid) =
      some (table, after)) :
    table.measure system.isOffline after <
      system.table.measure system.isOffline (.lookup left uuid) := by
  cases runs
  cases found : system.table.lookupNodeByUUID uuid with
  | some node =>
    have named : uuid ≠ "" := by
      rintro rfl
      cases found
    refine measure_lt_of_rank rfl ?_ (by simp [rank])
    simp only [turns, stale, grace, found]
    by_cases isNode : system.table.nodes uuid = some node
    · simp [isNode, named]
    · simp [isNode, Ne.symm isNode]
  | none =>
    refine measure_lt_of_rank rfl ?_ (by simp [rank])
    simp only [turns, stale, grace, found]
    rw [if_neg]
    exact fun both => both.2 both.1.symm

theorem measure_status {node : NodeRef}
    (runs : system.runSection mode connectGrace joinGrace (.status left uuid node) =
      some (table, after)) :
    table.measure system.isOffline after <
      system.table.measure system.isOffline (.status left uuid node) := by
  cases runs
  by_cases offline : system.isOffline node = true
  · rw [if_neg (not_not.mpr offline)]
    split_ifs with defers last
    · exact measure_lt_of_returned rfl (by simp [rank])
    · refine measure_lt_of_turns le_rfl ?_ (by simp [rank])
      simp only [turns, stale, grace]
      omega
    · refine measure_lt_of_rank rfl ?_ (by simp [rank])
      simp [turns, stale, grace, offline]
  · rw [if_pos offline]
    exact measure_lt_of_returned rfl (by simp [rank])

theorem measure_pick {next : Call} (stale : system.table.stale system.isOffline call = 0)
    (fresh : ∀ table : NodeTable, table.stale system.isOffline next = 0)
    (grace : next.grace system.table.nodeList.list.length =
      call.grace system.table.nodeList.list.length)
    (rank : next.rank system.table.nodeList.list.length <
      call.rank system.table.nodeList.list.length) :
    (system.table.nextNodeUUIDByMode mode).2.measure system.isOffline next <
      system.table.measure system.isOffline call := by
  obtain ⟨same, -⟩ := system.table.nextNodeUUIDByMode_spec mode
  refine measure_lt_of_rank same.list ?_ rank
  rw [turns, turns, same.list, fresh, stale, grace]

theorem Ok.measure_pruneNode (ok : system.Ok) {node : NodeRef}
    (runs : system.runSection mode connectGrace joinGrace (.pruneNode left uuid node) =
      some (table, after)) :
    table.measure system.isOffline after <
      system.table.measure system.isOffline (.pruneNode left uuid node) := by
  cases runs
  obtain ⟨same, notNode⟩ | ⟨dropped, named, isNode, offline⟩ :=
    system.table.closeAndRemove_cases system.isOffline uuid node
  · rw [same]
    refine measure_lt_of_turns le_rfl ?_ (by simp [rank])
    simp only [turns, stale, grace, if_neg notNode]
    omega
  · rw [dropped]
    have isListed : uuid ∈ system.table.nodeList.list := by simp [ok.table.keys, isNode]
    have shorter := ok.table.length_drop named isListed
    refine measure_lt_of_turns (by omega) ?_ (by simp [rank])
    simp only [turns, stale, grace]
    omega

theorem Ok.measure_lt (ok : system.Ok) (isCall : system.calls[index]? = some call)
    (orderly : system.Orderly (.resume index connectGrace joinGrace))
    (runs : system.runSection mode connectGrace joinGrace call = some (table, after)) :
    table.measure system.isOffline after < system.table.measure system.isOffline call := by
  have callOrderly : system.CallOrderly call := orderly call isCall
  cases call with
  | picked | deferStore =>
    cases runs
    exact measure_lt_of_rank rfl le_rfl (by simp [rank])
  | start =>
    cases runs
    split_ifs
    · exact measure_lt_of_returned rfl (by simp [rank])
    · exact measure_lt_of_rank rfl le_rfl (by simp [rank])
  | readRef reader => exact ok.measure_read reader (.inl rfl) runs
  | readLast reader => exact ok.measure_read reader (.inr (.inl rfl)) runs
  | casRef reader uuid named =>
    obtain rfl : system.table.lastUUID = uuid := callOrderly
    exact ok.measure_read reader (.inr (.inr ⟨named, rfl⟩)) runs
  | onlineLookup =>
    cases runs
    split
    · exact measure_lt_of_rank rfl le_rfl (by simp [rank])
    · exact measure_lt_of_rank rfl le_rfl (by simp [rank])
  | onlineStatus =>
    cases runs
    split_ifs
    · exact measure_lt_of_rank rfl le_rfl (by simp [rank])
    · exact measure_lt_of_returned rfl (by simp [rank])
  | loopPick =>
    cases runs
    obtain ⟨same, -⟩ := system.table.nextNodeUUIDByMode_spec mode
    split_ifs
    · exact measure_lt_of_returned same.list (by simp [rank])
    · exact measure_pick rfl (fun _ => rfl) rfl (by simp [rank])
  | loopStore _ uuid =>
    exact ok.measure_loopStore (ok.held _ (List.mem_of_getElem? isCall) uuid rfl) runs
  | lookup => exact measure_lookup runs
  | status => exact measure_status runs
  | deferSize =>
    cases runs
    split_ifs
    · exact measure_lt_of_rank rfl le_rfl (by simp [rank])
    · exact measure_lt_of_rank rfl le_rfl (by simp [rank, Pool.size])
  | deferNext _ _ attempts =>
    cases attempts with
    | zero =>
      cases runs
      exact measure_lt_of_rank rfl le_rfl (by simp [rank])
    | succ =>
      cases runs
      split_ifs
      · exact measure_pick rfl (fun _ => rfl) rfl (by simp [rank])
      · exact measure_pick rfl (fun _ => rfl) rfl (by simp [rank])
  | pruneMissing =>
    cases runs
    rw [ok.table.pruneMissing]
    refine measure_lt_of_turns le_rfl ?_ (by simp [rank])
    simp [turns, stale, grace]
  | pruneNode => exact ok.measure_pruneNode runs
  | returned => cases runs

end NodeSystem

end DeepNps.Bridge
