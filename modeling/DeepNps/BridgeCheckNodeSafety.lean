import DeepNps.BridgeCheckNode

/-!
# The current node stays in the list

The current id stays in the list as long as no node is removed between the moment a call
picks its id and the moment it stores it, and the pointer is not filled with an id that
has been replaced meanwhile.
-/

namespace DeepNps.Bridge

open List

def Call.holds : Call → Option String
  | .picked uuid | .loopStore _ uuid _ | .deferStore _ uuid => some uuid
  | _ => none

namespace NodeTable

variable {table after : NodeTable} {uuid other : String} {node : NodeRef}

structure SameNodes (table after : NodeTable) : Prop where
  nodes : after.nodes = table.nodes
  list : after.nodeList.list = table.nodeList.list
  idx : after.nodeList.idx = table.nodeList.idx
  lastUUID : after.lastUUID = table.lastUUID
  lastUUIDRef : after.lastUUIDRef = table.lastUUIDRef

theorem nextNodeUUIDByMode_spec (table : NodeTable) (mode : SelectMode) :
    SameNodes table (table.nextNodeUUIDByMode mode).2 ∧
      ((table.nextNodeUUIDByMode mode).1 = "" ∨
        (table.nextNodeUUIDByMode mode).1 ∈ table.nodeList.list) := by
  have picks {choice : Option String × Pool String} (chooses : table.nodeList.Chooses choice) :
      SameNodes table { table with nodeList := choice.2 } ∧
        (choice.1.getD "" = "" ∨ choice.1.getD "" ∈ table.nodeList.list) := by
    refine ⟨⟨rfl, chooses.list, chooses.idx, rfl, rfl⟩, ?_⟩
    cases isChoice : choice.1 with
    | none => exact .inl rfl
    | some uuid => exact .inr (chooses.isMember uuid isChoice)
  cases mode with
  | random => exact picks table.nodeList.random_chooses
  | primary | roundRobin => exact picks table.nodeList.next_chooses

theorem Ok.of_same (ok : table.Ok) (same : SameNodes table after) : after.Ok where
  pool := by
    rw [Pool.Ok, same.list, same.idx]
    exact ok.pool
  keys := by
    rw [same.list, same.nodes]
    exact ok.keys

theorem Current.of_same (current : table.Current) (same : SameNodes table after) :
    after.Current where
  listed := by
    rw [same.lastUUID, same.list]
    exact current.listed
  pointer := by
    rw [same.lastUUIDRef, same.lastUUID]
    exact current.pointer

theorem Current.ref_mem (current : table.Current) (isRef : table.lastUUIDRef = some uuid) :
    uuid ≠ "" ∧ uuid = table.lastUUID ∧ uuid ∈ table.nodeList.list := by
  have pointer := current.pointer
  rw [isRef] at pointer
  split_ifs at pointer with isEmpty
  cases pointer
  exact ⟨isEmpty, rfl, current.listed.resolve_left isEmpty⟩

theorem Ok.pruneMissing (ok : table.Ok) (uuid : String) :
    table.pruneMissingNodeUUID uuid = (false, table) := by
  rw [pruneMissingNodeUUID, if_neg]
  rintro ⟨-, isMissing, isListed⟩
  rw [ok.pool.has_iff, ok.keys] at isListed
  exact isListed isMissing

theorem Ok.addNode (ok : table.Ok) (isOnline : NodeRef → Bool) (uuid : String) (node : NodeRef)
    (baseVer : Int) :
    (table.addNode isOnline uuid node baseVer).Ok ∧
      ∀ other, other ∈ (table.addNode isOnline uuid node baseVer).nodeList.list ↔
        other = uuid ∨ other ∈ table.nodeList.list := by
  rw [NodeTable.addNode]
  split
  · next existing isExisting =>
      have isListed : uuid ∈ table.nodeList.list := by simp [ok.keys, isExisting]
      have mem (other : String) : other ∈ table.nodeList.list ↔
          other = uuid ∨ other ∈ table.nodeList.list := by
        constructor
        · exact .inr
        · rintro (rfl | isOther)
          · exact isListed
          · exact isOther
      split_ifs
      · exact ⟨ok, mem⟩
      · exact ⟨ok.assign uuid, mem⟩
  · refine ⟨Ok.assign ⟨ok.pool.add uuid, ?_⟩ uuid, fun other => ok.pool.mem_add⟩
    intro other
    rw [ok.pool.mem_add, ok.keys]
    by_cases isSame : other = uuid
    · simp [isSame]
    · simp [isSame]

theorem Current.addNode (current : table.Current) (ok : table.Ok) (isOnline : NodeRef → Bool)
    (uuid : String) (node : NodeRef) (baseVer : Int) :
    (table.addNode isOnline uuid node baseVer).Current := by
  have isListed := ((ok.addNode isOnline uuid node baseVer).2 uuid).mpr (.inl rfl)
  rw [NodeTable.addNode] at isListed ⊢
  split
  · next existing isExisting =>
      simp only [isExisting] at isListed
      split_ifs at isListed ⊢
      · exact current
      · exact current_assign (.inr isListed)
  · next isNew =>
      simp only [isNew] at isListed
      exact current_assign (.inr isListed)

theorem closeAndRemove_cases (table : NodeTable) (isOffline : NodeRef → Bool) (uuid : String)
    (node : NodeRef) :
    ((table.closeAndRemoveNodeIfCurrent isOffline uuid node).2 = table ∧
        ¬ (uuid ≠ "" ∧ table.nodes uuid = some node ∧ isOffline node = true)) ∨
      ((table.closeAndRemoveNodeIfCurrent isOffline uuid node).2 =
          table.dropNodeRuntimeLocked uuid true ∧
        uuid ≠ "" ∧ table.nodes uuid = some node ∧ isOffline node = true) := by
  rw [closeAndRemoveNodeIfCurrent]
  split_ifs with applies
  · exact .inr ⟨rfl, applies⟩
  · exact .inl ⟨rfl, applies⟩

end NodeTable

namespace NodeSystem

variable {mode : SelectMode} {system next : NodeSystem} {index : Nat}

/-- The node may be removed: it is not, or no call is about to store its id. -/
def Removable (system : NodeSystem) (uuid : String) (node : NodeRef) : Prop :=
  system.table.nodes uuid = some node → system.isOffline node = true →
    ∀ call ∈ system.calls, call.holds ≠ some uuid

/-- The pointer is filled only if the id read is still the current one, and a node is removed as
above. -/
def CallOrderly (system : NodeSystem) : Call → Prop
  | .casRef _ uuid _ => system.table.lastUUID = uuid
  | .pruneNode _ uuid node => system.Removable uuid node
  | _ => True

/-- The condition on the steps: besides, the ids of nodes are trimmed. -/
def Orderly (system : NodeSystem) : NodeEvent → Prop
  | .addNode uuid _ _ => Text.trimSpace uuid = uuid
  | .removeNode uuid node => system.Removable uuid node
  | .resume index _ _ => ∀ call ∈ system.calls[index]?, system.CallOrderly call
  | _ => True

instance (system : NodeSystem) (uuid : String) (node : NodeRef) :
    Decidable (system.Removable uuid node) :=
  inferInstanceAs (Decidable (_ → _ → _))

instance (system : NodeSystem) : (call : Call) → Decidable (system.CallOrderly call)
  | .casRef _ uuid _ => inferInstanceAs (Decidable (system.table.lastUUID = uuid))
  | .pruneNode _ uuid node => inferInstanceAs (Decidable (system.Removable uuid node))
  | .picked _ | .start | .readRef _ | .readLast _ | .onlineLookup .. | .onlineStatus ..
  | .loopPick _ | .loopStore .. | .lookup .. | .status .. | .deferSize .. | .deferNext ..
  | .deferStore .. | .pruneMissing .. | .returned _ => .isTrue trivial

instance (system : NodeSystem) : (event : NodeEvent) → Decidable (system.Orderly event)
  | .addNode uuid _ _ => inferInstanceAs (Decidable (Text.trimSpace uuid = uuid))
  | .removeNode uuid node => inferInstanceAs (Decidable (system.Removable uuid node))
  | .resume index _ _ =>
      inferInstanceAs (Decidable (∀ call ∈ system.calls[index]?, system.CallOrderly call))
  | .connections .. | .pruneMissingNode _ | .getNode | .checkNode => .isTrue trivial

structure Ok (system : NodeSystem) : Prop where
  table : system.table.Ok
  current : system.table.Current
  trimmed : ∀ uuid ∈ system.table.nodeList.list, Text.trimSpace uuid = uuid
  held : ∀ call ∈ system.calls, ∀ uuid ∈ call.holds, uuid = "" ∨ uuid ∈ system.table.nodeList.list

variable {uuid : String} {table : NodeTable} {after : Call}

theorem new_ok (trimmed : Text.trimSpace uuid = uuid) (node : NodeRef) : (new uuid node).Ok where
  table := NodeTable.new_ok uuid node
  current := NodeTable.current_assign (.inr (Pool.new_ok.mem_add.mpr (.inl rfl)))
  trimmed := by
    intro other isListed
    have isNode : other = uuid ∨ other ∈ (Pool.new : Pool String).list :=
      Pool.new_ok.mem_add.mp isListed
    obtain rfl | isOther := isNode
    · exact trimmed
    · cases isOther
  held := nofun

structure SectionOk (system : NodeSystem) (table : NodeTable) (after : Call) : Prop where
  ok : table.Ok
  current : table.Current
  held : ∀ uuid ∈ after.holds, uuid = "" ∨ uuid ∈ table.nodeList.list
  shrinks : ∀ uuid ∈ table.nodeList.list, uuid ∈ system.table.nodeList.list
  kept : ∀ call ∈ system.calls, ∀ uuid ∈ call.holds, uuid ∈ system.table.nodeList.list →
    uuid ∈ table.nodeList.list

theorem Ok.sectionOk_of_same (ok : system.Ok) (same : NodeTable.SameNodes system.table table)
    (held : ∀ uuid ∈ after.holds, uuid = "" ∨ uuid ∈ system.table.nodeList.list) :
    system.SectionOk table after where
  ok := ok.table.of_same same
  current := ok.current.of_same same
  held := by
    rw [same.list]
    exact held
  shrinks := by
    rw [same.list]
    exact fun _ isListed => isListed
  kept := by
    rw [same.list]
    exact fun _ _ _ _ isListed => isListed

theorem Ok.sectionOk_of_assign (ok : system.Ok)
    (isListed : uuid = "" ∨ uuid ∈ system.table.nodeList.list) (held : after.holds = none) :
    system.SectionOk (system.table.assignCurrentNodeUUID uuid) after where
  ok := ok.table.assign uuid
  current := NodeTable.current_assign isListed
  held := by simp [held]
  shrinks := fun _ isListed => isListed
  kept := fun _ _ _ _ isListed => isListed

theorem holds_proceed (reader : Reader) (uuid : String) : (reader.proceed uuid).holds = none := by
  cases reader with
  | online | loop =>
    rw [Reader.proceed]
    split_ifs <;> rfl

section

variable (ok : system.Ok)

include ok

theorem Ok.sectionOk_of_none (held : after.holds = none) : system.SectionOk system.table after :=
  ok.sectionOk_of_same ⟨rfl, rfl, rfl, rfl, rfl⟩ (by simp [held])

theorem Ok.sectionOk_of_remove {node : NodeRef} (removable : system.Removable uuid node)
    (held : after.holds = none) :
    system.SectionOk (system.table.closeAndRemoveNodeIfCurrent system.isOffline uuid node).2
      after := by
  obtain ⟨same, -⟩ | ⟨dropped, named, isNode, offline⟩ :=
    system.table.closeAndRemove_cases system.isOffline uuid node
  · rw [same]
    exact ok.sectionOk_of_none held
  · rw [dropped]
    refine ⟨ok.table.drop named, ok.current.drop ok.table named, by simp [held], ?_, ?_⟩
    · intro _ isListed
      exact ((ok.table.mem_drop named).mp isListed).1
    · intro call isCall _ isHeld isListed
      refine (ok.table.mem_drop named).mpr ⟨isListed, ?_⟩
      rintro rfl
      exact removable isNode offline call isCall isHeld

theorem Ok.pick (mode : SelectMode) :
    Text.trimSpace (system.table.nextNodeUUIDByMode mode).1 = "" ∨
      Text.trimSpace (system.table.nextNodeUUIDByMode mode).1 ∈ system.table.nodeList.list := by
  obtain ⟨-, isEmpty | isListed⟩ := system.table.nextNodeUUIDByMode_spec mode
  · rw [isEmpty]
    exact .inl rfl
  · rw [ok.trimmed _ isListed]
    exact .inr isListed

theorem Ok.runSection {connectGrace joinGrace : Bool} {call : Call}
    (isCall : system.calls[index]? = some call)
    (orderly : system.Orderly (.resume index connectGrace joinGrace))
    (runs : system.runSection mode connectGrace joinGrace call = some (table, after)) :
    system.SectionOk table after := by
  have isMember : call ∈ system.calls := mem_of_getElem? isCall
  have callOrderly : system.CallOrderly call := orderly call isCall
  cases call with
  | picked uuid | deferStore _ uuid =>
    cases runs
    exact ok.sectionOk_of_assign (ok.held _ isMember uuid rfl) rfl
  | start | onlineStatus | status =>
    cases runs
    apply ok.sectionOk_of_none
    split_ifs <;> rfl
  | readRef reader =>
    cases runs
    apply ok.sectionOk_of_none
    split
    · exact holds_proceed reader _
    · rfl
  | readLast reader =>
    cases runs
    apply ok.sectionOk_of_none
    split_ifs
    · exact holds_proceed reader _
    · rfl
  | casRef _ uuid named =>
    cases runs
    -- the id is still the current one, so the pointer holds it already
    have notEmpty : system.table.lastUUIDRef ≠ none := by
      have isCurrent : system.table.lastUUID = uuid := callOrderly
      simp [ok.current.pointer, isCurrent, named]
    refine ok.sectionOk_of_same ⟨rfl, rfl, rfl, rfl, ?_⟩ (by simp [holds_proceed])
    simp only [if_neg notEmpty]
  | onlineLookup | lookup =>
    cases runs
    apply ok.sectionOk_of_none
    split <;> rfl
  | loopPick =>
    cases runs
    obtain ⟨same, isListed⟩ := system.table.nextNodeUUIDByMode_spec mode
    refine ok.sectionOk_of_same same ?_
    intro _ isHeld
    split_ifs at isHeld
    · cases isHeld
    · cases isHeld
      exact isListed
  | loopStore _ uuid =>
    cases runs
    split_ifs
    · exact ok.sectionOk_of_assign (ok.held _ isMember uuid rfl) rfl
    · exact ok.sectionOk_of_none rfl
  | deferSize =>
    cases runs
    refine ok.sectionOk_of_same ⟨rfl, rfl, rfl, rfl, rfl⟩ ?_
    intro _ isHeld
    split_ifs at isHeld
    · cases isHeld
      exact .inl rfl
    · cases isHeld
  | deferNext _ exclude attempts =>
    cases attempts with
    | zero =>
      cases runs
      refine ok.sectionOk_of_same ⟨rfl, rfl, rfl, rfl, rfl⟩ ?_
      intro _ isHeld
      cases isHeld
      rw [NodeTable.firstDistinctNodeUUID]
      cases isFound : (system.table.nodeList.list.map Text.trimSpace).find?
          fun uuid => uuid ≠ "" ∧ uuid ≠ exclude with
      | none => exact .inl rfl
      | some =>
        obtain ⟨other, isListed, rfl⟩ := mem_map.mp (mem_of_find?_eq_some isFound)
        exact .inr (by rwa [Option.getD_some, ok.trimmed other isListed])
    | succ =>
      cases runs
      refine ok.sectionOk_of_same (system.table.nextNodeUUIDByMode_spec mode).1 ?_
      intro _ isHeld
      split_ifs at isHeld
      · cases isHeld
        exact ok.pick mode
      · cases isHeld
  | pruneMissing =>
    cases runs
    rw [ok.table.pruneMissing]
    exact ok.sectionOk_of_none rfl
  | pruneNode =>
    cases runs
    exact ok.sectionOk_of_remove callOrderly rfl
  | returned => cases runs

theorem Ok.of_section (sectionOk : system.SectionOk table after) {calls : List Call}
    (origin : ∀ call ∈ calls, call ∈ system.calls ∨ call = after) :
    ({ system with table := table, calls := calls } : NodeSystem).Ok where
  table := sectionOk.ok
  current := sectionOk.current
  trimmed := fun uuid isListed => ok.trimmed uuid (sectionOk.shrinks uuid isListed)
  held := by
    intro call isCall uuid isHeld
    obtain isOld | rfl := origin call isCall
    · exact (ok.held call isOld uuid isHeld).imp_right (sectionOk.kept call isOld uuid isHeld)
    · exact sectionOk.held uuid isHeld

theorem Ok.step {event : NodeEvent} (orderly : system.Orderly event)
    (isNext : system.step mode event = some next) : next.Ok := by
  have started : system.SectionOk system.table .start := ok.sectionOk_of_none rfl
  cases event with
  | addNode uuid node baseVer =>
    cases isNext
    obtain ⟨tableOk, mem⟩ := ok.table.addNode system.isOnline uuid node baseVer
    refine ⟨tableOk, ok.current.addNode ok.table _ uuid node baseVer, ?_, ?_⟩
    · intro other isListed
      obtain rfl | isListed := (mem other).mp isListed
      · exact orderly
      · exact ok.trimmed other isListed
    · intro call isCall other isHeld
      exact (ok.held call isCall other isHeld).imp_right fun isListed =>
        (mem other).mpr (.inr isListed)
  | connections =>
    cases isNext
    exact ⟨ok.table, ok.current, ok.trimmed, ok.held⟩
  | removeNode uuid node =>
    cases isNext
    have removed : system.SectionOk
        (system.table.closeAndRemoveNodeIfCurrent system.isOffline uuid node).2 .start :=
      ok.sectionOk_of_remove orderly rfl
    exact ok.of_section removed fun _ isCall => .inl isCall
  | pruneMissingNode =>
    cases isNext
    rw [ok.table.pruneMissing]
    exact ok
  | getNode =>
    rw [NodeSystem.step] at isNext
    split_ifs at isNext
    · cases isNext
      exact ok.of_section started (by simp)
    · cases isNext
      obtain ⟨same, isListed⟩ := system.table.nextNodeUUIDByMode_spec mode
      have picked : system.SectionOk (system.table.nextNodeUUIDByMode mode).2
          (.picked (system.table.nextNodeUUIDByMode mode).1) := by
        refine ok.sectionOk_of_same same ?_
        intro _ isHeld
        cases isHeld
        exact isListed
      refine ok.of_section picked ?_
      intro _ isCall
      exact (mem_append.mp isCall).imp_right mem_singleton.mp
  | checkNode =>
    cases isNext
    exact ok.of_section started (by simp)
  | resume =>
    simp only [NodeSystem.step, Option.bind_eq_some_iff, Option.map_eq_some_iff] at isNext
    obtain ⟨call, isCall, ⟨table, after⟩, runs, rfl⟩ := isNext
    refine ok.of_section (ok.runSection isCall orderly runs) ?_
    exact fun other isOther => mem_or_eq_of_mem_set isOther

end

end NodeSystem

end DeepNps.Bridge
