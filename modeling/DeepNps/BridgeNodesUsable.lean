import DeepNps.BridgeCheckNodeReturns
import Mathlib.Data.List.Perm.Subperm

/-!
# The node table stays usable

The sections that a call of `CheckNode` runs are bounded by what it could do when it
began and by the steps that others take meanwhile.
-/

namespace DeepNps.Bridge

open Runs Option Nat

def NodeEvent.isSection (index : Nat) : NodeEvent → Bool
  | .resume other _ _ => other = index
  | _ => false

namespace NodeTable

variable {table after : NodeTable} {isOffline isOffline' : NodeRef → Bool}

def disturbed (measure : Nat) : Nat := (measure + 3) * (measure + 21) + measure + 1

def sections : (others measure : Nat) → Nat
  | 0, measure => measure
  | others + 1, measure => measure + sections others (disturbed measure)

variable {first second : Nat}

theorem disturbed_mono (le : first ≤ second) : disturbed first ≤ disturbed second := by
  have product : (first + 3) * (first + 21) ≤ (second + 3) * (second + 21) :=
    Nat.mul_le_mul (Nat.add_le_add_right le 3) (Nat.add_le_add_right le 21)
  simp only [disturbed]
  omega

theorem sections_lt (others : Nat) (lt : first < second) :
    sections others first < sections others second := by
  induction others generalizing first second with
  | zero => exact lt
  | succ others ih =>
    have rest : sections others (disturbed first) ≤ sections others (disturbed second) := by
      obtain isLess | isSame := (disturbed_mono lt.le).lt_or_eq
      · exact (ih isLess).le
      · rw [isSame]
    exact Nat.add_lt_add_of_lt_of_le lt rest

theorem sections_le (others : Nat) (le : first ≤ second) :
    sections others first ≤ sections others second := by
  obtain isLess | rfl := le.lt_or_eq
  · exact (sections_lt others isLess).le
  · exact le_rfl

theorem stale_le (table : NodeTable) (isOffline : NodeRef → Bool) (call : Call) :
    table.stale isOffline call ≤ 1 := by
  cases call with
  | lookup | status | pruneNode =>
    rw [stale]
    split_ifs <;> omega
  | pruneMissing => exact le_rfl
  | _ => exact zero_le 1

theorem grace_le (call : Call) {size size' : Nat} (le : size' ≤ size + 1) :
    call.grace size' ≤ call.grace size + 1 := by
  cases call with
  | picked | start => exact le
  | readRef reader | readLast reader | casRef reader => cases reader <;> exact le_add_right _ 1
  | _ => exact le_add_right _ 1

theorem rank_le (call : Call) {size size' : Nat} (le : size' ≤ size + 1) :
    call.rank size' ≤ call.rank size + 1 := by
  cases call with
  | deferSize =>
    simp only [Call.rank]
    omega
  | readRef reader | readLast reader | casRef reader => cases reader <;> exact le_add_right _ 1
  | _ => exact le_add_right _ 1

theorem measure_disturbed (call : Call)
    (le : after.nodeList.list.length ≤ table.nodeList.list.length + 1) :
    after.measure isOffline' call ≤ disturbed (table.measure isOffline call) := by
  have turnsLe : after.turns isOffline' call ≤ table.turns isOffline call + 3 := by
    have staleLe := after.stale_le isOffline' call
    have graceLe := grace_le call le
    simp only [turns]
    omega
  have rankLe := rank_le call le
  have turnsMeasure : table.turns isOffline call ≤ table.measure isOffline call :=
    (Nat.le_mul_of_pos_right _ (by omega)).trans (Nat.le_add_right _ _)
  have sizeMeasure : table.nodeList.list.length ≤ table.measure isOffline call := by
    refine le_trans ?_ turnsMeasure
    simp only [turns]
    omega
  have rankMeasure : call.rank table.nodeList.list.length ≤ table.measure isOffline call :=
    le_add_left _ _
  calc after.measure isOffline' call
      ≤ (table.turns isOffline call + 3) * (table.nodeList.list.length + 1 + 20) +
          (call.rank table.nodeList.list.length + 1) :=
        Nat.add_le_add (Nat.mul_le_mul turnsLe (Nat.add_le_add_right le 20)) rankLe
    _ ≤ (table.measure isOffline call + 3) * (table.measure isOffline call + 21) +
          (table.measure isOffline call + 1) :=
        Nat.add_le_add
          (Nat.mul_le_mul (Nat.add_le_add_right turnsMeasure 3) (by omega))
          (Nat.add_le_add_right rankMeasure 1)

end NodeTable

open NodeTable

namespace NodeSystem

variable {mode : SelectMode} {system next : NodeSystem} {index : Nat} {call : Call}

theorem Ok.step_other (ok : system.Ok) {event : NodeEvent} (orderly : system.Orderly event)
    (isCall : system.calls[index]? = some call) (other : event.isSection index = false)
    (isNext : system.step mode event = some next) :
    next.calls[index]? = some call ∧
      next.table.nodeList.list.length ≤ system.table.nodeList.list.length + 1 := by
  have appended (after : Call) : (system.calls ++ [after])[index]? = some call := by
    obtain ⟨inside, -⟩ := List.getElem?_eq_some_iff.mp isCall
    rw [List.getElem?_append_left inside, isCall]
  cases event with
  | addNode uuid node baseVer =>
    cases isNext
    refine ⟨isCall, ?_⟩
    rw [addNode]
    split
    · split_ifs <;> exact le_succ _
    · exact system.table.nodeList.length_add_le uuid
  | connections =>
    cases isNext
    exact ⟨isCall, le_succ _⟩
  | removeNode uuid node =>
    cases isNext
    refine ⟨isCall, ?_⟩
    obtain ⟨same, -⟩ | ⟨dropped, named, isNode, -⟩ :=
      system.table.closeAndRemove_cases system.isOffline uuid node
    · rw [same]
      exact le_succ _
    · have isListed : uuid ∈ system.table.nodeList.list := by simp [ok.table.keys, isNode]
      have shorter := ok.table.length_drop named isListed
      dsimp only
      rw [dropped]
      omega
  | pruneMissingNode =>
    cases isNext
    rw [ok.table.pruneMissing]
    exact ⟨isCall, le_succ _⟩
  | getNode =>
    rw [NodeSystem.step] at isNext
    split_ifs at isNext
    · cases isNext
      exact ⟨appended .start, le_succ _⟩
    · cases isNext
      obtain ⟨same, -⟩ := system.table.nextNodeUUIDByMode_spec mode
      exact ⟨appended _, (congrArg List.length same.list).le.trans (le_succ _)⟩
  | checkNode =>
    cases isNext
    exact ⟨appended .start, le_succ _⟩
  | resume running =>
    simp only [NodeSystem.step, bind_eq_some_iff, map_eq_some_iff] at isNext
    obtain ⟨runningCall, isRunning, ⟨table, after⟩, runs, rfl⟩ := isNext
    have distinct : running ≠ index := of_decide_eq_false other
    refine ⟨?_, ?_⟩
    · rw [List.getElem?_set_ne distinct, isCall]
    · have sectionOk := ok.runSection isRunning orderly runs
      have subperm := List.subperm_of_subset sectionOk.ok.pool.nodup sectionOk.shrinks
      exact subperm.length_le.trans (le_succ _)

theorem Ok.step_section (ok : system.Ok) {event : NodeEvent} (orderly : system.Orderly event)
    (isCall : system.calls[index]? = some call) (own : event.isSection index = true)
    (isNext : system.step mode event = some next) :
    ∃ after, next.calls[index]? = some after ∧
      next.table.measure next.isOffline after < system.table.measure system.isOffline call := by
  cases event with
  | resume running =>
    obtain rfl : running = index := of_decide_eq_true own
    simp only [NodeSystem.step, isCall, bind_some, map_eq_some_iff] at isNext
    obtain ⟨⟨table, after⟩, runs, rfl⟩ := isNext
    refine ⟨after, ?_, ok.measure_lt isCall orderly runs⟩
    obtain ⟨inside, -⟩ := List.getElem?_eq_some_iff.mp isCall
    exact List.getElem?_set_self inside
  | _ => cases own

theorem Ok.sections_bounded (ok : system.Ok) (isCall : system.calls[index]? = some call)
    {events : List NodeEvent} (orderly : Runs.Meets (NodeSystem.step mode) Orderly system events)
    {last : NodeSystem} (reaches : Runs.execute (NodeSystem.step mode) system events = some last) :
    events.countP (·.isSection index) ≤
      NodeTable.sections (events.countP fun event => !event.isSection index)
        (system.table.measure system.isOffline call) := by
  induction events generalizing system call with
  | nil => exact zero_le _
  | cons event events ih =>
    obtain ⟨next, isNext, rest⟩ := execute_cons_eq_some.mp reaches
    have nextOk := ok.step orderly.1 isNext
    have restOrderly := orderly.2 next isNext
    cases own : event.isSection index with
    | true =>
      obtain ⟨_, isAfter, less⟩ := ok.step_section orderly.1 isCall own isNext
      have bound := ih nextOk isAfter restOrderly rest
      have smaller := sections_lt (events.countP fun event => !event.isSection index) less
      simp only [List.countP_cons, own, Bool.not_true, if_true, Bool.false_eq_true, if_false,
        add_zero]
      omega
    | false =>
      obtain ⟨isAfter, longer⟩ := ok.step_other orderly.1 isCall own isNext
      have bound := ih nextOk isAfter restOrderly rest
      have larger := sections_le (events.countP fun event => !event.isSection index)
        (measure_disturbed call longer :
          next.table.measure next.isOffline call ≤
            disturbed (system.table.measure system.isOffline call))
      simp only [List.countP_cons, own, Bool.not_false, if_true, Bool.false_eq_true, if_false,
        add_zero, sections]
      omega

/-- The list is that of the nodes, the current id is empty or in it, and every call that has been
started returns. -/
structure Usable (mode : SelectMode) (system : NodeSystem) : Prop where
  nodup : system.table.nodeList.list.Nodup
  keys : ∀ uuid, uuid ∈ system.table.nodeList.list ↔ system.table.nodes uuid ≠ none
  current : system.table.lastUUID = "" ∨ system.table.lastUUID ∈ system.table.nodeList.list
  pointer : ∀ uuid, system.table.lastUUIDRef = some uuid → uuid ∈ system.table.nodeList.list
  enabled : ∀ index call, system.calls[index]? = some call → (∀ node, call ≠ .returned node) →
    ∀ connectGrace joinGrace, (system.step mode (.resume index connectGrace joinGrace)).isSome
  bounded : ∀ index call, system.calls[index]? = some call →
    ∀ events last, Runs.Meets (step mode) Orderly system events →
      Runs.execute (step mode) system events = some last →
      events.countP (·.isSection index) ≤
        NodeTable.sections (events.countP fun event => !event.isSection index)
          (system.table.measure system.isOffline call)

/-- In every orderly run the node table stays usable. -/
theorem nodes_usable {uuid : String} (trimmed : Text.trimSpace uuid = uuid) {node : NodeRef}
    {events : List NodeEvent} (orderly : Runs.Meets (step mode) Orderly (new uuid node) events)
    (reaches : Runs.execute (step mode) (new uuid node) events = some system) :
    system.Usable mode := by
  have ok : system.Ok :=
    invariant_of_meets _ (fun _ _ _ holds orderly isNext => holds.step orderly isNext)
      (new_ok trimmed node) orderly reaches
  exact
    { nodup := ok.table.pool.nodup
      keys := ok.table.keys
      current := ok.current.listed
      pointer := fun _ isRef => (ok.current.ref_mem isRef).2.2
      enabled := by
        intro _ call isCall running connectGrace joinGrace
        have runs : (system.runSection mode connectGrace joinGrace call).isSome := by
          cases call with
          | returned node => exact absurd rfl (running node)
          | deferNext _ _ attempts => cases attempts <;> rfl
          | _ => rfl
        simp [NodeSystem.step, isCall, runs]
      bounded := fun _ _ isCall _ _ orderly reaches => ok.sections_bounded isCall orderly reaches }

def switchesNode : List NodeEvent :=
  [.addNode "b" 1 6, .connections 0 false true, .getNode] ++
    List.replicate 12 (.resume 0 false false)

theorem nodes_usable_switch :
    ∃ system, Runs.execute (step .roundRobin) (new "a" 0) switchesNode = some system ∧
      system.calls = [.returned (some 1)] ∧ system.Usable .roundRobin := by
  obtain ⟨system, reaches, isReturned⟩ :
      ∃ system, execute (step .roundRobin) (new "a" 0) switchesNode = some system ∧
        system.calls = [.returned (some 1)] :=
    exists_of_any (by decide +kernel)
  exact ⟨system, reaches, isReturned, nodes_usable (by decide) (by decide +kernel) reaches⟩

theorem step_resume {connectGrace joinGrace : Bool} {after : Call} {table : NodeTable}
    (isCall : system.calls[index]? = some call)
    (runs : system.runSection mode connectGrace joinGrace call = some (table, after)) :
    system.step mode (.resume index connectGrace joinGrace) =
      some { system with table := table, calls := system.calls.set index after } := by
  rw [NodeSystem.step, isCall, bind_some, runs, map_some]

theorem missing_current_spins {left : Nat} {uuid : String} (named : uuid ≠ "")
    (isCall : system.calls[index]? = some (.readRef (.loop left)))
    (isRef : system.table.lastUUIDRef = some uuid)
    (missing : system.table.lookupNodeByUUID uuid = none)
    (unlisted : system.table.nodeList.has uuid = false) :
    Runs.execute (step mode) system (List.replicate 3 (.resume index false false)) =
      some system := by
  obtain ⟨inside, atIndex⟩ := List.getElem?_eq_some_iff.mp isCall
  have placed (after : Call) : (system.calls.set index after)[index]? = some after :=
    List.getElem?_set_self inside
  have reads : system.step mode (.resume index false false) =
      some { system with calls := system.calls.set index (.lookup left uuid) } :=
    step_resume isCall (by simp only [runSection, isRef, Reader.proceed, if_neg named])
  have looksUp : step mode { system with calls := system.calls.set index (.lookup left uuid) }
      (.resume index false false) =
      some { system with calls := system.calls.set index (.pruneMissing left uuid) } := by
    rw [step_resume (placed _) (by simp only [runSection, missing]; rfl), List.set_set]
  have prunes : step mode { system with calls := system.calls.set index (.pruneMissing left uuid) }
      (.resume index false false) = some system := by
    have kept : system.table.pruneMissingNodeUUID uuid = (false, system.table) := by
      simp [pruneMissingNodeUUID, unlisted]
    rw [step_resume (placed _) (by simp only [runSection, kept]; rfl), List.set_set, ← atIndex,
      List.set_getElem_self]
  exact execute_cons_eq_some.mpr ⟨_, reads, execute_cons_eq_some.mpr
    ⟨_, looksUp, execute_cons_eq_some.mpr ⟨_, prunes, rfl⟩⟩⟩

def storesRemoved : List NodeEvent :=
  [.connections 0 false true, .getNode, .removeNode "a" 0, .addNode "b" 1 6] ++
    List.replicate 4 (.resume 0 false false)

/-- The current id is not in the list then, and the loop never ends. -/
theorem nodes_spin_after_removal :
    ∃ system : NodeSystem, system.table.lastUUID = "a" ∧ system.table.nodeList.list = ["b"] ∧
      system.calls = [.readRef (.loop 1)] ∧
      ∀ rounds : Nat, Runs.execute (step .roundRobin) (new "a" 0)
        (storesRemoved ++
          (List.replicate rounds (List.replicate 3 (.resume 0 false false))).flatten) =
        some system := by
  obtain ⟨system, reaches, isLast, isList, isCalls, isRef, missing, unlisted⟩ :
      ∃ system, execute (step .roundRobin) (new "a" 0) storesRemoved = some system ∧
        system.table.lastUUID = "a" ∧ system.table.nodeList.list = ["b"] ∧
        system.calls = [.readRef (.loop 1)] ∧ system.table.lastUUIDRef = some "a" ∧
        system.table.lookupNodeByUUID "a" = none ∧ system.table.nodeList.has "a" = false :=
    exists_of_any (by decide +kernel)
  have isCall : system.calls[0]? = some (.readRef (.loop 1)) := by rw [isCalls]; rfl
  have spins : execute (step .roundRobin) system
      (List.replicate 3 (.resume 0 false false)) = some system :=
    missing_current_spins (by decide) isCall isRef missing unlisted
  refine ⟨system, isLast, isList, isCalls, ?_⟩
  intro rounds
  rw [execute_append, reaches]
  exact execute_cycle spins rounds

end NodeSystem

end DeepNps.Bridge
