import DeepNps.LabelledRuns
import Mathlib.Algebra.BigOperators.Group.Finset.Piecewise
import Mathlib.Data.BitVec

/-!
# Charging the owner of a client

A check of a client that fails returns before the user is charged, so the user is charged
for all that its clients count only while they are within their limits.
-/

namespace DeepNps.File

abbrev TrafficStats := BitVec 64 × BitVec 64

def TrafficStats.total (stats : TrafficStats) : BitVec 64 := stats.1 + stats.2

/-- `Flow`.  The zero time is no time limit. -/
structure TrafficFlow where
  bytes : TrafficStats
  flowLimit : BitVec 64
  timeLimit : Option Int

/-- The fields of a user that traffic is counted in and checked against. -/
structure TrafficUser where
  expireAt : Int
  flowLimit : BitVec 64
  totalFlow : Option TrafficStats
  totalTraffic : Option TrafficStats

/-- The counter of the bridge is `traffic true`, the one of the services `traffic false`. -/
structure TrafficClient where
  expireAt : Int
  flowLimit : BitVec 64
  flow : Option TrafficFlow
  traffic : Bool → Option TrafficStats

namespace TrafficUser

def ensureRuntimeTraffic (user : TrafficUser) : TrafficUser :=
  { user with totalTraffic := some (user.totalTraffic.getD (user.totalFlow.getD 0)) }

def totalTrafficTotals (user : TrafficUser) : TrafficStats :=
  match user.totalTraffic, user.totalFlow with
  | some traffic, _ => traffic
  | none, some flow => flow
  | none, none => 0

/-- `ObserveTotalTraffic`: the error, if there is one, and the user. -/
def observeTotalTraffic (user : TrafficUser) (bytes : TrafficStats) (now : Int) :
    Option String × TrafficUser :=
  if bytes = 0 then (none, user)
  else
    let traffic := user.ensureRuntimeTraffic.totalTrafficTotals + bytes
    let charged :=
      { user with totalTraffic := some traffic, totalFlow := some (user.totalFlow.getD 0 + bytes) }
    if 0 < user.expireAt ∧ user.expireAt ≤ now then (some "User: time limit exceeded", charged)
    else if 0 < user.flowLimit.toInt ∧ user.flowLimit.toInt ≤ traffic.total.toInt then
      (some "User: flow limit exceeded", charged)
    else (none, charged)

end TrafficUser

namespace TrafficClient

/-- `BridgeTrafficTotals` and `ServiceTrafficTotals`.  A missing counter of the bridge starts with
the flow of the client. -/
def trafficTotals (client : TrafficClient) (bridge : Bool) : TrafficStats :=
  (client.traffic bridge).getD (if bridge then (client.flow.map TrafficFlow.bytes).getD 0 else 0)

def totalTrafficTotals (client : TrafficClient) : TrafficStats :=
  client.trafficTotals true + client.trafficTotals false

/-- `EnsureRuntimeTraffic` and the addition to one of the counters. -/
def count (client : TrafficClient) (bridge : Bool) (bytes : TrafficStats) : TrafficClient :=
  { client with
    traffic := Function.update (fun bridge => some (client.trafficTotals bridge)) bridge
      (some (client.trafficTotals bridge + bytes)) }

def effectiveExpireAt (client : TrafficClient) (owner : Option TrafficUser) : Int :=
  if 0 < client.expireAt then client.expireAt
  else
    match client.flow.bind TrafficFlow.timeLimit with
    | some timeLimit => timeLimit
    | none => (owner.map TrafficUser.expireAt).getD 0

def effectiveFlowLimitBytes (client : TrafficClient) (owner : Option TrafficUser) : BitVec 64 :=
  let ownerLimit := (owner.map TrafficUser.flowLimit).getD 0
  if 0 < client.flowLimit.toInt then client.flowLimit
  else
    match client.flow with
    | some flow => if 0 < flow.flowLimit.toInt then flow.flowLimit <<< 20 else ownerLimit
    | none => ownerLimit

def limitExceeded (client : TrafficClient) (owner : Option TrafficUser) (bridge : Bool)
    (now : Int) : Option String :=
  let expireAt := client.effectiveExpireAt owner
  let flowLimit := client.effectiveFlowLimitBytes owner
  let total := (client.trafficTotals bridge).total + (client.trafficTotals !bridge).total
  if 0 < expireAt ∧ expireAt ≤ now then some "Client: time limit exceeded"
  else if 0 < flowLimit.toInt ∧ flowLimit.toInt ≤ total.toInt then
    some "Client: flow limit exceeded"
  else none

/-- `observeTraffic`: the error, the client and its owner.  The two clocks are read one
after the other. -/
def observeTraffic (client : TrafficClient) (owner : Option TrafficUser) (bridge : Bool)
    (bytes : TrafficStats) (now later : Int) :
    Option String × TrafficClient × Option TrafficUser :=
  if bytes = 0 then (none, client, owner)
  else
    let counted := client.count bridge bytes
    match counted.limitExceeded owner bridge now with
    | some error => (some error, counted, owner)
    | none =>
        match owner with
        | none => (none, counted, none)
        | some user =>
            let charged := user.observeTotalTraffic bytes later
            (charged.1, counted, some charged.2)

end TrafficClient

/-! ## The clients of a user -/

/-- A user with the clients that it owns. -/
structure OwnedTraffic (Id : Type) where
  user : TrafficUser
  clients : Id → TrafficClient

structure ObserveCall (Id : Type) where
  client : Id
  bridge : Bool
  bytes : TrafficStats
  now : Int
  later : Int

variable {Id : Type} [DecidableEq Id]

namespace OwnedTraffic

def step (owned : OwnedTraffic Id) (call : ObserveCall Id) : Option (OwnedTraffic Id) :=
  let observed := (owned.clients call.client).observeTraffic (some owned.user) call.bridge
    call.bytes call.now call.later
  some
    { user := observed.2.2.getD owned.user
      clients := Function.update owned.clients call.client observed.2.1 }

/-- The client of the call has not expired, and is below its limit with the bytes that are
observed. -/
def WithinLimits (owned : OwnedTraffic Id) (call : ObserveCall Id) : Prop :=
  ((owned.clients call.client).count call.bridge call.bytes).limitExceeded (some owned.user)
    call.bridge call.now = none

instance (owned : OwnedTraffic Id) (call : ObserveCall Id) : Decidable (owned.WithinLimits call) :=
  inferInstanceAs (Decidable (_ = _))

def counted [Fintype Id] (owned : OwnedTraffic Id) : TrafficStats :=
  ∑ id, (owned.clients id).totalTrafficTotals

end OwnedTraffic

theorem TrafficUser.totals_observe (user : TrafficUser) (bytes : TrafficStats) (now : Int) :
    (user.observeTotalTraffic bytes now).2.totalTrafficTotals =
      user.totalTrafficTotals + bytes := by
  have ensured : user.ensureRuntimeTraffic.totalTrafficTotals = user.totalTrafficTotals := by
    obtain ⟨_, _, totalFlow, totalTraffic⟩ := user
    cases totalTraffic <;> cases totalFlow <;> rfl
  rw [← ensured]
  fun_cases observeTotalTraffic user bytes now with
  | case1 isZero => rw [isZero, add_zero, ensured]
  | case2 | case3 | case4 => rfl

theorem TrafficClient.totals_count (client : TrafficClient) (bridge : Bool)
    (bytes : TrafficStats) :
    (client.count bridge bytes).totalTrafficTotals = client.totalTrafficTotals + bytes := by
  cases bridge with
  | true => exact add_right_comm ..
  | false => exact (add_assoc ..).symm

namespace OwnedTraffic

variable {owned next : OwnedTraffic Id} {call : ObserveCall Id}

theorem step_within (within : owned.WithinLimits call) (stepEq : owned.step call = some next) :
    next.user.totalTrafficTotals = owned.user.totalTrafficTotals + call.bytes ∧
      ∃ client, next.clients = Function.update owned.clients call.client client ∧
        client.totalTrafficTotals =
          (owned.clients call.client).totalTrafficTotals + call.bytes := by
  obtain rfl := Option.some.inj stepEq
  rw [WithinLimits] at within
  dsimp only [TrafficClient.observeTraffic]
  by_cases isZero : call.bytes = 0
  · rw [if_pos isZero, isZero, add_zero]
    exact ⟨rfl, _, rfl, (add_zero _).symm⟩
  · rw [if_neg isZero, within]
    exact ⟨owned.user.totals_observe .., _, rfl, TrafficClient.totals_count ..⟩

theorem counted_update [Fintype Id] (owned : OwnedTraffic Id) (user : TrafficUser) (id : Id)
    {client : TrafficClient} {bytes : TrafficStats}
    (counts : client.totalTrafficTotals = (owned.clients id).totalTrafficTotals + bytes) :
    counted ⟨user, Function.update owned.clients id client⟩ = owned.counted + bytes := by
  have split := Finset.add_sum_erase Finset.univ
    (fun id => (owned.clients id).totalTrafficTotals) (Finset.mem_univ id)
  simp only [counted, Function.apply_update (fun _ => TrafficClient.totalTrafficTotals)]
  rw [Finset.sum_update_of_mem (Finset.mem_univ id), counts, add_right_comm, ← Finset.erase_eq,
    ← split]

/-- The user is charged for as much more than its clients have counted as at the start. -/
def Balanced [Fintype Id] (start owned : OwnedTraffic Id) : Prop :=
  start.user.totalTrafficTotals - start.counted = owned.user.totalTrafficTotals - owned.counted

/-- If every call finds its client within its limits, the total of the user grows by as much as
the counters of its clients. -/
theorem owner_charged [Fintype Id] (start last : OwnedTraffic Id) (calls : List (ObserveCall Id))
    (runs : Runs.execute step start calls = some last)
    (within : Runs.Meets step WithinLimits start calls) :
    last.user.totalTrafficTotals - start.user.totalTrafficTotals =
      last.counted - start.counted := by
  have preserved : ∀ owned call next, Balanced start owned → owned.WithinLimits call →
      owned.step call = some next → Balanced start next := by
    intro owned call next balanced within stepEq
    obtain ⟨charged, client, clientsEq, counts⟩ := step_within within stepEq
    have countedEq : next.counted = owned.counted + call.bytes := by
      rw [← counted_update owned next.user call.client counts, ← clientsEq]
    refine balanced.trans ?_
    rw [charged, countedEq, add_sub_add_right_eq_sub]
  exact sub_eq_sub_iff_sub_eq_sub.mp
    (Runs.invariant_of_meets _ preserved (rfl : Balanced start start) within runs).symm

def twoClients : OwnedTraffic Bool where
  user := ⟨0, 0, none, none⟩
  clients := fun limited => ⟨0, if limited then 10 else 0, none, fun _ => none⟩

theorem owner_charged_two :
    ∃ last, Runs.execute step twoClients
        [⟨false, true, (3, 4), 0, 0⟩, ⟨true, false, (5, 4), 0, 0⟩] = some last ∧
      last.user.totalTrafficTotals - twoClients.user.totalTrafficTotals =
        last.counted - twoClients.counted :=
  ⟨_, rfl, owner_charged twoClients _ [⟨false, true, (3, 4), 0, 0⟩, ⟨true, false, (5, 4), 0, 0⟩] rfl
    (by decide +kernel)⟩

/-- The second client reaches its limit: the bytes that it has counted are not charged. -/
theorem owner_not_charged :
    ∃ last, Runs.execute step twoClients [⟨true, true, (6, 4), 0, 0⟩] = some last ∧
      last.user.totalTrafficTotals - twoClients.user.totalTrafficTotals = (0, 0) ∧
      last.counted - twoClients.counted = (6, 4) :=
  ⟨_, rfl, by decide +kernel, by decide +kernel⟩

end OwnedTraffic

end DeepNps.File
