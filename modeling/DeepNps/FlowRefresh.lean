import DeepNps.FileClientOwnership
import Mathlib.Algebra.BigOperators.Group.List.Basic
import Mathlib.Algebra.Group.Prod
import Mathlib.Data.BitVec

/-!
# Adding up the flows of clients

A refresh sets the flows of clients to zero and adds those of their hosts and tunnels.  It
is given as the list of its writes, since others may look at the flows in between.
-/

namespace DeepNps.Server

/-- Inlet and export flow, `int64` counters that wrap around. -/
abbrev Flow := BitVec 64 × BitVec 64

structure FlowRecord where
  clientId : Option Int
  flow : Option Flow
deriving DecidableEq

namespace FlowRecord

def IsOf (id : Int) (record : FlowRecord) : Prop := record.clientId = some id

instance (id : Int) : DecidablePred (IsOf id) :=
  fun record => inferInstanceAs (Decidable (record.clientId = some id))

def amount (record : FlowRecord) : Flow := record.flow.getD 0

end FlowRecord

def sumOf (id : Int) (records : List FlowRecord) : Flow :=
  ((records.filter (FlowRecord.IsOf id)).map FlowRecord.amount).sum

/-- `flowRuntimeStore`, whose enumeration by client is exact for positive ids and else empty. -/
structure FlowStore where
  clients : List Int
  hosts : List FlowRecord
  tunnels : List FlowRecord
  hostsByClientID : Int → List FlowRecord
  tunnelsByClientID : Int → List FlowRecord
  hosts_perm : ∀ {id}, 0 < id → (hostsByClientID id).Perm (hosts.filter (FlowRecord.IsOf id))
  tunnels_perm : ∀ {id}, 0 < id → (tunnelsByClientID id).Perm (tunnels.filter (FlowRecord.IsOf id))
  hosts_none : ∀ {id}, id ≤ 0 → hostsByClientID id = []
  tunnels_none : ∀ {id}, id ≤ 0 → tunnelsByClientID id = []

inductive FlowOp
  | reset (id : Int)
  | add (id : Int) (flow : Flow)

namespace FlowOp

def id : FlowOp → Int
  | .reset id | .add id _ => id

def apply (op : FlowOp) (flows : Int → Flow) : Int → Flow :=
  match op with
  | .reset id => Function.update flows id 0
  | .add id flow => Function.update flows id (flows id + flow)

theorem apply_of_ne {op : FlowOp} {id : Int} (isOther : op.id ≠ id) (flows : Int → Flow) :
    op.apply flows id = flows id := by
  cases op with
  | reset | add => exact Function.update_of_ne isOther.symm ..

end FlowOp

def perform (ops : List FlowOp) (flows : Int → Flow) : Int → Flow :=
  ops.foldl (fun flows op => op.apply flows) flows

open List Function

theorem perform_append (first second : List FlowOp) (flows : Int → Flow) :
    perform (first ++ second) flows = perform second (perform first flows) :=
  foldl_append

variable {id : Int} {clients : List Int}

theorem perform_of_forall_ne {ops : List FlowOp} (others : ∀ op ∈ ops, op.id ≠ id)
    (flows : Int → Flow) : perform ops flows id = flows id := by
  induction ops generalizing flows with
  | nil => rfl
  | cons op ops ih =>
    change perform ops (op.apply flows) id = flows id
    rw [ih fun other isMember => others other (mem_cons_of_mem _ isMember)]
    exact FlowOp.apply_of_ne (others op mem_cons_self) flows

/-- `addClientTrafficFromFlow`, with the ids that the refresh remembers. -/
def addClientTrafficFromFlow (clients : List Int) (clientID : Int) (flow : Option Flow) :
    List FlowOp :=
  match flow with
  | none => []
  | some flow => if clientID = 0 ∨ clientID ∉ clients then [] else [.add clientID flow]

/-- One record of `aggregateHostTraffic`, `aggregateTunnelTraffic`. -/
def aggregate (clients : List Int) (record : FlowRecord) : List FlowOp :=
  match record.clientId with
  | none => []
  | some clientID => addClientTrafficFromFlow clients clientID record.flow

namespace FlowStore

def total (store : FlowStore) (id : Int) : Flow := sumOf id store.hosts + sumOf id store.tunnels

def refreshClients (store : FlowStore) : List FlowOp :=
  let remembered := store.clients.filter (· ≠ 0)
  store.clients.map .reset ++
    (store.hosts.flatMap (aggregate remembered) ++ store.tunnels.flatMap (aggregate remembered))

def refreshIndexedClientRuntime (store : FlowStore) (clientID : Int) : List FlowOp :=
  if clientID = 0 ∨ clientID ∉ store.clients then []
  else
    .reset clientID ::
      ((store.hostsByClientID clientID).flatMap
          (fun host => addClientTrafficFromFlow [clientID] clientID host.flow) ++
        (store.tunnelsByClientID clientID).flatMap
          (fun tunnel => addClientTrafficFromFlow [clientID] clientID tunnel.flow))

/-- `RefreshClientSet` of the coordinator, with the set in the order of the loop. -/
def refreshClientSet (store : FlowStore) (clientIDs : List Int) : List FlowOp :=
  clientIDs.flatMap store.refreshIndexedClientRuntime

end FlowStore

/-! ## What a refresh leaves -/

theorem perform_addClientTrafficFromFlow (isId : id ≠ 0) (isClient : id ∈ clients)
    (flow : Option Flow) (flows : Int → Flow) :
    perform (addClientTrafficFromFlow clients id flow) flows id = flows id + flow.getD 0 := by
  cases flow with
  | none => exact (add_zero _).symm
  | some =>
    rw [addClientTrafficFromFlow, if_neg (not_or.mpr ⟨isId, not_not.mpr isClient⟩)]
    exact update_self ..

theorem id_of_mem_addClientTrafficFromFlow {clientID : Int} {flow : Option Flow} {op : FlowOp}
    (isMember : op ∈ addClientTrafficFromFlow clients clientID flow) :
    op.id = clientID ∧ clientID ∈ clients := by
  cases flow with
  | none => cases isMember
  | some =>
    rw [addClientTrafficFromFlow] at isMember
    split_ifs at isMember with isNone
    · cases isMember
    · rw [mem_singleton.mp isMember]
      exact ⟨rfl, not_not.mp (not_or.mp isNone).2⟩

theorem id_of_mem_flatMap_aggregate {records : List FlowRecord} {op : FlowOp}
    (isMember : op ∈ records.flatMap (aggregate clients)) : op.id ∈ clients := by
  obtain ⟨⟨clientId, flow⟩, -, isOp⟩ := mem_flatMap.mp isMember
  cases clientId with
  | none => cases isOp
  | some =>
    obtain ⟨idEq, isClient⟩ := id_of_mem_addClientTrafficFromFlow isOp
    rw [idEq]
    exact isClient

theorem perform_aggregate (isId : id ≠ 0) (isClient : id ∈ clients) (record : FlowRecord)
    (flows : Int → Flow) :
    perform (aggregate clients record) flows id = flows id + sumOf id [record] := by
  obtain ⟨clientId, flow⟩ := record
  by_cases isOf : clientId = some id
  · subst isOf
    have sumEq : sumOf id [⟨some id, flow⟩] = flow.getD 0 := by
      simp [sumOf, FlowRecord.IsOf, FlowRecord.amount]
    rw [sumEq]
    exact perform_addClientTrafficFromFlow isId isClient flow flows
  · have sumEq : sumOf id [⟨clientId, flow⟩] = 0 := by
      simp [sumOf, FlowRecord.IsOf, isOf]
    rw [sumEq, add_zero]
    refine perform_of_forall_ne ?_ flows
    intro _ isMember opId
    cases clientId with
    | none => cases isMember
    | some =>
      rw [(id_of_mem_addClientTrafficFromFlow isMember).1] at opId
      exact isOf (congrArg some opId)

theorem sumOf_cons (id : Int) (record : FlowRecord) (records : List FlowRecord) :
    sumOf id (record :: records) = sumOf id [record] + sumOf id records := by
  by_cases isOf : FlowRecord.IsOf id record
  · simp [sumOf, isOf]
  · simp [sumOf, isOf]

theorem perform_flatMap_aggregate (isId : id ≠ 0) (isClient : id ∈ clients)
    (records : List FlowRecord) (flows : Int → Flow) :
    perform (records.flatMap (aggregate clients)) flows id = flows id + sumOf id records := by
  induction records generalizing flows with
  | nil => exact (add_zero _).symm
  | cons record records ih =>
    rw [flatMap_cons, perform_append, ih, perform_aggregate isId isClient,
      sumOf_cons id record records, add_assoc]

theorem perform_map_reset (isClient : id ∈ clients) (flows : Int → Flow) :
    perform (clients.map .reset) flows id = 0 := by
  induction clients generalizing flows with
  | nil => cases isClient
  | cons client clients ih =>
    change perform (clients.map .reset) (update flows client 0) id = 0
    by_cases isLater : id ∈ clients
    · exact ih isLater _
    · obtain rfl := (mem_cons.mp isClient).resolve_right isLater
      rw [perform_of_forall_ne]
      · exact update_self ..
      · intro _ isMember opId
        obtain ⟨_, isOther, rfl⟩ := mem_map.mp isMember
        exact isLater (opId ▸ isOther)

namespace FlowStore

variable {store : FlowStore} {id : Int} {op : FlowOp}

theorem perform_refreshClients (isId : id ≠ 0) (isClient : id ∈ store.clients)
    (flows : Int → Flow) : perform store.refreshClients flows id = store.total id := by
  have remembered : id ∈ store.clients.filter (· ≠ 0) :=
    mem_filter.mpr ⟨isClient, decide_eq_true isId⟩
  rw [refreshClients, perform_append, perform_append,
    perform_flatMap_aggregate isId remembered, perform_flatMap_aggregate isId remembered,
    perform_map_reset isClient, zero_add, total]

theorem mem_clients_of_mem_refreshClients (isMember : op ∈ store.refreshClients) :
    op.id ∈ store.clients := by
  rcases mem_append.mp isMember with isReset | isAdd
  · obtain ⟨_, isClient, rfl⟩ := mem_map.mp isReset
    exact isClient
  · refine mem_of_mem_filter (p := (· ≠ 0)) ?_
    exact (mem_append.mp isAdd).elim id_of_mem_flatMap_aggregate id_of_mem_flatMap_aggregate

theorem perform_flatMap_indexed (isId : id ≠ 0) (records : List FlowRecord) (flows : Int → Flow) :
    perform (records.flatMap fun record => addClientTrafficFromFlow [id] id record.flow) flows id =
      flows id + (records.map FlowRecord.amount).sum := by
  induction records generalizing flows with
  | nil => exact (add_zero _).symm
  | cons _ _ ih =>
    rw [flatMap_cons, perform_append, ih,
      perform_addClientTrafficFromFlow isId (mem_singleton_self id), map_cons,
      sum_cons, add_assoc]
    rfl

theorem perform_refreshIndexedClientRuntime (positive : 0 < id) (isClient : id ∈ store.clients)
    (flows : Int → Flow) :
    perform (store.refreshIndexedClientRuntime id) flows id = store.total id := by
  have isId : id ≠ 0 := Int.ne_of_gt positive
  rw [refreshIndexedClientRuntime, if_neg (not_or.mpr ⟨isId, not_not.mpr isClient⟩)]
  change perform _ (update flows id 0) id = store.total id
  have hostsEq := ((store.hosts_perm positive).map FlowRecord.amount).sum_eq
  have tunnelsEq := ((store.tunnels_perm positive).map FlowRecord.amount).sum_eq
  rw [perform_append, perform_flatMap_indexed isId, perform_flatMap_indexed isId,
    update_self, zero_add, hostsEq, tunnelsEq]
  rfl

theorem mem_of_mem_refreshClientSet {clientIDs : List Int}
    (isMember : op ∈ store.refreshClientSet clientIDs) :
    op.id ∈ clientIDs ∧ op.id ∈ store.clients := by
  obtain ⟨_, isAsked, isOp⟩ := mem_flatMap.mp isMember
  rw [refreshIndexedClientRuntime] at isOp
  split_ifs at isOp with isNone
  · cases isOp
  · suffices idEq : op.id = _ from idEq ▸ ⟨isAsked, not_not.mp (not_or.mp isNone).2⟩
    rcases mem_cons.mp isOp with rfl | isAdd
    · rfl
    · rcases mem_append.mp isAdd with isHost | isTunnel
      · obtain ⟨_, -, isOp⟩ := mem_flatMap.mp isHost
        exact (id_of_mem_addClientTrafficFromFlow isOp).1
      · obtain ⟨_, -, isOp⟩ := mem_flatMap.mp isTunnel
        exact (id_of_mem_addClientTrafficFromFlow isOp).1

theorem perform_refreshClientSet (positive : 0 < id) (isClient : id ∈ store.clients)
    {clientIDs : List Int} (isAsked : id ∈ clientIDs) (flows : Int → Flow) :
    perform (store.refreshClientSet clientIDs) flows id = store.total id := by
  induction clientIDs generalizing flows with
  | nil => cases isAsked
  | cons _ clientIDs ih =>
    rw [refreshClientSet, flatMap_cons, perform_append]
    change perform (store.refreshClientSet clientIDs) _ id = store.total id
    by_cases isLater : id ∈ clientIDs
    · exact ih isLater _
    · -- The clients after the last turn with the id do not touch its flows.
      obtain rfl := (mem_cons.mp isAsked).resolve_right isLater
      rw [perform_of_forall_ne, perform_refreshIndexedClientRuntime positive isClient]
      intro _ isMember opId
      exact isLater (opId ▸ (mem_of_mem_refreshClientSet isMember).1)

/-! ## Stores -/

def ofRecords (clients : List Int) (hosts tunnels : List FlowRecord) : FlowStore where
  clients := clients
  hosts := hosts
  tunnels := tunnels
  hostsByClientID := fun id => if 0 < id then hosts.filter (FlowRecord.IsOf id) else []
  tunnelsByClientID := fun id => if 0 < id then tunnels.filter (FlowRecord.IsOf id) else []
  hosts_perm := fun positive => by rw [if_pos positive]
  tunnels_perm := fun positive => by rw [if_pos positive]
  hosts_none := fun notPositive => if_neg (Int.not_lt.mpr notPositive)
  tunnels_none := fun notPositive => if_neg (Int.not_lt.mpr notPositive)

/-- The refresh of a set of clients, which goes by the index, leaves the clients of the set as the
refresh of all clients does, which goes through the tables, and touches no other client. -/
theorem refreshClientSet_agrees (store : FlowStore) (clientIDs : List Int) (flows : Int → Flow)
    (id : Int) (positive : 0 < id) :
    perform (store.refreshClientSet clientIDs) flows id =
      if id ∈ clientIDs ∧ id ∈ store.clients then perform store.refreshClients flows id
      else flows id := by
  split_ifs with isAsked
  · rw [perform_refreshClientSet positive isAsked.2 isAsked.1,
      perform_refreshClients (Int.ne_of_gt positive) isAsked.2]
  · refine perform_of_forall_ne ?_ flows
    rintro _ isMember rfl
    exact isAsked (mem_of_mem_refreshClientSet isMember)

theorem refreshClientSet_agrees_one :
    perform ((ofRecords [1, 2] [] [⟨some 1, some (5, 7)⟩]).refreshClientSet [1]) 0 1 = (5, 7) := by
  rw [refreshClientSet_agrees _ _ _ 1 (by decide)]
  decide

open File

variable {Details : RecordKind → Type} {Record : Type} {resource : ClientResource Details Record}
  {files : Store Details}

def readOf (resource : ClientResource Details Record) (flow : Record → Option Flow)
    (record : Record) : FlowRecord :=
  ⟨resource.clientId record, flow record⟩

theorem readOf_perm (maintained : resource.Maintained) (sound : resource.Sound files)
    (positive : ∀ record ∈ (resource.table files).records, 0 < resource.id record)
    (flow : Record → Option Flow) (isPositive : 0 < id) :
    ((resource.range id (fun _ => true) files).1.map (readOf resource flow)).Perm
      (((resource.table files).records.map (readOf resource flow)).filter
        (FlowRecord.IsOf id)) := by
  rw [filter_map]
  refine List.Perm.map _ ?_
  change List.Perm _ ((resource.table files).records.filter fun record =>
    resource.clientId record = some id)
  obtain ⟨nodup, mem_iff⟩ := sound.range_exact maintained id
  refine (perm_ext_iff_of_nodup (List.Nodup.of_map _ nodup)
    ((List.Nodup.of_map _ (resource.table files).nodup).filter _)).mpr fun record => ?_
  rw [mem_iff, mem_filter, decide_eq_true_iff]
  constructor
  · rintro ⟨isRecord, -, -, isOf⟩
    exact ⟨isRecord, isOf⟩
  · rintro ⟨isRecord, isOf⟩
    exact ⟨isRecord, positive record isRecord, isPositive, isOf⟩

theorem range_none (resource : ClientResource Details Record) (notPositive : id ≤ 0) :
    (resource.range id (fun _ => true) files).1 = [] := by
  rw [ClientResource.range, if_pos notPositive]

/-- `dbFlowRuntimeStore` over a store that is kept in order, if its tunnels and hosts have
positive ids. -/
def ofFiles (env : StoreEnv Details) (files : Store Details) (sound : files.RecordsSound env)
    (tunnelIds : ∀ tunnel ∈ files.tasks.records, 0 < tunnel.id)
    (hostIds : ∀ host ∈ files.hosts.records, 0 < host.id)
    (tunnelFlow : Tunnel Details → Option Flow) (hostFlow : Host Details → Option Flow) :
    FlowStore where
  clients := files.clients.records.map Client.id
  hosts := files.hosts.records.map (readOf (ClientResource.hosts env) hostFlow)
  tunnels := files.tasks.records.map (readOf (ClientResource.tunnels env) tunnelFlow)
  hostsByClientID := fun id => (files.rangeClientHosts env id fun _ => true).1.map
    (readOf (ClientResource.hosts env) hostFlow)
  tunnelsByClientID := fun id => (files.rangeClientTunnels env id fun _ => true).1.map
    (readOf (ClientResource.tunnels env) tunnelFlow)
  hosts_perm := readOf_perm (ClientResource.hosts_maintained env) sound.hosts hostIds hostFlow
  tunnels_perm :=
    readOf_perm (ClientResource.tunnels_maintained env) sound.tunnels tunnelIds tunnelFlow
  hosts_none := fun notPositive => List.map_eq_nil_iff.mpr (range_none _ notPositive)
  tunnels_none := fun notPositive => List.map_eq_nil_iff.mpr (range_none _ notPositive)

end FlowStore

end DeepNps.Server
