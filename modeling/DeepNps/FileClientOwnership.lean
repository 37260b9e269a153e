import DeepNps.FileClientRecords
import DeepNps.FileUserDeletion

/-!
# The tunnels and hosts of clients, and the clients of users

Ranging over the records of a client or the clients of a user gives what a search of the
tables gives, as far as positive ids go.
-/

namespace DeepNps.File

open StoreEnv GroupIDIndex ClientResource Table

variable {Details : RecordKind → Type}

namespace Store

variable {env : StoreEnv Details} {store : Store Details}

structure RecordsSound (env : StoreEnv Details) (store : Store Details) : Prop where
  tunnels : (ClientResource.tunnels env).Sound store
  hosts : (ClientResource.hosts env).Sound store

structure WithoutRecords (env : StoreEnv Details) (clientID : Int) (store : Store Details) :
    Prop where
  tunnels : ∀ tunnel ∈ store.tasks.records, ¬ (ClientResource.tunnels env).Of clientID tunnel
  hosts : ∀ host ∈ store.hosts.records, ¬ (ClientResource.hosts env).Of clientID host

/-! ## What the indexes do not depend on -/

theorem tunnelsSound_hostStable :
    HostStable fun store : Store Details => (ClientResource.tunnels env).Sound store where
  hosts := fun _ _ _ _ _ sound => ⟨sound.refs, sound.listed, sound.ready⟩

theorem hostsSound_taskStable :
    TaskStable fun store : Store Details => (ClientResource.hosts env).Sound store where
  tasks := fun _ _ _ _ _ sound => ⟨sound.refs, sound.listed, sound.ready⟩

theorem recordsSound_userStable :
    UserStable fun store : Store Details => store.RecordsSound env where
  links := fun _ _ _ sound =>
    ⟨⟨sound.tunnels.refs, sound.tunnels.listed, sound.tunnels.ready⟩,
      ⟨sound.hosts.refs, sound.hosts.listed, sound.hosts.ready⟩⟩
  users := fun _ _ _ _ _ sound =>
    ⟨⟨sound.tunnels.refs, sound.tunnels.listed, sound.tunnels.ready⟩,
      ⟨sound.hosts.refs, sound.hosts.listed, sound.hosts.ready⟩⟩

theorem RecordsSound.clients (sound : store.RecordsSound env)
    {clients : Table (Client.id : Client Details → Int)} (clientIncreaseId : Int32)
    (blake2bVkeyIndex : StringIDIndex)
    (tunnels : ∀ tunnel ∈ store.tasks.records, ∀ clientID,
      (ClientResource.tunnels env).Of clientID tunnel → (clients.get clientID).isSome = true)
    (hosts : ∀ host ∈ store.hosts.records, ∀ clientID,
      (ClientResource.hosts env).Of clientID host → (clients.get clientID).isSome = true) :
    { store with clients, clientIncreaseId, blake2bVkeyIndex }.RecordsSound env :=
  ⟨⟨tunnels, sound.tunnels.listed, sound.tunnels.ready⟩,
    ⟨hosts, sound.hosts.listed, sound.hosts.ready⟩⟩

theorem RecordsSound.storeClient (sound : store.RecordsSound env) (client : Client Details)
    (clientIncreaseId : Int32) (blake2bVkeyIndex : StringIDIndex) :
    { store with
      clients := store.clients.store client
      clientIncreaseId
      blake2bVkeyIndex }.RecordsSound env := by
  refine sound.clients _ _ ?_ ?_
  · intro tunnel isTunnel clientID isOf
    exact isSome_get_store (sound.tunnels.refs tunnel isTunnel clientID isOf)
  · intro host isHost clientID isOf
    exact isSome_get_store (sound.hosts.refs host isHost clientID isOf)

theorem RecordsSound.keys (sound : store.RecordsSound env) (clientIncreaseId : Int32)
    (blake2bVkeyIndex : StringIDIndex) :
    { store with clientIncreaseId, blake2bVkeyIndex }.RecordsSound env :=
  sound.clients _ _ sound.tunnels.refs sound.hosts.refs

/-! ## Users and clients -/

section

variable (sound : store.RecordsSound env)

include sound

theorem RecordsSound.delUser (id now : Int) : (store.delUser id now).2.RecordsSound env := by
  refine recordsSound_userStable.delUser ?_ sound
  intro store _ cleared sound _ _
  exact sound.storeClient cleared store.clientIncreaseId store.blake2bVkeyIndex

theorem RecordsSound.putClient (client : Client Details) :
    (store.putClient client).RecordsSound env :=
  recordsSound_userStable.putClient client
    (sound.storeClient client store.clientIncreaseId store.blake2bVkeyIndex)

theorem RecordsSound.createClient (client : Client Details) :
    (store.createClient env client).RecordsSound env :=
  ((sound.keys _ store.blake2bVkeyIndex).putClient _).keys _ _

theorem RecordsSound.rangeTunnels (clientID : Int) (continues : Tunnel Details → Bool) :
    (store.rangeClientTunnels env clientID continues).2.RecordsSound env :=
  ⟨(sound.tunnels.range_kept (tunnels_maintained env) clientID continues).sound,
    hostsSound_taskStable.resource.range clientID continues sound.hosts⟩

theorem RecordsSound.rangeHosts (clientID : Int) (continues : Host Details → Bool) :
    (store.rangeClientHosts env clientID continues).2.RecordsSound env :=
  ⟨tunnelsSound_hostStable.resource.range clientID continues sound.tunnels,
    (sound.hosts.range_kept (hosts_maintained env) clientID continues).sound⟩

theorem RecordsSound.replaceClient (current client : Client Details) :
    (store.replaceClient env current client).RecordsSound env := by
  refine RecordsSound.keys (RecordsSound.rangeHosts (RecordsSound.rangeTunnels ?_ _ _) _ _) _ _
  exact (sound.keys store.clientIncreaseId _).putClient _

theorem RecordsSound.clientOwnsPersistedResources (id : Int) :
    (store.clientOwnsPersistedResources env id).2.RecordsSound env ∧
      ((store.clientOwnsPersistedResources env id).1 = false →
        (store.clientOwnsPersistedResources env id).2.WithoutRecords env id) := by
  rw [Store.clientOwnsPersistedResources]
  by_cases isNone : id ≤ 0
  · rw [if_pos isNone]
    refine ⟨sound, fun _ => ⟨fun tunnel _ isOf => ?_, fun host _ isOf => ?_⟩⟩
    · have := isOf.2.1
      omega
    · have := isOf.2.1
      omega
  · rw [if_neg isNone]
    have soundTunnels := sound.rangeTunnels id fun _ => false
    have soundHosts := soundTunnels.rangeHosts id fun _ => false
    dsimp only
    by_cases noTunnels : (store.rangeClientTunnels env id fun _ => false).1 = []
    · rw [if_neg (by simp [noTunnels])]
      refine ⟨soundHosts, fun isFalse => ⟨?_, ?_⟩⟩
      · -- the tunnels are as they were before the hosts were looked at
        have untouched : HostStable fun store : Store Details => ∀ tunnel ∈ store.tasks.records,
            ¬ (ClientResource.tunnels env).Of id tunnel := ⟨fun _ _ _ _ _ holds => holds⟩
        exact untouched.resource.range id _
          (sound.tunnels.range_empty (tunnels_maintained env) noTunnels)
      · exact soundTunnels.hosts.range_empty (hosts_maintained env)
          (by simpa [rangeClientHosts] using isFalse)
    · rw [if_pos (by simpa using noTunnels)]
      refine ⟨soundTunnels, ?_⟩
      rintro ⟨⟩

end

theorem withoutRecords_linkStable {clientID : Int} :
    LinkStable fun store : Store Details => store.WithoutRecords env clientID where
  links := fun _ _ _ free => ⟨free.tunnels, free.hosts⟩

theorem RecordsSound.removeClient {current : Client Details} (sound : store.RecordsSound env)
    (free : store.WithoutRecords env current.id) :
    (store.removeClient env current).RecordsSound env ∧
      (store.removeClient env current).WithoutRecords env current.id := by
  have soundRemoved := recordsSound_userStable.removeIndexes current.id
    (sound.keys store.clientIncreaseId
      (store.blake2bVkeyIndex.remove (env.blake2b current.verifyKey)))
  have freeRemoved : ({ store with
      blake2bVkeyIndex := store.blake2bVkeyIndex.remove
        (env.blake2b current.verifyKey) }.removeClientUserIndexesByID
          current.id).WithoutRecords env current.id :=
    withoutRecords_linkStable.removeIndexes current.id ⟨free.tunnels, free.hosts⟩
  constructor
  · refine recordsSound_userStable.markReady (soundRemoved.clients _ _ ?_ ?_)
    · intro tunnel isTunnel clientID isOf
      rw [get_delete, if_neg]
      · exact soundRemoved.tunnels.refs tunnel isTunnel clientID isOf
      · rintro rfl
        exact freeRemoved.tunnels tunnel isTunnel isOf
    · intro host isHost clientID isOf
      rw [get_delete, if_neg]
      · exact soundRemoved.hosts.refs host isHost clientID isOf
      · rintro rfl
        exact freeRemoved.hosts host isHost isOf
  · exact withoutRecords_linkStable.markReady ⟨freeRemoved.tunnels, freeRemoved.hosts⟩

theorem RecordsSound.delClient (sound : store.RecordsSound env) {id : Int}
    (deleted : (store.delClient env id).1 = .ok ()) :
    (store.delClient env id).2.WithoutRecords env id := by
  have performs : Performs env store (.delClient id) (store.delClient env id) :=
    performs_delClient id
  generalize store.delClient env id = outcome at deleted performs
  cases performs with
  | rejected | clientHasResources => cases deleted
  | delClient _ isFree =>
    obtain ⟨checked, free⟩ := sound.clientOwnsPersistedResources _
    exact (checked.removeClient (free isFree)).2

/-! ## Tunnels -/

variable {clientId : Int} {current tunnel : Tunnel Details} {client : Client Details}

theorem isSome_of_resolveStoredClientRef {client : Option Int}
    (resolved : store.resolveStoredClientRef client = .ok clientId) :
    (store.clients.get clientId).isSome = true := by
  cases client with
  | none => cases resolved
  | some =>
    rw [resolveStoredClientRef] at resolved
    split_ifs at resolved with isZero isStored
    cases resolved
    exact isStored

theorem lists_moved (index : GroupIDIndex) (clientId : Option Int) (owner id : Int) :
    (0 < owner → 0 < id →
      ((removeClientEntry index clientId id).add owner id).markReady.Lists owner id) ∧
    ∀ group other, other ≠ id → index.Lists group other →
      ((removeClientEntry index clientId id).add owner id).markReady.Lists group other := by
  constructor
  · intro isClient positive
    rw [lists_markReady, lists_add]
    exact .inl ⟨rfl, rfl, isClient, positive⟩
  · intro _ _ differs lists
    rw [lists_markReady, lists_add, lists_removeClientEntry differs]
    exact .inr lists

theorem RecordsSound.rewriteTask (sound : store.RecordsSound env)
    (found : store.tasks.get current.id = some current) (sameId : tunnel.id = current.id)
    (sameClient : tunnel.clientId = current.clientId) :
    { store with tasks := store.tasks.store tunnel }.RecordsSound env := by
  refine ⟨?_, hostsSound_taskStable.tasks _ _ _ _ _ sound.hosts⟩
  exact sound.tunnels.rewritten rfl rfl rfl (mem_of_get found) sameId sameClient

theorem RecordsSound.createTask (sound : store.RecordsSound env)
    (refers : tunnel.clientId = some clientId)
    (isStored : (store.clients.get clientId).isSome = true) (taskIncreaseId : Int32)
    (taskPasswordIndex : StringIDIndex) :
    (store.createTask env tunnel clientId taskIncreaseId taskPasswordIndex).RecordsSound env := by
  obtain ⟨own, others⟩ := lists_moved store.taskClientIndex none clientId tunnel.id
  refine ⟨?_, hostsSound_taskStable.tasks _ _ _ _ store sound.hosts⟩
  exact sound.tunnels.stored rfl rfl refers isStored others (fun isOf => own isOf.2.1 isOf.1) rfl

theorem RecordsSound.replaceTask (sound : store.RecordsSound env) (sameId : current.id = tunnel.id)
    (refers : tunnel.clientId = some clientId)
    (isStored : (store.clients.get clientId).isSome = true) (taskPasswordIndex : StringIDIndex) :
    (store.replaceTask env current tunnel clientId taskPasswordIndex).RecordsSound env := by
  obtain ⟨own, others⟩ := lists_moved store.taskClientIndex current.clientId clientId tunnel.id
  refine ⟨?_, hostsSound_taskStable.tasks _ store.taskIncreaseId _ _ store sound.hosts⟩
  rw [Store.replaceTask, sameId]
  exact sound.tunnels.stored rfl rfl refers isStored others (fun isOf => own isOf.2.1 isOf.1) rfl

/-! ## Runs -/

theorem RecordsSound.step {event : StoreEvent Details} {next : Store Details}
    (sound : store.RecordsSound env) (stepEq : store.step env event = some next) :
    next.RecordsSound env := by
  obtain ⟨_, performs, rfl⟩ := performs_of_step stepEq
  cases performs with
  | rejected => exact sound
  | newUser user => exact recordsSound_userStable.writes.newUser user sound
  | updateUser user => exact recordsSound_userStable.writes.updateUser user sound
  | delUser id now => exact sound.delUser id now
  | newClient => exact sound.createClient _
  | updateClient => exact sound.replaceClient _ _
  | clientHasResources id => exact (sound.clientOwnsPersistedResources id).1
  | delClient _ isFree =>
    obtain ⟨checked, free⟩ := sound.clientOwnsPersistedResources _
    exact (checked.removeClient (free isFree)).1
  | newTask resolved => exact sound.createTask rfl (isSome_of_resolveStoredClientRef resolved) _ _
  | updateTask resolved found =>
    refine sound.replaceTask ?_ rfl (isSome_of_resolveStoredClientRef resolved) _
    exact key_of_get found
  | delTask =>
    refine ⟨?_, hostsSound_taskStable.tasks _ _ _ _ _ sound.hosts⟩
    refine sound.tunnels.deleted rfl rfl (fun group other differs lists => ?_) rfl
    exact (lists_removeClientEntry differs).mpr lists
  | bindRuntimeOwner found =>
    obtain ⟨sameId, sameClient⟩ := Tunnel.bindRuntimeOwner_keeps
    exact sound.rewriteTask found sameId sameClient
  | removeRuntimeOwner found =>
    obtain ⟨sameId, sameClient⟩ := Tunnel.removeRuntimeOwner_keeps
    exact sound.rewriteTask found sameId sameClient
  | newHost resolved =>
    refine ⟨tunnelsSound_hostStable.hosts _ _ _ _ store sound.tunnels, ?_⟩
    obtain ⟨own, others⟩ := lists_moved store.hostClientIndex none _ _
    exact sound.hosts.stored rfl rfl rfl (isSome_of_resolveStoredClientRef resolved) others
      (fun isOf => own isOf.2.1 isOf.1) rfl
  | @updateHost host old clientId resolved found =>
    refine ⟨tunnelsSound_hostStable.hosts _ store.hostIncreaseId _ _ store sound.tunnels, ?_⟩
    obtain ⟨own, others⟩ := lists_moved store.hostClientIndex old.clientId clientId host.id
    rw [Store.replaceHost, show old.id = host.id from key_of_get found]
    exact sound.hosts.stored rfl rfl rfl (isSome_of_resolveStoredClientRef resolved) others
      (fun isOf => own isOf.2.1 isOf.1) rfl
  | delHost =>
    refine ⟨tunnelsSound_hostStable.hosts _ _ _ _ _ sound.tunnels, ?_⟩
    refine sound.hosts.deleted rfl rfl (fun group other differs lists => ?_) rfl
    exact (lists_removeClientEntry differs).mpr lists

/-- As far as positive ids go, ranging gives exactly the records that the tables have, each once,
and a deleted client leaves no tunnel and no host that refers to it. -/
theorem ranges_exact (env : StoreEnv Details) (events : List (StoreEvent Details))
    (store : Store Details) (reaches : Runs.execute (Store.step env) new events = some store) :
    (∀ clientID, ((store.rangeClientTunnels env clientID fun _ => true).1.map Tunnel.id).Nodup ∧
      ∀ tunnel, tunnel ∈ (store.rangeClientTunnels env clientID fun _ => true).1 ↔
        tunnel ∈ store.tasks.records ∧ 0 < tunnel.id ∧ 0 < clientID ∧
          tunnel.clientId = some clientID) ∧
    (∀ clientID, ((store.rangeClientHosts env clientID fun _ => true).1.map Host.id).Nodup ∧
      ∀ host, host ∈ (store.rangeClientHosts env clientID fun _ => true).1 ↔
        host ∈ store.hosts.records ∧ 0 < host.id ∧ 0 < clientID ∧ host.clientId = some clientID) ∧
    (∀ userID, ((store.rangeOwnedClientsByUserID userID).1.map Client.id).Nodup ∧
      ∀ client, client ∈ (store.rangeOwnedClientsByUserID userID).1 ↔
        client ∈ store.clients.records ∧ 0 < client.id ∧ 0 < userID ∧ client.ownerID = userID) ∧
    (∀ userID, ((store.rangeManagedClientsByUserID userID).1.map Client.id).Nodup ∧
      ∀ client, client ∈ (store.rangeManagedClientsByUserID userID).1 ↔
        client ∈ store.clients.records ∧ 0 < client.id ∧ 0 < userID ∧
          userID ∈ client.managerUserIDs) ∧
    ∀ id, 0 < id → (store.delClient env id).1 = .ok () →
      (∀ tunnel ∈ (store.delClient env id).2.tasks.records, 0 < tunnel.id →
        tunnel.clientId ≠ some id) ∧
      ∀ host ∈ (store.delClient env id).2.hosts.records, 0 < host.id → host.clientId ≠ some id := by
  have records : store.RecordsSound env :=
    Runs.invariant_of_execute (RecordsSound env) (fun _ _ _ => RecordsSound.step)
      ⟨.of_empty rfl, .of_empty rfl⟩ reaches
  have links := linksSound_of_run reaches
  refine ⟨?_, ?_, ?_, ?_, ?_⟩
  · exact records.tunnels.range_exact (tunnels_maintained env)
  · exact records.hosts.range_exact (hosts_maintained env)
  · intro userID
    refine ⟨nodup_rangeClientsByUserID .., fun _ => ?_⟩
    by_cases isUser : 0 < userID
    · refine (mem_rangeClientsByUserID links links.ensureReady.1.owned isUser).trans ?_
      simp [UserLink.owned, isUser]
    · rw [rangeOwnedClientsByUserID, rangeClientsByUserID, if_pos (by omega)]
      simp [isUser]
  · intro userID
    refine ⟨nodup_rangeClientsByUserID .., fun _ => ?_⟩
    by_cases isUser : 0 < userID
    · refine (mem_rangeClientsByUserID links links.ensureReady.1.managed isUser).trans ?_
      simp [UserLink.managed, Client.hasManagerUserID, isUser]
    · rw [rangeManagedClientsByUserID, rangeClientsByUserID, if_pos (by omega)]
      simp [isUser]
  · intro _ isClient deleted
    have free := records.delClient deleted
    constructor
    · intro tunnel isTunnel positive refers
      exact free.tunnels tunnel isTunnel ⟨positive, isClient, refers⟩
    · intro host isHost positive refers
      exact free.hosts host isHost ⟨positive, isClient, refers⟩

def movedTunnel : List (StoreEvent Bare) :=
  [.newClient (Client.bare 0 "one" 0 []) [], .newClient (Client.bare 0 "two" 0 []) [],
    .newTask (Tunnel.bare 0 1 "tcp" "") [], .newTask (Tunnel.bare 0 1 "udp" "") [],
    .updateTask (Tunnel.bare 1 2 "tcp" "") [], .delTask 2]

theorem ranges_movedTunnel :
    ∃ store, Runs.execute (Store.step StoreEnv.bare) new movedTunnel = some store ∧
      (∃ tunnel ∈ (store.rangeClientTunnels StoreEnv.bare 2 fun _ => true).1, tunnel.id = 1) ∧
      (store.delClient StoreEnv.bare 1).1 = .ok () ∧
      ∀ tunnel ∈ (store.delClient StoreEnv.bare 1).2.tasks.records, 0 < tunnel.id →
        tunnel.clientId ≠ some 1 := by
  obtain ⟨store, reaches, moved, deleted⟩ :
      ∃ store, Runs.execute (Store.step bare) new movedTunnel = some store ∧
        (store.tasks.get 1).map Tunnel.clientId = some (some 2) ∧
        (store.delClient bare 1).1 = .ok () :=
    Runs.exists_of_any (by decide +kernel)
  obtain ⟨tunnel, found, refers⟩ := Option.map_eq_some_iff.mp moved
  have hasId : tunnel.id = 1 := key_of_get found
  obtain ⟨tunnels, -, -, -, free⟩ := ranges_exact bare movedTunnel store reaches
  refine ⟨store, reaches, ⟨tunnel, ?_, hasId⟩, deleted, (free 1 (by decide) deleted).1⟩
  refine ((tunnels 2).2 tunnel).mpr ⟨mem_of_get found, ?_, by decide, refers⟩
  rw [hasId]
  decide

def negativeTunnel : List (StoreEvent Bare) :=
  [.newClient (Client.bare 0 "one" 0 []) [], .newTask (Tunnel.bare (-3) 1 "tcp" "") []]

/-- A tunnel with a negative id is not found, and keeps the client that was deleted. -/
theorem ranges_miss_negative_id :
    ∃ store, Runs.execute (Store.step StoreEnv.bare) new negativeTunnel = some store ∧
      (∃ tunnel ∈ store.tasks.records, tunnel.clientId = some 1 ∧
        tunnel ∉ (store.rangeClientTunnels StoreEnv.bare 1 fun _ => true).1) ∧
      (store.delClient StoreEnv.bare 1).1 = .ok () ∧
      ∃ tunnel ∈ (store.delClient StoreEnv.bare 1).2.tasks.records, tunnel.clientId = some 1 := by
  obtain ⟨store, reaches, before, isEmpty, deleted, after⟩ :
      ∃ store, Runs.execute (Store.step bare) new negativeTunnel = some store ∧
        (store.tasks.get (-3)).map Tunnel.clientId = some (some 1) ∧
        (store.rangeClientTunnels bare 1 fun _ => true).1.isEmpty = true ∧
        (store.delClient bare 1).1 = .ok () ∧
        ∃ tunnel ∈ (store.delClient bare 1).2.tasks.records, tunnel.clientId = some 1 :=
    Runs.exists_of_any (by decide +kernel)
  obtain ⟨tunnel, found, refers⟩ := Option.map_eq_some_iff.mp before
  refine ⟨store, reaches, ⟨tunnel, mem_of_get found, refers, ?_⟩, deleted, after⟩
  rw [List.isEmpty_iff.mp isEmpty]
  exact List.not_mem_nil

end Store

end DeepNps.File
