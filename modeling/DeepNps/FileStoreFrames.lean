import DeepNps.FileStoreOps

/-!
# What the operations leave alone

A property that does not look at one of the five parts of the store is preserved by the
operations on that part, and what repairs preserve is preserved by ranging.
-/

namespace DeepNps.File

open Option List

variable {Details : RecordKind → Type}

/-! ## What an operation does -/

namespace Store

/-- An error and the store as it was, or a change.  The checks of the operations on users repair
the index of names, so these are not looked into. -/
inductive Performs (env : StoreEnv Details) (store : Store Details) :
    StoreEvent Details → Outcome Details → Prop
  | rejected {event : StoreEvent Details} (error : StoreError) :
      Performs env store event (.error error, store)
  | newUser (user : User Details) : Performs env store (.newUser user) (store.newUser env user)
  | updateUser (user : User Details) :
      Performs env store (.updateUser user) (store.updateUser env user)
  | delUser (id now : Int) : Performs env store (.delUser id now) (store.delUser id now)
  | newClient {client : Client Details} {randoms : List RandomText} (verifyKey : String)
      (verified : store.verifyVkey verifyKey client.id = true) :
      Performs env store (.newClient client randoms)
        (.ok (), store.createClient env { client with verifyKey })
  | updateClient {client current : Client Details}
      (found : store.clients.get client.id = some current)
      (verified : store.verifyVkey (Text.trimSpace client.verifyKey) client.id = true) :
      Performs env store (.updateClient client)
        (.ok (), store.replaceClient env current
          { client with verifyKey := Text.trimSpace client.verifyKey })
  | clientHasResources (id : Int) :
      Performs env store (.delClient id)
        (.error .clientHasResources, (store.clientOwnsPersistedResources env id).2)
  | delClient {current : Client Details} (found : store.clients.get current.id = some current)
      (free : (store.clientOwnsPersistedResources env current.id).1 = false) :
      Performs env store (.delClient current.id)
        (.ok (), (store.clientOwnsPersistedResources env current.id).2.removeClient env current)
  | newTask {tunnel : Tunnel Details} {randoms : List RandomText} {clientId : Int}
      {filled : String × List RandomText} {settled : String × StringIDIndex}
      (resolved : store.resolveStoredClientRef tunnel.clientId = .ok clientId)
      (isSettled : settlePassword env (allocateId store.taskIncreaseId tunnel.id).1 filled.1
        filled.2 store.taskPasswordIndex = some settled) :
      Performs env store (.newTask tunnel randoms)
        (.ok (), store.createTask env
          { tunnel with
            id := (allocateId store.taskIncreaseId tunnel.id).1
            clientId := some clientId
            password := settled.1 }
          clientId (allocateId store.taskIncreaseId tunnel.id).2 settled.2)
  | updateTask {tunnel current : Tunnel Details} {randoms : List RandomText} {clientId : Int}
      {filled : String × List RandomText} {settled : String × StringIDIndex}
      (resolved : store.resolveStoredClientRef tunnel.clientId = .ok clientId)
      (found : store.tasks.get tunnel.id = some current)
      (isSettled : settlePassword env tunnel.id filled.1 filled.2
        (withoutPassword env current store.taskPasswordIndex) = some settled) :
      Performs env store (.updateTask tunnel randoms)
        (.ok (), store.replaceTask env current
          { tunnel with clientId := some clientId, password := settled.1, expectedRevision := 0 }
          clientId settled.2)
  | delTask {current : Tunnel Details} (found : store.tasks.get current.id = some current) :
      Performs env store (.delTask current.id)
        (.ok (), { store with
          taskPasswordIndex := store.taskPasswordIndex.remove (env.md5 current.password)
          taskClientIndex :=
            (removeClientEntry store.taskClientIndex current.clientId current.id).markReady
          tasks := store.tasks.delete current.id })
  | bindRuntimeOwner {tunnel : Tunnel Details} (found : store.tasks.get tunnel.id = some tunnel)
      (uuid : String) (snapshot : TunnelSnapshot Details) :
      Performs env store (.bindRuntimeOwner tunnel.id uuid snapshot)
        (.ok (), { store with
          tasks := store.tasks.store (tunnel.bindRuntimeOwner env uuid snapshot) })
  | removeRuntimeOwner {tunnel : Tunnel Details} (found : store.tasks.get tunnel.id = some tunnel)
      (uuid : String) :
      Performs env store (.removeRuntimeOwner tunnel.id uuid)
        (.ok (), { store with
          tasks := store.tasks.store (tunnel.removeRuntimeOwner env uuid).2 })
  | newHost {host : Host Details} {clientId : Int}
      (resolved : store.resolveStoredClientRef host.clientId = .ok clientId)
      (accepted : ¬ store.isHostExist
        { host with clientId := some clientId }.normalizeRoutingFields) :
      Performs env store (.newHost host)
        (.ok (), store.createHost env { host with clientId := some clientId }.normalizeRoutingFields
          clientId)
  | updateHost {host old : Host Details} {clientId : Int}
      (resolved : store.resolveStoredClientRef host.clientId = .ok clientId)
      (found : store.hosts.get host.id = some old)
      (accepted : ¬ store.isHostExist
        { host with clientId := some clientId }.normalizeRoutingFields) :
      Performs env store (.updateHost host)
        (.ok (), store.replaceHost env old
          { host with clientId := some clientId }.normalizeRoutingFields clientId)
  | delHost {current : Host Details} (found : store.hosts.get current.id = some current) :
      Performs env store (.delHost current.id)
        (.ok (), { store with
          hostIndex := store.hostIndex.remove env.lower current.host current.id
          hostClientIndex :=
            (removeClientEntry store.hostClientIndex current.clientId current.id).markReady
          hosts := store.hosts.delete current.id })

section Performs

variable {env : StoreEnv Details} {store : Store Details} {outcome : Outcome Details}
  {randoms : List RandomText} {tunnel : Tunnel Details} {event : StoreEvent Details}

theorem performs_delClient (id : Int) :
    Performs env store (.delClient id) (store.delClient env id) := by
  have checks : ∀ {owns after}, store.clientOwnsPersistedResources env id = (owns, after) →
      (store.clientOwnsPersistedResources env id).1 = owns ∧
        (store.clientOwnsPersistedResources env id).2 = after :=
    fun checked => ⟨by rw [checked], by rw [checked]⟩
  fun_cases Store.delClient env id store with
  | case1 => exact .rejected _
  | case2 _ _ _ owns =>
    obtain ⟨-, rfl⟩ := checks owns
    exact .clientHasResources id
  | case3 _ found _ owns =>
    obtain ⟨isFree, rfl⟩ := checks owns
    obtain rfl := Table.key_of_get found
    exact .delClient found isFree

theorem performs_of_perform (performed : store.perform env event = some outcome) :
    Performs env store event outcome := by
  cases event with
  | newClient client randoms =>
    revert performed
    rw [perform]
    fun_cases Store.newClient env client randoms store with
    | case1 =>
      intro performed
      obtain ⟨key, drawn, rfl⟩ := map_eq_some_iff.mp performed
      exact .newClient key.1 (by simpa using find?_some drawn)
    | case2 _ _ verified =>
      rintro ⟨⟩
      exact .newClient _ verified
    | case3 =>
      rintro ⟨⟩
      exact .rejected _
  | newTask tunnel randoms =>
    revert performed
    rw [perform]
    fun_cases Store.newTask env tunnel randoms store with
    | case1 =>
      rintro ⟨⟩
      exact .rejected _
    | case2 _ resolved =>
      intro performed
      obtain ⟨_, -, settles⟩ := bind_eq_some_iff.mp performed
      obtain ⟨_, isSettled, rfl⟩ := map_eq_some_iff.mp settles
      exact .newTask resolved isSettled
  | updateTask tunnel randoms =>
    revert performed
    rw [perform]
    fun_cases Store.updateTask env tunnel randoms store with
    | case4 _ resolved _ found =>
      intro performed
      obtain ⟨_, -, settles⟩ := bind_eq_some_iff.mp performed
      obtain ⟨_, isSettled, rfl⟩ := map_eq_some_iff.mp settles
      exact .updateTask resolved found isSettled
    | _ =>
      rintro ⟨⟩
      exact .rejected _
  | newUser user => exact some.inj performed ▸ .newUser user
  | updateUser user => exact some.inj performed ▸ .updateUser user
  | delUser id now => exact some.inj performed ▸ .delUser id now
  | updateClient client =>
    obtain rfl := some.inj performed
    fun_cases Store.updateClient env client store with
    | case5 _ _ found _ _ verified => exact .updateClient found (not_not.mp verified)
    | _ => exact .rejected _
  | delClient id => exact some.inj performed ▸ performs_delClient id
  | delTask id =>
    obtain rfl := some.inj performed
    fun_cases Store.delTask env id store with
    | case1 => exact .rejected _
    | case2 _ found =>
      obtain rfl := Table.key_of_get found
      exact .delTask found
  | bindRuntimeOwner id uuid snapshot =>
    obtain rfl := some.inj performed
    fun_cases Store.bindRuntimeOwner env id uuid snapshot store with
    | case1 => exact .rejected _
    | case2 _ found =>
      obtain rfl := Table.key_of_get found
      exact .bindRuntimeOwner found uuid snapshot
  | removeRuntimeOwner id uuid =>
    obtain rfl := some.inj performed
    fun_cases Store.removeRuntimeOwner env id uuid store with
    | case1 => exact .rejected _
    | case2 _ found =>
      obtain rfl := Table.key_of_get found
      exact .removeRuntimeOwner found uuid
  | newHost host =>
    obtain rfl := some.inj performed
    fun_cases Store.newHost env host store with
    | case3 _ resolved _ accepted => exact .newHost resolved accepted
    | _ => exact .rejected _
  | updateHost host =>
    obtain rfl := some.inj performed
    fun_cases Store.updateHost env host store with
    | case5 _ resolved _ found _ _ accepted => exact .updateHost resolved found accepted
    | _ => exact .rejected _
  | delHost id =>
    obtain rfl := some.inj performed
    fun_cases Store.delHost env id store with
    | case1 => exact .rejected _
    | case2 _ found =>
      obtain rfl := Table.key_of_get found
      exact .delHost found

theorem performs_of_step {next : Store Details} (stepEq : store.step env event = some next) :
    ∃ outcome, Performs env store event outcome ∧ outcome.2 = next := by
  obtain ⟨outcome, performed, isNext⟩ := map_eq_some_iff.mp stepEq
  exact ⟨outcome, performs_of_perform performed, isNext⟩

end Performs

end Store

/-! ## Ranging over the clients of a user -/

namespace UserLink

variable {link : UserLink Details} {P : Store Details → Prop} {store : Store Details}

theorem visit_preserves {userID : Int} (removed : ∀ clientID store, P store →
      (∀ client, store.clients.get clientID = some client → ¬ link.owns userID client = true) →
      P (link.setIndex ((link.index store).remove userID clientID) store))
    (clientIDs : List Int) (holds : P store) : P (link.visit userID clientIDs store).2 := by
  induction clientIDs generalizing store with
  | nil => exact holds
  | cons clientID _ ih =>
    rw [visit]
    cases found : store.clients.get clientID with
    | none => exact ih (removed _ _ holds (by simp [found]))
    | some =>
      dsimp only
      split_ifs with isOwn
      · exact ih holds
      · refine ih (removed _ _ holds fun other isFound => ?_)
        cases found.symm.trans isFound
        exact isOwn

end UserLink

namespace Store

/-- What the repair of the links between users and clients preserves. -/
structure LinkStable (P : Store Details → Prop) : Prop where
  links : ∀ ownerClientIndex managerClientIndex store, P store →
    P { store with ownerClientIndex, managerClientIndex }

namespace LinkStable

variable {P : Store Details → Prop} {store : Store Details}

section

variable (stable : LinkStable P)

include stable

theorem clear (holds : P store) : P store.clearClientUserIndexes := stable.links _ _ _ holds

theorem markReady (holds : P store) : P store.markClientUserIndexesReady := stable.links _ _ _ holds

theorem addIndexes (client : Client Details) (holds : P store) :
    P (store.addClientUserIndexes client) := by
  rw [addClientUserIndexes]
  split_ifs
  · exact holds
  · exact stable.links _ _ _ holds

theorem removeIndexes (clientID : Int) (holds : P store) :
    P (store.removeClientUserIndexesByID clientID) := by
  rw [removeClientUserIndexesByID]
  split_ifs
  · exact holds
  · exact stable.links _ _ _ holds

theorem ensureReady (holds : P store) : P store.ensureClientUserIndexesReady := by
  rw [ensureClientUserIndexesReady]
  split_ifs
  · exact holds
  · refine stable.markReady ?_
    have cleared := stable.clear holds
    generalize store.clearClientUserIndexes = start at cleared
    induction store.clients.records generalizing start with
    | nil => exact cleared
    | cons client _ ih => exact ih _ (stable.addIndexes client cleared)

theorem rangeOwned (userID : Int) (holds : P store) :
    P (store.rangeOwnedClientsByUserID userID).2 := by
  rw [rangeOwnedClientsByUserID, rangeClientsByUserID]
  split_ifs
  · exact holds
  · exact UserLink.visit_preserves (fun _ store holds _ => stable.links _ _ store holds) _
      (stable.ensureReady holds)

theorem rangeManaged (userID : Int) (holds : P store) :
    P (store.rangeManagedClientsByUserID userID).2 := by
  rw [rangeManagedClientsByUserID, rangeClientsByUserID]
  split_ifs
  · exact holds
  · exact UserLink.visit_preserves (fun _ store holds _ => stable.links _ _ store holds) _
      (stable.ensureReady holds)

theorem putClient (client : Client Details)
    (holds : P { store with clients := store.clients.store client }) :
    P (store.putClient client) :=
  stable.markReady (stable.addIndexes _ (stable.removeIndexes _ holds))

end

theorem clearUserReferences (stable : LinkStable P) {userID now : Int}
    (rewritten : ∀ store client cleared, P store → store.clients.get client.id = some client →
      client.clearUserReference userID now = some cleared →
      P { store with clients := store.clients.store cleared })
    (holds : P store) : P (store.clearUserReferences userID now) := by
  have each : ∀ clientIDs store, P store →
      P (clearUserReferencesOf userID now clientIDs store).2 := by
    intro clientIDs
    induction clientIDs with
    | nil => exact fun _ => id
    | cons clientID _ ih =>
      intro store holds
      refine ih _ ?_
      rw [clearUserReference]
      cases found : store.clients.get clientID with
      | none => exact stable.removeIndexes _ holds
      | some client =>
        obtain rfl := Table.key_of_get found
        dsimp only
        cases cleared : client.clearUserReference userID now with
        | none => exact holds
        | some new =>
          exact stable.addIndexes _
            (stable.removeIndexes _ (rewritten store client new holds found cleared))
  have collected := stable.rangeManaged userID (stable.rangeOwned userID (stable.ensureReady holds))
  rw [Store.clearUserReferences]
  dsimp only
  split_ifs
  · exact holds
  · exact stable.markReady (each _ _ collected)
  · exact each _ _ collected

end LinkStable

end Store

/-! ## Ranging over the records of a client -/

namespace ClientResource

variable {Record : Type} {resource : ClientResource Details Record}
  {P : Store Details → Prop} {store : Store Details}

/-- What the repair of the records of clients preserves. -/
structure Stable (resource : ClientResource Details Record) (P : Store Details → Prop) : Prop where
  drop : ∀ record store, P store → record ∈ (resource.table store).records →
    P (resource.drop record store)
  index : ∀ index store, P store → P (resource.setIndex index store)

namespace Stable

theorem syncIndexedClient (stable : resource.Stable P) {record : Record} (holds : P store)
    (isRecord : record ∈ (resource.table store).records) :
    P (resource.syncIndexedClient record store).2 := by
  rw [ClientResource.syncIndexedClient]
  dsimp only
  split_ifs
  · exact holds
  · exact stable.drop _ _ holds isRecord
  · exact holds

theorem reindex (stable : resource.Stable P) {record : Record} (holds : P store)
    (isRecord : record ∈ (resource.table store).records) : P (resource.reindex store record) := by
  rw [ClientResource.reindex]
  have synced := stable.syncIndexedClient holds isRecord
  cases synchronized : resource.syncIndexedClient record store with
  | mk found =>
    rw [synchronized] at synced
    cases found with
    | none => exact synced
    | some => exact stable.index _ _ synced

section

variable (stable : resource.Stable P)

include stable

theorem foldl_reindex {records : List Record} (holds : P store)
    (distinct : (records.map resource.id).Nodup)
    (areRecords : ∀ record ∈ records, record ∈ (resource.table store).records) :
    P (records.foldl resource.reindex store) := by
  induction records generalizing store with
  | nil => exact holds
  | cons record _ ih =>
    rw [map_cons, nodup_cons] at distinct
    refine ih (stable.reindex holds (areRecords record mem_cons_self)) distinct.2 ?_
    intro other isOther
    have isStored := areRecords other (mem_cons_of_mem _ isOther)
    rw [ClientResource.reindex, ClientResource.syncIndexedClient]
    dsimp only
    split_ifs
    · exact isStored
    · dsimp only
      rw [resource.table_drop]
      refine Table.mem_delete.mpr ⟨isStored, fun sameId => distinct.1 ?_⟩
      exact sameId ▸ mem_map_of_mem isOther
    · dsimp only
      rwa [resource.table_setIndex]

theorem ensureReady (holds : P store) : P (resource.ensureIndexReady store) := by
  rw [ensureIndexReady]
  split_ifs
  · exact holds
  · refine stable.index _ _ ?_
    exact stable.foldl_reindex (stable.index _ _ holds) (Table.nodup _) fun _ isRecord => isRecord

theorem visit (clientID : Int) (continues : Record → Bool) (ids : List Int) (holds : P store) :
    P (resource.visit clientID continues ids store).2 := by
  induction ids generalizing store with
  | nil => exact holds
  | cons id _ ih =>
    rw [ClientResource.visit]
    cases found : (resource.table store).get id with
    | none => exact ih (stable.index _ _ holds)
    | some record =>
      have synced := stable.syncIndexedClient holds (Table.mem_of_get found)
      dsimp only
      cases synchronized : resource.syncIndexedClient record store with
      | mk actual =>
        rw [synchronized] at synced
        cases actual with
        | none => exact ih (stable.index _ _ synced)
        | some =>
          dsimp only
          split_ifs
          · exact ih (stable.index _ _ (stable.index _ _ synced))
          · exact ih synced
          · exact synced

theorem range (clientID : Int) (continues : Record → Bool) (holds : P store) :
    P (resource.range clientID continues store).2 := by
  rw [ClientResource.range]
  split_ifs
  · exact holds
  · exact stable.visit _ _ _ (stable.ensureReady holds)

end

end Stable

end ClientResource

namespace Store

section Ranging

variable {env : StoreEnv Details} {P : Store Details → Prop} {store : Store Details}
  (tunnels : (ClientResource.tunnels env).Stable P) (hosts : (ClientResource.hosts env).Stable P)

include tunnels hosts

theorem relinkClientReferences_preserves (clientID : Int) (holds : P store) :
    P (store.relinkClientReferences env clientID) :=
  hosts.range _ _ (tunnels.range _ _ holds)

theorem clientOwnsPersistedResources_preserves (id : Int) (holds : P store) :
    P (store.clientOwnsPersistedResources env id).2 := by
  rw [clientOwnsPersistedResources]
  dsimp only
  split_ifs
  · exact holds
  · exact hosts.range _ _ (tunnels.range _ _ holds)
  · exact tunnels.range _ _ holds

end Ranging

/-! ## The operations on one part -/

section Parts

variable {env : StoreEnv Details} {P : Store Details → Prop} {store : Store Details}

/-- A property that does not look at the users, and that ranging over the clients that
a user owns preserves. -/
structure UserWriteStable (P : Store Details → Prop) : Prop where
  users : ∀ users userIncreaseId usernameIndex platformUserIndex store, P store →
    P { store with users, userIncreaseId, usernameIndex, platformUserIndex }
  ranged : ∀ userID store, P store → P (rangeOwnedClientsByUserID userID store).2

/-- A property that looks neither at the users nor at their links to clients. -/
structure UserStable (P : Store Details → Prop) : Prop extends LinkStable P where
  users : ∀ users userIncreaseId usernameIndex platformUserIndex store, P store →
    P { store with users, userIncreaseId, usernameIndex, platformUserIndex }

theorem UserStable.writes (stable : UserStable P) : UserWriteStable P where
  users := stable.users
  ranged := fun userID _ => stable.rangeOwned userID

structure ClientStable (P : Store Details → Prop) : Prop extends LinkStable P where
  clients : ∀ clients clientIncreaseId blake2bVkeyIndex store, P store →
    P { store with clients, clientIncreaseId, blake2bVkeyIndex }

structure TaskStable (P : Store Details → Prop) : Prop where
  tasks : ∀ tasks taskIncreaseId taskPasswordIndex taskClientIndex store, P store →
    P { store with tasks, taskIncreaseId, taskPasswordIndex, taskClientIndex }

structure HostStable (P : Store Details → Prop) : Prop where
  hosts : ∀ hosts hostIncreaseId hostIndex hostClientIndex store, P store →
    P { store with hosts, hostIncreaseId, hostIndex, hostClientIndex }

theorem TaskStable.resource (stable : TaskStable P) : (ClientResource.tunnels env).Stable P where
  drop := fun _ _ holds _ => stable.tasks _ _ _ _ _ holds
  index := fun _ _ => stable.tasks _ _ _ _ _

theorem HostStable.resource (stable : HostStable P) : (ClientResource.hosts env).Stable P where
  drop := fun _ _ holds _ => stable.hosts _ _ _ _ _ holds
  index := fun _ _ => stable.hosts _ _ _ _ _

section

variable (stable : UserWriteStable P)

include stable

theorem UserWriteStable.getUserByUsernameIndex {username : String}
    {result : Option (User Details) × Store Details}
    (isResult : store.getUserByUsernameIndex username = result) (holds : P store) :
    P result.2 := by
  subst isResult
  fun_cases Store.getUserByUsernameIndex username store with
  | case4 | case5 => exact stable.users _ _ _ _ _ holds
  | _ => exact holds

theorem UserWriteStable.verifyUserName {username : String} {exceptUserID : Int}
    {result : Bool × Store Details}
    (isResult : store.verifyUserName username exceptUserID = result) (holds : P store) :
    P result.2 := by
  subst isResult
  fun_cases Store.verifyUserName username exceptUserID store with
  | case1 => exact holds
  | case5 _ _ _ isAfter =>
    exact stable.users _ _ _ _ _ (stable.getUserByUsernameIndex isAfter holds)
  | case2 _ _ _ _ isAfter => exact stable.getUserByUsernameIndex isAfter holds
  | case3 _ _ _ isAfter | case4 _ _ _ isAfter
  | case6 _ _ _ isAfter => exact stable.getUserByUsernameIndex isAfter holds

theorem UserWriteStable.putUser (user : User Details) (holds : P store) : P (store.putUser user) :=
  stable.ranged _ _ (stable.users _ _ _ _ _ (stable.users _ _ _ _ _ holds))

theorem UserWriteStable.createUser (user : User Details) (holds : P store) :
    P (store.createUser env user) :=
  stable.putUser _ (stable.users _ _ _ _ _ holds)

theorem UserWriteStable.newUser (user : User Details) (holds : P store) :
    P (store.newUser env user).2 := by
  fun_cases Store.newUser env user store with
  | case1 => exact holds
  | case2 _ _ _ isAfter => exact stable.verifyUserName isAfter holds
  | case3 _ _ _ isAfter => exact stable.createUser _ (stable.verifyUserName isAfter holds)

theorem UserWriteStable.updateUser (user : User Details) (holds : P store) :
    P (store.updateUser env user).2 := by
  fun_cases Store.updateUser env user store with
  | case4 _ _ _ _ _ _ isAfter => exact stable.verifyUserName isAfter holds
  | case5 _ _ _ _ _ _ isAfter =>
    exact stable.putUser _ (stable.users _ _ _ _ _ (stable.verifyUserName isAfter holds))
  | _ => exact holds

end

theorem UserStable.delUser (stable : UserStable P) {id now : Int}
    (rewritten : ∀ store client cleared, P store → store.clients.get client.id = some client →
      client.clearUserReference id now = some cleared →
      P { store with clients := store.clients.store cleared })
    (holds : P store) : P (store.delUser id now).2 := by
  rw [Store.delUser]
  cases store.users.get id with
  | none => exact holds
  | some current =>
    have unindexed : P (store.removeUserIndexes current) := stable.users _ _ _ _ _ holds
    exact stable.clearUserReferences rewritten (stable.users _ _ _ _ _ unindexed)

theorem ClientStable.createClient (stable : ClientStable P) (client : Client Details)
    (holds : P store) : P (store.createClient env client) :=
  stable.clients _ _ _ _ (stable.putClient _
    (stable.clients _ _ _ _ (stable.clients _ _ _ _ holds)))

theorem ClientStable.replaceClient (stable : ClientStable P)
    (tunnels : (ClientResource.tunnels env).Stable P)
    (hosts : (ClientResource.hosts env).Stable P) (current client : Client Details)
    (holds : P store) : P (store.replaceClient env current client) := by
  refine stable.clients _ _ _ _ (relinkClientReferences_preserves tunnels hosts _ ?_)
  exact stable.putClient _ (stable.clients _ store.clientIncreaseId _ store holds)

theorem ClientStable.removeClient (stable : ClientStable P) (current : Client Details)
    (holds : P store) : P (store.removeClient env current) :=
  stable.markReady (stable.clients _ _ _ _
    (stable.removeIndexes _ (stable.clients _ store.clientIncreaseId _ _ holds)))

end Parts

end Store

end DeepNps.File
