import DeepNps.FileStoreFrames
import DeepNps.UniqueIndex

/-!
# The keys of the clients

The index of key hashes is exact as long as new clients get ids that are not in use.
-/

namespace DeepNps.File

open UniqueIndex.Exact Table Option Function

variable {Details : RecordKind → Type}

namespace Store

inductive HandshakeError
  | validation
  | load
  | disabled
  deriving DecidableEq, Repr

def resolveBridgeRuntimeClient (store : Store Details) (keyBuf : String) :
    Except HandshakeError (Int × Client Details) :=
  match store.getClientIdByBlake2bVkey keyBuf with
  | none => .error .validation
  | some id =>
      match store.clients.get id with
      | none => .error .load
      | some client => if client.status then .ok (id, client) else .error .disabled

def KeysExact (env : StoreEnv Details) (store : Store Details) : Prop :=
  UniqueIndex.Exact (fun client : Client Details => some (env.blake2b client.verifyKey))
    store.clients.get store.blake2bVkeyIndex.get

def FreshClientId (store : Store Details) : StoreEvent Details → Prop
  | .newClient client _ =>
      (store.clients.get client.id).isNone ∧
        (store.clients.get (allocateId store.clientIncreaseId client.id).1).isNone
  | _ => True

instance (store : Store Details) : (event : StoreEvent Details) →
    Decidable (store.FreshClientId event)
  | .newClient client _ =>
      inferInstanceAs (Decidable ((store.clients.get client.id).isNone ∧
        (store.clients.get (allocateId store.clientIncreaseId client.id).1).isNone))
  | .newUser _ | .updateUser _ | .delUser _ _ | .updateClient _ | .delClient _ | .newTask _ _
  | .updateTask _ _ | .delTask _ | .bindRuntimeOwner _ _ _ | .removeRuntimeOwner _ _ | .newHost _
  | .updateHost _ | .delHost _ => .isTrue trivial

variable {env : StoreEnv Details} {store : Store Details}

theorem verifyVkey_iff {vkey : String} {id : Int} : store.verifyVkey vkey id = true ↔
    ∀ client ∈ store.clients.records, client.verifyKey = vkey → client.id = id := by
  simp only [verifyVkey, List.all_eq_true, decide_eq_true_eq, not_and, not_not]

section

variable (P : Table (Client.id : Client Details → Int) → StringIDIndex → Prop)

include P

private theorem keys_linkStable :
    LinkStable fun store : Store Details => P store.clients store.blake2bVkeyIndex where
  links := fun _ _ _ holds => holds

private theorem keys_tunnels :
    (ClientResource.tunnels env).Stable fun store => P store.clients store.blake2bVkeyIndex where
  drop := fun _ _ holds _ => holds
  index := fun _ _ holds => holds

private theorem keys_hosts :
    (ClientResource.hosts env).Stable fun store => P store.clients store.blake2bVkeyIndex where
  drop := fun _ _ holds _ => holds
  index := fun _ _ holds => holds

end

theorem putClient_keys (store : Store Details) (client : Client Details) :
    (store.putClient client).clients = store.clients.store client ∧
      (store.putClient client).blake2bVkeyIndex = store.blake2bVkeyIndex :=
  (keys_linkStable fun clients index =>
    clients = store.clients.store client ∧ index = store.blake2bVkeyIndex).putClient client
      ⟨rfl, rfl⟩

theorem removeClientUserIndexesByID_keys (store : Store Details) (clientID : Int) :
    (store.removeClientUserIndexesByID clientID).clients = store.clients ∧
      (store.removeClientUserIndexesByID clientID).blake2bVkeyIndex = store.blake2bVkeyIndex :=
  (keys_linkStable fun clients index =>
    clients = store.clients ∧ index = store.blake2bVkeyIndex).removeIndexes clientID ⟨rfl, rfl⟩

theorem relinkClientReferences_keys (clientID : Int) :
    (store.relinkClientReferences env clientID).clients = store.clients ∧
      (store.relinkClientReferences env clientID).blake2bVkeyIndex = store.blake2bVkeyIndex :=
  relinkClientReferences_preserves
    (keys_tunnels fun clients index => clients = store.clients ∧ index = store.blake2bVkeyIndex)
    (keys_hosts fun clients index => clients = store.clients ∧ index = store.blake2bVkeyIndex)
    clientID ⟨rfl, rfl⟩

theorem clientOwnsPersistedResources_keys (env : StoreEnv Details) (store : Store Details)
    (id : Int) :
    (store.clientOwnsPersistedResources env id).2.clients = store.clients ∧
      (store.clientOwnsPersistedResources env id).2.blake2bVkeyIndex = store.blake2bVkeyIndex :=
  clientOwnsPersistedResources_preserves
    (keys_tunnels fun clients index => clients = store.clients ∧ index = store.blake2bVkeyIndex)
    (keys_hosts fun clients index => clients = store.clients ∧ index = store.blake2bVkeyIndex)
    id ⟨rfl, rfl⟩

section

variable (exact : store.KeysExact env)

include exact

section

variable (injective : Function.Injective env.blake2b)

include injective

theorem KeysExact.free {vkey : String} {id : Int} (verified : store.verifyVkey vkey id = true)
    {other : Int} (leads : store.blake2bVkeyIndex.get (env.blake2b vkey) = some other) :
    other = id := by
  obtain ⟨client, found, hasCode⟩ := (exact _ other).mp leads
  have sameKey := injective (some.inj hasCode)
  rw [← key_of_get found]
  exact verifyVkey_iff.mp verified client (mem_of_get found) sameKey

theorem KeysExact.createClient
    (client : Client Details)
    (verified : store.verifyVkey client.verifyKey client.id = true)
    (givenFree : store.clients.get client.id = none)
    (allocatedFree : store.clients.get (allocateId store.clientIncreaseId client.id).1 = none) :
    (store.createClient env client).KeysExact env := by
  have unindexed : store.blake2bVkeyIndex.get (env.blake2b client.verifyKey) = none := by
    refine exact.eq_none ?_
    intro _ record found hasCode
    have sameKey := injective (some.inj hasCode)
    have isGiven := verifyVkey_iff.mp verified record (mem_of_get found) sameKey
    rw [← isGiven, get_key_of_mem (mem_of_get found)] at givenFree
    cases givenFree
  obtain ⟨clientsEq, indexEq⟩ := putClient_keys
    { store with clientIncreaseId := (allocateId store.clientIncreaseId client.id).2 }
    ({ client with id := (allocateId store.clientIncreaseId client.id).1 }.applySetupHook env)
  rw [Store.createClient, KeysExact]
  dsimp only
  rw [clientsEq, indexEq, get_store_eq_update]
  exact insert exact allocatedFree rfl unindexed

theorem KeysExact.replaceClient {current client : Client Details}
    (found : store.clients.get client.id = some current)
    (verified : store.verifyVkey client.verifyKey client.id = true) :
    (store.replaceClient env current client).KeysExact env := by
  have free : update store.blake2bVkeyIndex.get (env.blake2b current.verifyKey) none
      (env.blake2b client.verifyKey) = none := by
    rw [update_apply]
    split_ifs with isCurrent
    · rfl
    · rw [eq_none_iff_forall_ne_some]
      intro _ leads
      -- the entry would be the one of the client itself, under its old key
      obtain rfl := exact.free injective verified leads
      obtain ⟨_, isFound, hasCode⟩ := (exact _ _).mp leads
      cases found.symm.trans isFound
      exact isCurrent (some.inj hasCode).symm
  rw [Store.replaceClient, KeysExact]
  dsimp only
  rw [(relinkClientReferences_keys _).1, (relinkClientReferences_keys _).2,
    (putClient_keys _ _).1, (putClient_keys _ _).2, get_store_eq_update]
  exact replace exact found rfl rfl free

end

theorem KeysExact.removeClient {current : Client Details}
    (found : store.clients.get current.id = some current) :
    (store.removeClient env current).KeysExact env := by
  rw [Store.removeClient, KeysExact]
  dsimp only [markClientUserIndexesReady]
  rw [(removeClientUserIndexesByID_keys _ _).1, (removeClientUserIndexesByID_keys _ _).2,
    get_delete_eq_update]
  exact erase exact found rfl

theorem KeysExact.clientOwnsPersistedResources (id : Int) :
    (store.clientOwnsPersistedResources env id).2.KeysExact env := by
  obtain ⟨clientsEq, indexEq⟩ := clientOwnsPersistedResources_keys env store id
  rw [KeysExact, clientsEq, indexEq]
  exact exact

end

theorem keysExact_userStable : UserStable fun store : Store Details => store.KeysExact env where
  links := fun _ _ _ holds => holds
  users := fun _ _ _ _ _ holds => holds

theorem KeysExact.delUser (exact : store.KeysExact env) (id now : Int) :
    (store.delUser id now).2.KeysExact env := by
  refine keysExact_userStable.delUser ?_ exact
  intro _ _ _ exact found isCleared
  obtain ⟨sameId, sameKey⟩ := Client.clearUserReference_keeps isCleared
  rw [KeysExact, get_store_eq_update, sameId]
  exact rewrite exact found (congrArg (fun key => some (env.blake2b key)) sameKey)

theorem KeysExact.step (injective : Function.Injective env.blake2b) {event : StoreEvent Details}
    {next : Store Details} (exact : store.KeysExact env) (fresh : store.FreshClientId event)
    (stepEq : store.step env event = some next) : next.KeysExact env := by
  obtain ⟨_, performs, rfl⟩ := performs_of_step stepEq
  cases performs with
  | rejected => exact exact
  | newUser user => exact keysExact_userStable.writes.newUser user exact
  | updateUser user => exact keysExact_userStable.writes.updateUser user exact
  | delUser id now => exact exact.delUser id now
  | newClient _ verified =>
    obtain ⟨givenFree, allocatedFree⟩ := fresh
    rw [isNone_iff_eq_none] at givenFree allocatedFree
    exact exact.createClient injective _ verified givenFree allocatedFree
  | updateClient found verified => exact exact.replaceClient injective found verified
  | clientHasResources id => exact exact.clientOwnsPersistedResources id
  | delClient found =>
    refine (exact.clientOwnsPersistedResources _).removeClient ?_
    rw [(clientOwnsPersistedResources_keys env store _).1]
    exact found
  | newTask | updateTask | delTask | bindRuntimeOwner | removeRuntimeOwner | newHost | updateHost
  | delHost => exact exact

/-- The hash of a key leads to an id exactly when the client with that id is stored and has the
key now, so a handshake that succeeds is the one of that client. -/
theorem getClientIdByBlake2bVkey_exact (env : StoreEnv Details)
    (injective : Function.Injective env.blake2b) (events : List (StoreEvent Details))
    (store : Store Details) (reaches : Runs.execute (Store.step env) new events = some store)
    (fresh : Runs.Meets (Store.step env) FreshClientId new events) :
    (∀ hash id, store.getClientIdByBlake2bVkey hash = some id ↔
      ∃ client, store.clients.get id = some client ∧ env.blake2b client.verifyKey = hash) ∧
    ∀ hash id client, store.resolveBridgeRuntimeClient hash = .ok (id, client) →
      store.clients.get id = some client ∧ env.blake2b client.verifyKey = hash ∧
        client.status = true ∧
        ∀ other ∈ store.clients.records, env.blake2b other.verifyKey = hash → other = client := by
  have exact : store.KeysExact env :=
    Runs.invariant_of_meets (KeysExact env) (fun _ _ _ => KeysExact.step injective)
      (by exact UniqueIndex.exact_empty) fresh reaches
  have leads : ∀ hash id, store.getClientIdByBlake2bVkey hash = some id ↔
      ∃ client, store.clients.get id = some client ∧ env.blake2b client.verifyKey = hash := by
    intro hash id
    rw [getClientIdByBlake2bVkey, exact hash id]
    simp only [some.injEq]
  refine ⟨leads, ?_⟩
  intro hash id _ resolved
  rw [resolveBridgeRuntimeClient] at resolved
  cases indexed : store.getClientIdByBlake2bVkey hash with
  | none => simp [indexed] at resolved
  | some found =>
    obtain ⟨_, isStored, hasKey⟩ := (leads hash found).mp indexed
    simp only [indexed, isStored] at resolved
    split_ifs at resolved with isEnabled
    cases resolved
    refine ⟨isStored, hasKey, isEnabled, ?_⟩
    intro other isOther otherKey
    have otherIndexed := (leads hash other.id).mpr ⟨other, get_key_of_mem isOther, otherKey⟩
    have sameId : id = other.id := some.inj (indexed.symm.trans otherIndexed)
    rw [sameId, get_key_of_mem isOther] at isStored
    exact some.inj isStored

def replacedKeys : List (StoreEvent Bare) :=
  [.newClient (Client.bare 0 "first" 0 []) [],
    .newClient (Client.bare 0 " " 0 [])
      [⟨"0123456789abcdef", by decide, List.all_eq_true.mp (by decide)⟩],
    .updateClient (Client.bare 1 "third" 0 []), .delClient 2]

theorem getClientIdByBlake2bVkey_replaced_key :
    ∃ store, Runs.execute (Store.step StoreEnv.bare) new replacedKeys = some store ∧
      store.getClientIdByBlake2bVkey "third" = some 1 ∧
      store.getClientIdByBlake2bVkey "first" ≠ some 1 ∧
      store.getClientIdByBlake2bVkey "0123456789abcdef" ≠ some 2 := by
  obtain ⟨store, reaches, first, second⟩ :
      ∃ store, Runs.execute (Store.step StoreEnv.bare) new replacedKeys = some store ∧
        (store.clients.get 1).map Client.verifyKey = some "third" ∧
        (store.clients.get 2).isNone = true :=
    Runs.exists_of_any (by decide +kernel)
  obtain ⟨client, isStored, hasKey⟩ := map_eq_some_iff.mp first
  obtain ⟨leads, -⟩ := getClientIdByBlake2bVkey_exact StoreEnv.bare injective_id
    replacedKeys store reaches (by decide +kernel)
  refine ⟨store, reaches, (leads "third" 1).mpr ⟨client, isStored, hasKey⟩, ?_, ?_⟩
  · rw [Ne, leads]
    rintro ⟨other, isOther, otherKey⟩
    cases isStored.symm.trans isOther
    exact absurd (hasKey.symm.trans otherKey) (by decide)
  · rw [Ne, leads]
    rintro ⟨other, isOther, -⟩
    rw [isOther] at second
    cases second

end Store

end DeepNps.File
