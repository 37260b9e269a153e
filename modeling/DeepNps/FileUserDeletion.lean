import DeepNps.FileUserLinks

/-!
# Deleting a user

Deleting a user rewrites the clients that the indexes list, so afterwards no client with
a positive id has a tie to the user.
-/

namespace DeepNps.File

open Table Client List

variable {Details : RecordKind → Type}

/-! ## How the indexes are maintained -/

namespace UserLink

variable {link : UserLink Details} {store : Store Details} {client : Client Details}

/-- What storing and removing clients does to the index of a link. -/
structure Maintained (link : UserLink Details) : Prop where
  lists_add : ∀ client store userID id,
    (link.index (Store.addClientUserIndexes client store)).Lists userID id ↔
      (id = client.id ∧ 0 < id ∧ 0 < userID ∧ link.owns userID client = true) ∨
        (link.index store).Lists userID id
  lists_remove : ∀ clientID store userID id,
    (link.index (Store.removeClientUserIndexesByID clientID store)).Lists userID id ↔
      (link.index store).Lists userID id ∧ ¬ (id = clientID ∧ 0 < id)
  index_clients : ∀ clients store, link.index { store with clients } = link.index store

theorem owned_maintained : (owned : UserLink Details).Maintained where
  lists_add := by
    intro _ _ _ _
    simp only [owned, Store.addClientUserIndexes, decide_eq_true_eq]
    split_ifs with isGuarded
    · constructor
      · exact .inr
      · rintro (⟨rfl, positive, -⟩ | lists)
        · omega
        · exact lists
    · rw [GroupIDIndex.lists_add]
      constructor
      · rintro (⟨rfl, rfl, isUser, positive⟩ | lists)
        · exact .inl ⟨rfl, positive, isUser, rfl⟩
        · exact .inr lists
      · rintro (⟨rfl, positive, isUser, rfl⟩ | lists)
        · exact .inl ⟨rfl, rfl, isUser, positive⟩
        · exact .inr lists
  lists_remove := by
    intro _ _ _ _
    simp only [owned, Store.removeClientUserIndexesByID]
    split_ifs with isGuarded
    · constructor
      · exact fun lists => ⟨lists, by omega⟩
      · exact And.left
    · exact GroupIDIndex.lists_removeID
  index_clients := fun _ _ => rfl

theorem managed_maintained : (managed : UserLink Details).Maintained where
  lists_add := by
    intro _ _ _ _
    simp only [managed, Store.addClientUserIndexes, hasManagerUserID, Bool.and_eq_true,
      decide_eq_true_eq]
    split_ifs with isGuarded
    · constructor
      · exact .inr
      · rintro (⟨rfl, positive, -⟩ | lists)
        · omega
        · exact lists
    · rw [GroupIDIndex.lists_foldl_add]
      constructor
      · rintro (⟨isManager, rfl, isUser, positive⟩ | lists)
        · exact .inl ⟨rfl, positive, isUser, isUser, isManager⟩
        · exact .inr lists
      · rintro (⟨rfl, positive, isUser, -, isManager⟩ | lists)
        · exact .inl ⟨isManager, rfl, isUser, positive⟩
        · exact .inr lists
  lists_remove := by
    intro _ _ _ _
    simp only [managed, Store.removeClientUserIndexesByID]
    split_ifs with isGuarded
    · constructor
      · exact fun lists => ⟨lists, by omega⟩
      · exact And.left
    · exact GroupIDIndex.lists_removeID
  index_clients := fun _ _ => rfl

end UserLink

open UserLink

namespace Store

variable {store : Store Details} {client : Client Details} {clientID : Int}

@[simp]
theorem clients_addClientUserIndexes :
    (store.addClientUserIndexes client).clients = store.clients := by
  rw [addClientUserIndexes]
  split_ifs <;> rfl

@[simp]
theorem clients_removeClientUserIndexesByID :
    (store.removeClientUserIndexesByID clientID).clients = store.clients := by
  rw [removeClientUserIndexesByID]
  split_ifs <;> rfl

@[simp]
theorem clientUserIndexesReady_addClientUserIndexes :
    (store.addClientUserIndexes client).clientUserIndexesReady = store.clientUserIndexesReady := by
  rw [addClientUserIndexes]
  split_ifs
  · rfl
  · simp [clientUserIndexesReady]

@[simp]
theorem clientUserIndexesReady_removeClientUserIndexesByID :
    (store.removeClientUserIndexesByID clientID).clientUserIndexesReady =
      store.clientUserIndexesReady := by
  rw [removeClientUserIndexesByID]
  split_ifs
  · rfl
  · simp [clientUserIndexesReady]

def relist (client : Client Details) (store : Store Details) : Store Details :=
  ({ store with clients := store.clients.store client }.removeClientUserIndexesByID
    client.id).addClientUserIndexes client

theorem clients_relist : (store.relist client).clients = store.clients.store client := by
  simp [relist]

theorem listed_relist {link : UserLink Details} (maintained : link.Maintained)
    (listed : link.Listed store) (client : Client Details) : link.Listed (store.relist client) := by
  intro other isOther positive userID isUser owns
  rw [clients_relist, mem_store] at isOther
  rw [Store.relist, maintained.lists_add, maintained.lists_remove, maintained.index_clients]
  obtain rfl | ⟨isStored, differs⟩ := isOther
  · exact .inl ⟨rfl, positive, isUser, owns⟩
  · exact .inr ⟨listed other isStored positive userID isUser owns, fun same => differs same.1⟩

theorem Linked.relist (linked : store.Linked) (normal : client.Normal) :
    (store.relist client).Linked where
  owned := listed_relist owned_maintained linked.owned client
  managed := listed_relist managed_maintained linked.managed client
  normal := by
    intro other isOther
    rw [clients_relist, mem_store] at isOther
    obtain rfl | ⟨isStored, -⟩ := isOther
    · exact normal
    · exact linked.normal other isStored

/-! ## The operations -/

variable {env : StoreEnv Details}

theorem LinksSound.keys (sound : store.LinksSound) (clientIncreaseId : Int32)
    (blake2bVkeyIndex : StringIDIndex) :
    { store with clientIncreaseId, blake2bVkeyIndex }.LinksSound :=
  ⟨⟨sound.owned, sound.managed, sound.normal⟩, sound.ready⟩

theorem linksSound_userWriteStable :
    UserWriteStable fun store : Store Details => store.LinksSound where
  users := fun _ _ _ _ _ sound => ⟨⟨sound.owned, sound.managed, sound.normal⟩, sound.ready⟩
  ranged := fun userID _ sound => (sound.rangeOwned userID).1

theorem linksSound_taskStable : TaskStable fun store : Store Details => store.LinksSound where
  tasks := fun _ _ _ _ _ sound => ⟨⟨sound.owned, sound.managed, sound.normal⟩, sound.ready⟩

theorem linksSound_hostStable : HostStable fun store : Store Details => store.LinksSound where
  hosts := fun _ _ _ _ _ sound => ⟨⟨sound.owned, sound.managed, sound.normal⟩, sound.ready⟩

theorem LinksSound.putClient (sound : store.LinksSound) (normal : client.Normal) :
    (store.putClient client).LinksSound := by
  have relisted := sound.toLinked.relist normal
  exact ⟨⟨relisted.owned, relisted.managed, relisted.normal⟩, .inl rfl⟩

theorem LinksSound.createClient (sound : store.LinksSound) (client : Client Details) :
    (store.createClient env client).LinksSound :=
  ((sound.keys _ store.blake2bVkeyIndex).putClient (applySetupHook_normal env _)).keys _ _

theorem LinksSound.replaceClient (sound : store.LinksSound) (current client : Client Details) :
    (store.replaceClient env current client).LinksSound := by
  have normal := applySetupHook_normal env client
  have revised : { client.applySetupHook env with expectedRevision := 0 }.Normal :=
    ⟨normal.sameOwner, normal.owner, normal.managers, normal.nodup⟩
  have put := (sound.keys store.clientIncreaseId
    (store.blake2bVkeyIndex.remove (env.blake2b current.verifyKey))).putClient revised
  exact (relinkClientReferences_preserves linksSound_taskStable.resource
    linksSound_hostStable.resource _ put).keys _ _

theorem listed_removeClient {link : UserLink Details} (maintained : link.Maintained)
    (listed : link.Listed store) (clientID : Int) :
    link.Listed { store.removeClientUserIndexesByID clientID with
      clients := (store.removeClientUserIndexesByID clientID).clients.delete clientID } := by
  intro other isOther positive userID isUser owns
  rw [clients_removeClientUserIndexesByID, mem_delete] at isOther
  rw [maintained.index_clients, maintained.lists_remove]
  exact ⟨listed other isOther.1 positive userID isUser owns, fun same => isOther.2 same.1⟩

theorem LinksSound.removeClient (sound : store.LinksSound) (current : Client Details) :
    (store.removeClient env current).LinksSound := by
  have unindexed := sound.keys store.clientIncreaseId
    (store.blake2bVkeyIndex.remove (env.blake2b current.verifyKey))
  have owned := listed_removeClient owned_maintained unindexed.owned current.id
  have managed := listed_removeClient managed_maintained unindexed.managed current.id
  refine ⟨⟨owned, managed, ?_⟩, .inl rfl⟩
  intro other isOther
  have isStored := (mem_delete.mp isOther).1
  rw [clients_removeClientUserIndexesByID] at isStored
  exact sound.normal other isStored

theorem LinksSound.clientOwnsPersistedResources (sound : store.LinksSound) (id : Int) :
    (store.clientOwnsPersistedResources env id).2.LinksSound :=
  clientOwnsPersistedResources_preserves linksSound_taskStable.resource
    linksSound_hostStable.resource id sound

/-! ## The clients of a deleted user -/

variable {userID : Int}

section

variable (sound : store.LinksSound)

include sound

theorem LinksSound.clearUserReference (isUser : 0 < userID) (now clientID : Int) :
    (store.clearUserReference userID now clientID).2.LinksSound ∧
      ∀ client ∈ (store.clearUserReference userID now clientID).2.clients.records,
        client.Tied userID → client ∈ store.clients.records ∧ client.id ≠ clientID := by
  rw [Store.clearUserReference]
  cases found : store.clients.get clientID with
  | none =>
    have differs : ∀ client ∈ store.clients.records, client.id ≠ clientID :=
      get_eq_none_iff.mp found
    have listed {link : UserLink Details} (maintained : link.Maintained)
        (listed : link.Listed store) :
        link.Listed (store.removeClientUserIndexesByID clientID) := by
      intro client isClient positive userID isUser owns
      rw [clients_removeClientUserIndexesByID] at isClient
      rw [maintained.lists_remove]
      exact ⟨listed client isClient positive userID isUser owns,
        fun same => differs client isClient same.1⟩
    dsimp only
    refine ⟨⟨⟨listed owned_maintained sound.owned,
      listed managed_maintained sound.managed, ?_⟩, ?_⟩, ?_⟩
    · rw [clients_removeClientUserIndexesByID]
      exact sound.normal
    · rw [clientUserIndexesReady_removeClientUserIndexesByID, clients_removeClientUserIndexesByID]
      exact sound.ready
    · intro client isClient _
      rw [clients_removeClientUserIndexesByID] at isClient
      exact ⟨isClient, differs client isClient⟩
  | some current =>
    obtain rfl := key_of_get found
    dsimp only
    cases isCleared : current.clearUserReference userID now with
    | none =>
      refine ⟨sound, fun client isClient tied => ⟨isClient, fun sameId => ?_⟩⟩
      have isCurrent := eq_of_key_eq isClient (mem_of_get found) sameId
      rw [Client.clearUserReference, if_neg (by omega)] at isCleared
      rcases isCurrent ▸ tied with isOwner | isManager
      · simp [isOwner] at isCleared
      · by_cases isOwner : current.ownerID = userID
        · simp [isOwner] at isCleared
        · simp [isOwner, isManager] at isCleared
    | some cleared =>
      obtain ⟨normal, untied⟩ := clearUserReference_some isCleared
      have sameId := (clearUserReference_keeps isCleared).1
      dsimp only
      rw [← sameId]
      have isReady : store.clientUserIndexesReady = true := by
        refine sound.ready.resolve_right fun isEmpty => ?_
        exact not_mem_nil (isEmpty ▸ mem_of_get found)
      refine ⟨⟨sound.toLinked.relist normal, ?_⟩, ?_⟩
      · refine .inl (Eq.trans ?_ isReady)
        simp only [clientUserIndexesReady_addClientUserIndexes,
          clientUserIndexesReady_removeClientUserIndexesByID]
        rfl
      · intro client isClient tied
        have isStored : client ∈ (store.relist cleared).clients.records := isClient
        rw [clients_relist, mem_store] at isStored
        obtain rfl | isOther := isStored
        · exact absurd tied untied
        · exact isOther

theorem LinksSound.clearUserReferencesOf (isUser : 0 < userID) (now : Int) (clientIDs : List Int) :
    (store.clearUserReferencesOf userID now clientIDs).2.LinksSound ∧
      ∀ client ∈ (store.clearUserReferencesOf userID now clientIDs).2.clients.records,
        client.Tied userID → client ∈ store.clients.records ∧ client.id ∉ clientIDs := by
  induction clientIDs generalizing store with
  | nil => exact ⟨sound, fun client isClient _ => ⟨isClient, not_mem_nil⟩⟩
  | cons clientID _ ih =>
    obtain ⟨cleared, others⟩ := sound.clearUserReference isUser now clientID
    obtain ⟨soundRest, rest⟩ := ih cleared
    refine ⟨soundRest, fun client isClient tied => ?_⟩
    obtain ⟨isOther, notListed⟩ := rest client isClient tied
    obtain ⟨isStored, differs⟩ := others client isOther tied
    exact ⟨isStored, not_mem_cons_of_ne_of_not_mem differs notListed⟩

theorem LinksSound.linkedClientIDs (isUser : 0 < userID) :
    (store.linkedClientIDs userID).2.LinksSound ∧
      (store.linkedClientIDs userID).2.clients = store.clients ∧
      ∀ client ∈ store.clients.records, 0 < client.id → client.Tied userID →
        client.id ∈ (store.linkedClientIDs userID).1 := by
  obtain ⟨soundOwned, clientsOwned⟩ := sound.rangeOwned userID
  obtain ⟨soundManaged, clientsManaged⟩ := soundOwned.rangeManaged userID
  refine ⟨soundManaged, clientsManaged.trans clientsOwned, ?_⟩
  intro client isClient positive tied
  rw [Store.linkedClientIDs]
  dsimp only
  rw [List.mem_append, List.mem_filter]
  by_cases isListed : client.id ∈ (store.rangeOwnedClientsByUserID userID).1.map Client.id
  · exact .inl isListed
  · refine .inr ⟨?_, by simpa using isListed⟩
    rcases tied with isOwner | isManager
    · refine absurd (mem_map_of_mem ?_) isListed
      exact (mem_rangeClientsByUserID sound sound.ensureReady.1.owned isUser).mpr
        ⟨isClient, positive, decide_eq_true isOwner⟩
    · refine mem_map_of_mem ?_
      refine (mem_rangeClientsByUserID soundOwned soundOwned.ensureReady.1.managed isUser).mpr
        ⟨clientsOwned ▸ isClient, positive, ?_⟩
      simp [managed, Client.hasManagerUserID, isUser, isManager]

theorem LinksSound.clearUserReferences (isUser : 0 < userID) (now : Int) :
    (store.clearUserReferences userID now).LinksSound ∧
      ∀ client ∈ (store.clearUserReferences userID now).clients.records, 0 < client.id →
        ¬ client.Tied userID := by
  obtain ⟨soundReady, _, -⟩ := sound.ensureReady
  obtain ⟨soundLinked, linkedEq, collected⟩ := soundReady.linkedClientIDs isUser
  obtain ⟨cleared, untied⟩ := soundLinked.clearUserReferencesOf isUser now
    (store.ensureClientUserIndexesReady.linkedClientIDs userID).1
  have free : ∀ client ∈ (Store.clearUserReferencesOf userID now
      (store.ensureClientUserIndexesReady.linkedClientIDs userID).1
      (store.ensureClientUserIndexesReady.linkedClientIDs userID).2).2.clients.records,
      0 < client.id → ¬ client.Tied userID := by
    intro client isClient positive tied
    obtain ⟨isStored, notCollected⟩ := untied client isClient tied
    exact notCollected (collected client (linkedEq ▸ isStored) positive tied)
  rw [Store.clearUserReferences, if_neg (by omega)]
  dsimp only
  split_ifs
  · exact ⟨⟨⟨cleared.owned, cleared.managed, cleared.normal⟩, .inl rfl⟩, free⟩
  · exact ⟨cleared, free⟩

theorem LinksSound.delUser (id now : Int) :
    (store.delUser id now).2.LinksSound ∧
      ((store.delUser id now).1 = .ok () →
        ∀ client ∈ (store.delUser id now).2.clients.records, 0 < client.id → id ≠ 0 →
          ¬ client.Tied id) := by
  rw [Store.delUser]
  cases store.users.get id with
  | none =>
    refine ⟨sound, ?_⟩
    rintro ⟨⟩
  | some current =>
    dsimp only
    have unindexed : (store.removeUserIndexes current).LinksSound :=
      linksSound_userWriteStable.users _ _ _ _ _ sound
    have removed : { store.removeUserIndexes current with
        users := store.users.delete id }.LinksSound :=
      linksSound_userWriteStable.users _ _ _ _ _ unindexed
    by_cases isUser : 0 < id
    · obtain ⟨cleared, free⟩ := removed.clearUserReferences isUser now
      exact ⟨cleared, fun _ client isClient positive _ => free client isClient positive⟩
    · -- a user without a positive id is in no client
      rw [Store.clearUserReferences, if_pos (by omega)]
      refine ⟨removed, ?_⟩
      intro _ client isClient _ _ tied
      have normal := removed.normal client isClient
      obtain isOwner | isManager := tied
      · have := normal.owner
        rw [normal.ownerID] at isOwner
        omega
      · exact isUser (normal.managers id isManager).1

theorem LinksSound.step {event : StoreEvent Details} {next : Store Details}
    (stepEq : store.step env event = some next) : next.LinksSound := by
  obtain ⟨_, performs, rfl⟩ := performs_of_step stepEq
  cases performs with
  | rejected => exact sound
  | newUser user => exact linksSound_userWriteStable.newUser user sound
  | updateUser user => exact linksSound_userWriteStable.updateUser user sound
  | delUser id now => exact (sound.delUser id now).1
  | newClient => exact sound.createClient _
  | updateClient => exact sound.replaceClient _ _
  | clientHasResources id => exact sound.clientOwnsPersistedResources id
  | delClient => exact (sound.clientOwnsPersistedResources _).removeClient _
  | newTask => exact linksSound_taskStable.tasks _ _ _ _ store sound
  | updateTask => exact linksSound_taskStable.tasks _ store.taskIncreaseId _ _ store sound
  | delTask | bindRuntimeOwner | removeRuntimeOwner =>
    exact linksSound_taskStable.tasks _ _ _ _ _ sound
  | newHost => exact linksSound_hostStable.hosts _ _ _ _ store sound
  | updateHost => exact linksSound_hostStable.hosts _ store.hostIncreaseId _ _ store sound
  | delHost => exact linksSound_hostStable.hosts _ _ _ _ _ sound

end

theorem linksSound_of_run {events : List (StoreEvent Details)}
    (reaches : Runs.execute (Store.step env) new events = some store) : store.LinksSound := by
  exact Runs.invariant_of_execute LinksSound (fun _ _ _ sound => sound.step)
    ⟨.of_empty rfl, .inr rfl⟩ reaches

/-- After a user is deleted, no client with a positive id has a tie to it.  Managers are distinct,
and the owner is not among them. -/
theorem delUser_leaves_no_ties (env : StoreEnv Details) (events : List (StoreEvent Details))
    (store : Store Details) (reaches : Runs.execute (Store.step env) new events = some store)
    (id now : Int) (deleted : (store.delUser id now).1 = .ok ()) :
    (∀ client ∈ (store.delUser id now).2.clients.records, 0 < client.id →
      (id ≠ 0 → client.ownerID ≠ id) ∧ id ∉ client.managerUserIDs) ∧
    ∀ client ∈ (store.delUser id now).2.clients.records,
      client.managerUserIDs.Nodup ∧ client.ownerID ∉ client.managerUserIDs := by
  obtain ⟨sound, untied⟩ := (linksSound_of_run reaches).delUser id now
  refine ⟨?_, ?_⟩
  · intro client isClient positive
    refine ⟨fun nonzero isOwner => untied deleted client isClient positive nonzero (.inl isOwner),
      fun isManager => ?_⟩
    have isUser := ((sound.normal client isClient).managers id isManager).1
    exact untied deleted client isClient positive (by omega) (.inr isManager)
  · intro client isClient
    have normal := sound.normal client isClient
    refine ⟨normal.nodup, fun isManager => ?_⟩
    exact (normal.managers _ isManager).2 normal.ownerID

def sharedClients : List (StoreEvent Bare) :=
  [.newUser (User.bare 0 "first"), .newUser (User.bare 0 "second"),
    .newClient (Client.bare 0 "one" 1 [2, 2, 1]) [],
    .newClient (Client.bare 0 "two" 2 [2, 1]) []]

theorem delUser_sharedClients :
    ∃ store, Runs.execute (Store.step StoreEnv.bare) new sharedClients = some store ∧
      (store.delUser 1 0).2.clients.records.length = 2 ∧
      ∀ client ∈ (store.delUser 1 0).2.clients.records, 0 < client.id →
        client.ownerID ≠ 1 ∧ 1 ∉ client.managerUserIDs := by
  obtain ⟨store, reaches, isOk, both⟩ :
      ∃ store, Runs.execute (Store.step StoreEnv.bare) new sharedClients = some store ∧
        (store.delUser 1 0).1 = .ok () ∧ (store.delUser 1 0).2.clients.records.length = 2 :=
    Runs.exists_of_any (by decide +kernel)
  obtain ⟨free, -⟩ := delUser_leaves_no_ties StoreEnv.bare sharedClients store reaches 1 0 isOk
  refine ⟨store, reaches, both, fun client isClient positive => ?_⟩
  exact ⟨(free client isClient positive).1 (by decide), (free client isClient positive).2⟩

def negativeClient : List (StoreEvent Bare) :=
  [.newUser (User.bare 0 "first"), .newClient (Client.bare (-3) "one" 1 []) []]

/-- A client with a negative id is not indexed, and keeps the user that was deleted. -/
theorem delUser_misses_negative_id :
    ∃ store, Runs.execute (Store.step StoreEnv.bare) new negativeClient = some store ∧
      (store.delUser 1 0).1 = .ok () ∧
      ∃ client ∈ (store.delUser 1 0).2.clients.records, client.id = -3 ∧ client.ownerID = 1 := by
  exact Runs.exists_of_any (by decide +kernel)

end Store

end DeepNps.File
