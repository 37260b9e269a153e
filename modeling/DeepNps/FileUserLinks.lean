import DeepNps.FileStoreFrames

/-!
# The clients of a user

The indexes of owners and managers list every client with a positive id.
-/

namespace DeepNps.File

open List GroupIDIndex

variable {Details : RecordKind → Type}

/-! ## Normal ownership -/

namespace Client

/-- The owner stands in both fields, and the managers are distinct users other than the
owner. -/
structure Normal (client : Client Details) : Prop where
  sameOwner : client.userId = client.ownerUserID
  owner : 0 ≤ client.ownerUserID
  managers : ∀ userID ∈ client.managerUserIDs, 0 < userID ∧ userID ≠ client.ownerUserID
  nodup : client.managerUserIDs.Nodup

variable {client cleared : Client Details} {owner userID now : Int}

theorem Normal.ownerID (normal : client.Normal) : client.ownerID = client.ownerUserID := by
  rw [Client.ownerID, normal.sameOwner]
  exact ite_self _

theorem of_mem_addManager {normalized : List Int} {other : Int}
    (isOther : other ∈ addManager owner normalized userID) :
    other ∈ normalized ∨ (other = userID ∧ 0 < userID ∧ userID ≠ owner) := by
  rw [addManager] at isOther
  split_ifs at isOther
  · exact .inl isOther
  · exact .inl isOther
  · rcases mem_append.mp isOther with isOld | isNew
    · exact .inl isOld
    · exact .inr ⟨mem_singleton.mp isNew, by omega⟩

theorem nodup_addManager {normalized : List Int} (nodup : normalized.Nodup) :
    (addManager owner normalized userID).Nodup := by
  rw [addManager]
  split_ifs with skipped isListed
  · exact nodup
  · exact nodup
  · exact nodup_append.mpr
      ⟨nodup, nodup_singleton _, fun other isOther _ isNew sameUser =>
        isListed (mem_singleton.mp isNew ▸ sameUser ▸ isOther)⟩

theorem of_mem_normalizeManagers {managers : List Int} {other : Int} :
    other ∈ normalizeManagers owner managers → other ∈ managers ∧ 0 < other ∧ other ≠ owner := by
  have fold : ∀ start : List Int, other ∈ managers.foldl (addManager owner) start →
      other ∈ start ∨ (other ∈ managers ∧ 0 < other ∧ other ≠ owner) := by
    induction managers with
    | nil => exact fun _ => .inl
    | cons _ _ ih =>
      intro _ isFolded
      rcases ih _ isFolded with isAdded | ⟨isOther, kept⟩
      · rcases of_mem_addManager isAdded with isStart | ⟨rfl, kept⟩
        · exact .inl isStart
        · exact .inr ⟨mem_cons_self, kept⟩
      · exact .inr ⟨mem_cons_of_mem _ isOther, kept⟩
  simpa [normalizeManagers] using fold []

theorem nodup_normalizeManagers {managers : List Int} :
    (normalizeManagers owner managers).Nodup := by
  have fold : ∀ start : List Int, start.Nodup →
      (managers.foldl (addManager owner) start).Nodup := by
    induction managers with
    | nil => exact fun _ nodup => nodup
    | cons _ _ ih => exact fun start nodup => ih _ (nodup_addManager nodup)
  exact fold [] nodup_nil

theorem normalizeOwnership_normal (client : Client Details) : client.normalizeOwnership.Normal where
  sameOwner := rfl
  owner := by
    simp only [normalizeOwnership]
    split_ifs <;> omega
  managers := fun _ isManager => (of_mem_normalizeManagers isManager).2
  nodup := nodup_normalizeManagers

theorem applySetupHook_normal (env : StoreEnv Details) (client : Client Details) :
    (client.applySetupHook env).Normal where
  sameOwner := (normalizeOwnership_normal client).sameOwner
  owner := (normalizeOwnership_normal client).owner
  managers := (normalizeOwnership_normal client).managers
  nodup := (normalizeOwnership_normal client).nodup

theorem normalizeOwnership_ownerUserID (client : Client Details) :
    client.normalizeOwnership.ownerUserID = if 0 < client.ownerID then client.ownerID else 0 := by
  simp only [normalizeOwnership, Client.ownerID]
  split_ifs <;> rfl

def Tied (client : Client Details) (userID : Int) : Prop :=
  client.ownerID = userID ∨ userID ∈ client.managerUserIDs

theorem clearUserReference_some
    (isCleared : client.clearUserReference userID now = some cleared) :
    cleared.Normal ∧ ¬ cleared.Tied userID := by
  rw [clearUserReference] at isCleared
  by_cases isNone : userID ≤ 0
  · rw [if_pos isNone] at isCleared
    cases isCleared
  · rw [if_neg isNone] at isCleared
    dsimp only at isCleared
    generalize disownedEq : (if client.ownerID = userID then client.setOwnerUserID 0 else client) =
      disowned at isCleared
    have notOwner : disowned.ownerID ≠ userID := by
      rw [← disownedEq]
      split_ifs with isOwner
      · have : (client.setOwnerUserID 0).ownerID = 0 := rfl
        omega
      · exact isOwner
    split_ifs at isCleared
    cases isCleared
    generalize managersEq : disowned.managerUserIDs.filter (· ≠ userID) = managers
    have normal := normalizeOwnership_normal { disowned with managerUserIDs := managers }
    refine ⟨⟨normal.sameOwner, normal.owner, normal.managers, normal.nodup⟩, ?_⟩
    rintro (isOwner | isManager)
    · have ownerEq := normalizeOwnership_ownerUserID { disowned with managerUserIDs := managers }
      have sameOwner : ({ disowned with managerUserIDs := managers } : Client Details).ownerID =
        disowned.ownerID := rfl
      have : (normalizeOwnership { disowned with managerUserIDs := managers }).ownerID = userID :=
        isOwner
      rw [normal.ownerID, ownerEq, sameOwner] at this
      split_ifs at this
      · exact notOwner this
      · omega
    · have := (of_mem_normalizeManagers isManager).1
      rw [← managersEq, mem_filter] at this
      simp at this

end Client

/-! ## Ranging over the clients of a user -/

namespace UserLink

variable {link : UserLink Details} {store : Store Details} {userID : Int}

@[simp]
theorem clients_visit (link : UserLink Details) (userID : Int) (clientIDs : List Int)
    (store : Store Details) : (link.visit userID clientIDs store).2.clients = store.clients := by
  refine visit_preserves (P := fun other => other.clients = store.clients) ?_ clientIDs rfl
  intro _ other same _
  exact (link.clients_setIndex _ other).trans same

theorem visit_fst (userID : Int) (clientIDs : List Int) (store : Store Details) :
    (link.visit userID clientIDs store).1 =
      (clientIDs.filterMap store.clients.get).filter (link.owns userID) := by
  induction clientIDs generalizing store with
  | nil => rfl
  | cons clientID _ ih =>
    rw [visit, filterMap_cons]
    cases store.clients.get clientID with
    | none =>
      dsimp only
      rw [ih, link.clients_setIndex]
    | some client =>
      by_cases isOwn : link.owns userID client = true
      · simp [isOwn, ih]
      · simp [isOwn, ih, link.clients_setIndex]

/-- The index lists every client with a positive id under the users it belongs to. -/
def Listed (link : UserLink Details) (store : Store Details) : Prop :=
  ∀ client ∈ store.clients.records, 0 < client.id → ∀ userID, 0 < userID →
    link.owns userID client = true → (link.index store).Lists userID client.id

theorem Listed.remove {clientID : Int} (listed : link.Listed store)
    (stale : ∀ client, store.clients.get clientID = some client →
      ¬ link.owns userID client = true) :
    link.Listed (link.setIndex ((link.index store).remove userID clientID) store) := by
  intro client isClient positive other isUser owns
  rw [link.clients_setIndex] at isClient
  rw [link.index_setIndex, lists_remove]
  refine ⟨listed client isClient positive other isUser owns, ?_⟩
  rintro ⟨rfl, rfl, -⟩
  exact stale client (Table.get_key_of_mem isClient) owns

end UserLink

namespace Store

/-- The indexes of the clients of users are right for clients with positive ids, and all
clients are normal. -/
structure Linked (store : Store Details) : Prop where
  owned : UserLink.owned.Listed store
  managed : UserLink.managed.Listed store
  normal : ∀ client ∈ store.clients.records, client.Normal

/-- The indexes are used only when they are ready, which they are from the first client
on. -/
structure LinksSound (store : Store Details) : Prop extends Linked store where
  ready : store.clientUserIndexesReady = true ∨ store.clients.records = []

variable {store : Store Details} {client : Client Details} {userID id : Int}

theorem Linked.of_empty (isEmpty : store.clients.records = []) : store.Linked where
  owned := by simp [UserLink.Listed, isEmpty]
  managed := by simp [UserLink.Listed, isEmpty]
  normal := by simp [isEmpty]

theorem LinksSound.ensureReady (sound : store.LinksSound) :
    store.ensureClientUserIndexesReady.LinksSound ∧
      store.ensureClientUserIndexesReady.clients = store.clients ∧
      store.ensureClientUserIndexesReady.clientUserIndexesReady = true := by
  rw [ensureClientUserIndexesReady]
  split_ifs with isReady
  · exact ⟨sound, rfl, isReady⟩
  · -- the indexes are not ready only while there is no client
    have isEmpty := sound.ready.resolve_left isReady
    have rebuilt : store.rebuildClientUserIndexes =
        store.clearClientUserIndexes.markClientUserIndexesReady := by
      rw [rebuildClientUserIndexes, isEmpty, foldl_nil]
    rw [rebuilt]
    exact ⟨⟨.of_empty isEmpty, .inr isEmpty⟩, rfl, rfl⟩

theorem LinksSound.visit_owned (sound : store.LinksSound) (userID : Int) (ids : List Int) :
    (UserLink.owned.visit userID ids store).2.LinksSound := by
  refine UserLink.visit_preserves (fun _ _ sound stale => ?_) ids sound
  refine ⟨⟨sound.owned.remove stale, sound.managed, sound.normal⟩, sound.ready.imp_left ?_⟩
  exact fun isReady => by simpa [clientUserIndexesReady, UserLink.owned] using isReady

theorem LinksSound.visit_managed (sound : store.LinksSound) (userID : Int) (ids : List Int) :
    (UserLink.managed.visit userID ids store).2.LinksSound := by
  refine UserLink.visit_preserves (fun _ _ sound stale => ?_) ids sound
  refine ⟨⟨sound.owned, sound.managed.remove stale, sound.normal⟩, sound.ready.imp_left ?_⟩
  exact fun isReady => by simpa [clientUserIndexesReady, UserLink.managed] using isReady

theorem mem_rangeClientsByUserID {link : UserLink Details} (sound : store.LinksSound)
    (listed : link.Listed store.ensureClientUserIndexesReady) (isUser : 0 < userID) :
    client ∈ (store.rangeClientsByUserID link userID).1 ↔
      client ∈ store.clients.records ∧ 0 < client.id ∧ link.owns userID client = true := by
  obtain ⟨-, clientsEq, -⟩ := sound.ensureReady
  rw [rangeClientsByUserID, if_neg (by omega)]
  dsimp only
  rw [UserLink.visit_fst, mem_filter, mem_filterMap, clientsEq]
  constructor
  · rintro ⟨⟨id, isListed, found⟩, owns⟩
    have positive := (mem_snapshot.mp isListed).2.1
    exact ⟨Table.mem_of_get found, Table.key_of_get found ▸ positive, owns⟩
  · rintro ⟨isClient, positive, owns⟩
    refine ⟨⟨client.id, ?_, Table.get_key_of_mem isClient⟩, owns⟩
    exact mem_snapshot.mpr
      ⟨isUser, positive, listed client (clientsEq ▸ isClient) positive userID isUser owns⟩

theorem nodup_rangeClientsByUserID (link : UserLink Details) (userID : Int)
    (store : Store Details) :
    ((store.rangeClientsByUserID link userID).1.map Client.id).Nodup := by
  rw [rangeClientsByUserID]
  split_ifs
  · exact nodup_nil
  · dsimp only
    rw [UserLink.visit_fst]
    generalize snapshotEq : (link.index store.ensureClientUserIndexesReady).snapshot userID = ids
    have nodup : ids.Nodup := snapshotEq ▸ nodup_snapshot
    exact ((filter_sublist.map _).trans (Table.map_key_filterMap_get ids)).nodup nodup

theorem LinksSound.rangeOwned (sound : store.LinksSound) (userID : Int) :
    (store.rangeOwnedClientsByUserID userID).2.LinksSound ∧
      (store.rangeOwnedClientsByUserID userID).2.clients = store.clients := by
  rw [rangeOwnedClientsByUserID, rangeClientsByUserID]
  split_ifs
  · exact ⟨sound, rfl⟩
  · obtain ⟨soundReady, clientsEq, -⟩ := sound.ensureReady
    exact ⟨soundReady.visit_owned _ _, (UserLink.clients_visit ..).trans clientsEq⟩

theorem LinksSound.rangeManaged (sound : store.LinksSound) (userID : Int) :
    (store.rangeManagedClientsByUserID userID).2.LinksSound ∧
      (store.rangeManagedClientsByUserID userID).2.clients = store.clients := by
  rw [rangeManagedClientsByUserID, rangeClientsByUserID]
  split_ifs
  · exact ⟨sound, rfl⟩
  · obtain ⟨soundReady, clientsEq, -⟩ := sound.ensureReady
    exact ⟨soundReady.visit_managed _ _, (UserLink.clients_visit ..).trans clientsEq⟩

end Store

end DeepNps.File
