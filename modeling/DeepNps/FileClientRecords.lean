import DeepNps.FileStoreFrames

/-!
# The records of a client

The index of the records of a client may have entries that lead elsewhere; it needs one
for every record with a positive id of a client with a positive id.
-/

namespace DeepNps.File

open List Table GroupIDIndex

variable {Details : RecordKind → Type} {Record : Type}

theorem Store.lists_removeClientEntry {index : GroupIDIndex} {clientId : Option Int}
    {group id other : Int} (differs : other ≠ id) :
    (removeClientEntry index clientId id).Lists group other ↔ index.Lists group other := by
  cases clientId with
  | none => exact Iff.rfl
  | some =>
    rw [removeClientEntry, lists_remove]
    exact and_iff_left fun same => differs same.2.1

theorem Store.ready_removeClientEntry {index : GroupIDIndex} {clientId : Option Int} {id : Int} :
    (removeClientEntry index clientId id).ready = index.ready := by
  cases clientId with
  | none => rfl
  | some => exact ready_remove

namespace ClientResource

/-- What the parts of a resource have to do with each other. -/
structure Maintained (resource : ClientResource Details Record) : Prop where
  index_setIndex : ∀ index store, resource.index (resource.setIndex index store) = index
  clients_setIndex : ∀ index store, (resource.setIndex index store).clients = store.clients
  clients_drop : ∀ record store, (resource.drop record store).clients = store.clients
  lists_drop : ∀ record store clientID id, id ≠ resource.id record →
    ((resource.index (resource.drop record store)).Lists clientID id ↔
      (resource.index store).Lists clientID id)
  ready_drop : ∀ record store,
    (resource.index (resource.drop record store)).ready = (resource.index store).ready

theorem tunnels_maintained (env : StoreEnv Details) : (tunnels env).Maintained where
  index_setIndex := fun _ _ => rfl
  clients_setIndex := fun _ _ => rfl
  clients_drop := fun _ _ => rfl
  lists_drop := fun _ _ _ _ differs => Store.lists_removeClientEntry differs
  ready_drop := fun _ _ => Store.ready_removeClientEntry

theorem hosts_maintained (env : StoreEnv Details) : (hosts env).Maintained where
  index_setIndex := fun _ _ => rfl
  clients_setIndex := fun _ _ => rfl
  clients_drop := fun _ _ => rfl
  lists_drop := fun _ _ _ _ differs => Store.lists_removeClientEntry differs
  ready_drop := fun _ _ => Store.ready_removeClientEntry

variable {resource : ClientResource Details Record} {store after : Store Details}
  {record : Record} {clientID id : Int}

/-- The record refers to the client, and both have positive ids. -/
def Of (resource : ClientResource Details Record) (clientID : Int) (record : Record) : Prop :=
  0 < resource.id record ∧ 0 < clientID ∧ resource.clientId record = some clientID

theorem Of.unique {other : Int} (isOf : resource.Of clientID record)
    (isOther : resource.Of other record) : clientID = other :=
  Option.some.inj (isOf.2.2.symm.trans isOther.2.2)

/-- The client of a record is stored, and lists the record. -/
structure Sound (resource : ClientResource Details Record) (store : Store Details) : Prop where
  refs : ∀ record ∈ (resource.table store).records, ∀ clientID, resource.Of clientID record →
    (store.clients.get clientID).isSome = true
  listed : ∀ record ∈ (resource.table store).records, ∀ clientID, resource.Of clientID record →
    (resource.index store).Lists clientID (resource.id record)
  ready : (resource.index store).ready = true ∨ (resource.table store).records = []

/-- Only records without a client are missing afterwards. -/
structure Kept (resource : ClientResource Details Record) (store after : Store Details) : Prop where
  sound : resource.Sound after
  clients : after.clients = store.clients
  mem : ∀ record clientID, resource.Of clientID record →
    (record ∈ (resource.table after).records ↔ record ∈ (resource.table store).records)

theorem Kept.refl (sound : resource.Sound store) : resource.Kept store store :=
  ⟨sound, rfl, fun _ _ _ => Iff.rfl⟩

theorem Kept.trans {last : Store Details} (kept : resource.Kept store after)
    (rest : resource.Kept after last) : resource.Kept store last where
  sound := rest.sound
  clients := rest.clients.trans kept.clients
  mem := fun record clientID isOf =>
    (rest.mem record clientID isOf).trans (kept.mem record clientID isOf)

theorem Sound.of_empty (isEmpty : (resource.table store).records = []) : resource.Sound store where
  refs := by simp [isEmpty]
  listed := by simp [isEmpty]
  ready := .inr isEmpty

section Repair

variable (maintained : resource.Maintained)

include maintained

section

variable (sound : resource.Sound store)

include sound

theorem Sound.setIndex {index : GroupIDIndex}
    (listed : ∀ record ∈ (resource.table store).records, ∀ clientID,
      resource.Of clientID record → index.Lists clientID (resource.id record))
    (ready : index.ready = (resource.index store).ready) :
    resource.Kept store (resource.setIndex index store) := by
  have tableEq := resource.table_setIndex index store
  have clientsEq := maintained.clients_setIndex index store
  have indexEq := maintained.index_setIndex index store
  refine ⟨⟨?_, ?_, ?_⟩, clientsEq, ?_⟩
  · rw [tableEq, clientsEq]
    exact sound.refs
  · rw [tableEq, indexEq]
    exact listed
  · rw [tableEq, indexEq, ready]
    exact sound.ready
  · intro _ _ _
    rw [tableEq]

theorem Sound.removeEntry
    (stale : ∀ record ∈ (resource.table store).records, resource.id record = id →
      ¬ resource.Of clientID record) :
    resource.Kept store (resource.removeEntry clientID id store) := by
  refine sound.setIndex maintained ?_ ready_remove
  intro record isRecord other isOf
  rw [lists_remove]
  refine ⟨sound.listed record isRecord other isOf, ?_⟩
  rintro ⟨rfl, sameId, -⟩
  exact stale record isRecord sameId isOf

theorem Sound.addEntry (clientID id : Int) :
    resource.Kept store (resource.addEntry clientID id store) := by
  refine sound.setIndex maintained ?_ ready_add
  intro record isRecord other isOf
  exact lists_add.mpr (.inr (sound.listed record isRecord other isOf))

theorem Sound.drop (isRecord : record ∈ (resource.table store).records)
    (isFree : ∀ clientID, ¬ resource.Of clientID record) :
    resource.Kept store (resource.drop record store) := by
  have tableEq := resource.table_drop record store
  have clientsEq := maintained.clients_drop record store
  refine ⟨⟨?_, ?_, ?_⟩, clientsEq, ?_⟩
  · intro other isOther clientID isOf
    rw [tableEq, mem_delete] at isOther
    rw [clientsEq]
    exact sound.refs other isOther.1 clientID isOf
  · intro other isOther clientID isOf
    rw [tableEq, mem_delete] at isOther
    rw [maintained.lists_drop _ _ _ _ isOther.2]
    exact sound.listed other isOther.1 clientID isOf
  · rw [maintained.ready_drop, tableEq]
    refine sound.ready.imp_right fun isEmpty => ?_
    rw [isEmpty] at isRecord
    exact absurd isRecord not_mem_nil
  · intro _ clientID isOf
    rw [tableEq, mem_delete]
    refine and_iff_left_of_imp fun isOther sameId => ?_
    exact isFree clientID (eq_of_key_eq isOther isRecord sameId ▸ isOf)

theorem Sound.syncIndexedClient (isRecord : record ∈ (resource.table store).records) :
    (∃ clientID, resource.Of clientID record ∧
      resource.syncIndexedClient record store = (some clientID, store)) ∨
    ((∀ clientID, ¬ resource.Of clientID record) ∧
      (resource.syncIndexedClient record store).1 = none ∧
      resource.Kept store (resource.syncIndexedClient record store).2) := by
  rw [ClientResource.syncIndexedClient]
  by_cases isUnnumbered : resource.id record ≤ 0
  · rw [if_pos isUnnumbered]
    exact .inr ⟨fun clientID isOf => by have := isOf.1; omega, rfl, .refl sound⟩
  · rw [if_neg isUnnumbered]
    dsimp only
    by_cases hasClient : ∃ clientID, resource.Of clientID record
    · obtain ⟨clientID, isOf⟩ := hasClient
      have isStored := sound.refs record isRecord clientID isOf
      have positive := isOf.2.1
      rw [isOf.2.2, Option.getD_some, if_neg]
      · exact .inl ⟨clientID, isOf, rfl⟩
      · rw [not_or, Option.isNone_iff_eq_none]
        refine ⟨by omega, fun isNone => ?_⟩
        rw [isNone] at isStored
        cases isStored
    · have isFree := not_exists.mp hasClient
      refine .inr ⟨isFree, ?_⟩
      rw [if_pos]
      · exact ⟨rfl, sound.drop maintained isRecord isFree⟩
      · refine .inl ?_
        cases clientEq : resource.clientId record with
        | none => exact le_refl _
        | some clientID =>
          by_contra positive
          exact isFree clientID ⟨by omega, by simpa using positive, clientEq⟩

end

end Repair

/-! ## Ranging -/

/-- Ranging gives records of the client, no id twice, and all of them unless the callback stopped
it. -/
structure Ranged (resource : ClientResource Details Record) (clientID : Int)
    (continues : Record → Bool) (ids : List Int) (store : Store Details)
    (result : List Record × Store Details) : Prop where
  kept : resource.Kept store result.2
  order : (result.1.map resource.id).Sublist ids
  mem : ∀ record ∈ result.1, record ∈ (resource.table store).records ∧ resource.Of clientID record
  complete : (∀ record ∈ result.1, continues record = true) →
    ∀ record ∈ (resource.table store).records, resource.id record ∈ ids →
      resource.Of clientID record → record ∈ result.1

variable {continues : Record → Bool} {ids : List Int} {result : List Record × Store Details}

theorem Ranged.nil (sound : resource.Sound store) :
    resource.Ranged clientID continues [] store ([], store) where
  kept := .refl sound
  order := List.Sublist.refl _
  mem := fun _ isResult => absurd isResult not_mem_nil
  complete := fun _ _ _ isListed => absurd isListed not_mem_nil

theorem Ranged.of_kept (kept : resource.Kept store after)
    (ranged : resource.Ranged clientID continues ids after result) :
    resource.Ranged clientID continues ids store result where
  kept := kept.trans ranged.kept
  order := ranged.order
  mem := by
    intro record isResult
    obtain ⟨isRecord, isOf⟩ := ranged.mem record isResult
    exact ⟨(kept.mem record clientID isOf).mp isRecord, isOf⟩
  complete := by
    intro continued record isRecord isListed isOf
    have isAfter := (kept.mem record clientID isOf).mpr isRecord
    exact ranged.complete continued record isAfter isListed isOf

theorem Ranged.skip (stale : ∀ record ∈ (resource.table store).records, resource.id record = id →
      ¬ resource.Of clientID record) (rest : resource.Ranged clientID continues ids store result) :
    resource.Ranged clientID continues (id :: ids) store result where
  kept := rest.kept
  order := rest.order.cons id
  mem := rest.mem
  complete := by
    intro continued record isRecord isListed isOf
    obtain sameId | isRest := mem_cons.mp isListed
    · exact absurd isOf (stale record isRecord sameId)
    · exact rest.complete continued record isRecord isRest isOf

theorem Ranged.cons (isRecord : record ∈ (resource.table store).records)
    (isOf : resource.Of clientID record)
    (rest : resource.Ranged clientID continues ids store result) :
    resource.Ranged clientID continues (resource.id record :: ids) store
      (record :: result.1, result.2) where
  kept := rest.kept
  order := rest.order.cons_cons _
  mem := by
    intro other isResult
    obtain rfl | isRest := mem_cons.mp isResult
    · exact ⟨isRecord, isOf⟩
    · exact rest.mem other isRest
  complete := by
    intro continued other isOther isListed isOwn
    rw [mem_cons]
    obtain sameId | isRest := mem_cons.mp isListed
    · exact .inl (eq_of_key_eq isOther isRecord sameId)
    · refine .inr (rest.complete ?_ other isOther isRest isOwn)
      exact fun found isFound => continued found (mem_cons_of_mem _ isFound)

theorem Ranged.stop (sound : resource.Sound store)
    (isRecord : record ∈ (resource.table store).records) (isOf : resource.Of clientID record)
    (stops : ¬ continues record = true) :
    resource.Ranged clientID continues (resource.id record :: ids) store ([record], store) where
  kept := .refl sound
  order := (nil_sublist ids).cons_cons _
  mem := by
    intro _ isResult
    rw [mem_singleton.mp isResult]
    exact ⟨isRecord, isOf⟩
  complete := fun continued => absurd (continued record mem_cons_self) stops

section

variable (maintained : resource.Maintained)

include maintained

section

variable (sound : resource.Sound store)

include sound

theorem Sound.visit (clientID : Int) (continues : Record → Bool) (ids : List Int) :
    resource.Ranged clientID continues ids store (resource.visit clientID continues ids store) := by
  induction ids generalizing store with
  | nil => exact .nil sound
  | cons id _ ih =>
    rw [ClientResource.visit]
    cases found : (resource.table store).get id with
    | none =>
      have stale : ∀ record ∈ (resource.table store).records, resource.id record = id →
          ¬ resource.Of clientID record := by
        intro record isRecord sameId
        exact absurd sameId (get_eq_none_iff.mp found record isRecord)
      have kept := sound.removeEntry maintained stale
      exact .skip stale (.of_kept kept (ih kept.sound))
    | some record =>
      have isRecord := mem_of_get found
      have hasId : resource.id record = id := key_of_get found
      have stale (notOf : ¬ resource.Of clientID record) :
          ∀ other ∈ (resource.table store).records, resource.id other = id →
            ¬ resource.Of clientID other := by
        intro _ isOther sameId
        rw [eq_of_key_eq isOther isRecord (sameId.trans hasId.symm)]
        exact notOf
      dsimp only
      obtain ⟨actual, isOf, synced⟩ | ⟨isFree, isNone, kept⟩ :=
        sound.syncIndexedClient maintained isRecord
      · rw [synced]
        dsimp only
        by_cases moved : actual ≠ clientID
        · rw [if_pos moved]
          have stale := stale fun isOwn => moved (isOf.unique isOwn)
          have removed := sound.removeEntry maintained stale
          have added := removed.sound.addEntry maintained actual id
          exact .skip stale (.of_kept (removed.trans added) (ih added.sound))
        · rw [if_neg moved]
          rw [not_not] at moved
          subst moved
          by_cases continued : continues record = true
          · rw [if_pos continued]
            subst hasId
            exact .cons isRecord isOf (ih sound)
          · rw [if_neg continued]
            subst hasId
            exact .stop sound isRecord isOf continued
      · generalize resource.syncIndexedClient record store = synced at isNone kept
        obtain ⟨_, _⟩ := synced
        dsimp only at isNone kept
        subst isNone
        dsimp only
        have removed := kept.sound.removeEntry maintained fun other isOther sameId isOwn =>
          stale (isFree clientID) other ((kept.mem other clientID isOwn).mp isOther) sameId isOwn
        exact .skip (stale (isFree clientID)) (.of_kept (kept.trans removed) (ih removed.sound))

theorem Sound.ensureReady : resource.Kept store (resource.ensureIndexReady store) := by
  rw [ensureIndexReady]
  by_cases isReady : (resource.index store).ready = true
  · rw [if_pos isReady]
    exact .refl sound
  · -- the index is not ready only while there is no record
    rw [if_neg isReady]
    have isEmpty := sound.ready.resolve_left isReady
    have clearedEmpty : (resource.table
        (resource.setIndex (resource.index store).clear store)).records = [] := by
      rw [resource.table_setIndex, isEmpty]
    rw [rebuildIndex, clearedEmpty, foldl_nil]
    refine ⟨.of_empty ?_, ?_, fun record _ _ => ?_⟩
    · rw [resource.table_setIndex, clearedEmpty]
    · rw [maintained.clients_setIndex, maintained.clients_setIndex]
    · rw [resource.table_setIndex, resource.table_setIndex]

theorem Sound.range (clientID : Int) (continues : Record → Bool) :
    ∃ ids, ids.Nodup ∧
      (∀ record ∈ (resource.table store).records, resource.Of clientID record →
        resource.id record ∈ ids) ∧
      resource.Ranged clientID continues ids store (resource.range clientID continues store) := by
  rw [ClientResource.range]
  by_cases isNone : clientID ≤ 0
  · rw [if_pos isNone]
    refine ⟨[], nodup_nil, fun record _ isOf => ?_, .nil sound⟩
    have := isOf.2.1
    omega
  · rw [if_neg isNone]
    have kept := sound.ensureReady maintained
    refine ⟨_, nodup_snapshot, fun record isRecord isOf => ?_,
      .of_kept kept (kept.sound.visit maintained clientID continues _)⟩
    have isKept := (kept.mem record clientID isOf).mpr isRecord
    exact mem_snapshot.mpr ⟨isOf.2.1, isOf.1, kept.sound.listed record isKept clientID isOf⟩

theorem Sound.range_exact (clientID : Int) :
    ((resource.range clientID (fun _ => true) store).1.map resource.id).Nodup ∧
      ∀ record, record ∈ (resource.range clientID (fun _ => true) store).1 ↔
        record ∈ (resource.table store).records ∧ resource.Of clientID record := by
  obtain ⟨_, nodup, leads, ranged⟩ := sound.range maintained clientID fun _ => true
  refine ⟨ranged.order.nodup nodup, fun record => ⟨ranged.mem record, ?_⟩⟩
  rintro ⟨isRecord, isOf⟩
  exact ranged.complete (fun _ _ => rfl) record isRecord (leads record isRecord isOf) isOf

theorem Sound.range_empty (isEmpty : (resource.range clientID continues store).1 = []) :
    ∀ record ∈ (resource.table (resource.range clientID continues store).2).records,
      ¬ resource.Of clientID record := by
  obtain ⟨_, -, leads, ranged⟩ := sound.range maintained clientID continues
  intro record isLeft isOf
  have isRecord := (ranged.kept.mem record clientID isOf).mp isLeft
  have isResult := ranged.complete (by simp [isEmpty]) record isRecord
    (leads record isRecord isOf) isOf
  rw [isEmpty] at isResult
  exact not_mem_nil isResult

theorem Sound.range_kept (clientID : Int) (continues : Record → Bool) :
    resource.Kept store (resource.range clientID continues store).2 := by
  obtain ⟨_, -, -, ranged⟩ := sound.range maintained clientID continues
  exact ranged.kept

end

end

/-! ## Writing -/

section

variable (sound : resource.Sound store)

include sound

theorem Sound.write
    (clients : ∀ clientID, (store.clients.get clientID).isSome = true →
      (after.clients.get clientID).isSome = true)
    (records : ∀ record ∈ (resource.table after).records,
      (record ∈ (resource.table store).records ∧
        ∀ clientID, (resource.index store).Lists clientID (resource.id record) →
          (resource.index after).Lists clientID (resource.id record)) ∨
      ∀ clientID, resource.Of clientID record →
        (after.clients.get clientID).isSome = true ∧
          (resource.index after).Lists clientID (resource.id record))
    (ready : (resource.index after).ready = true ∨ (resource.table after).records = []) :
    resource.Sound after := by
  refine ⟨?_, ?_, ready⟩
  · intro record isRecord clientID isOf
    obtain ⟨isOld, -⟩ | isNew := records record isRecord
    · exact clients clientID (sound.refs record isOld clientID isOf)
    · exact (isNew clientID isOf).1
  · intro record isRecord clientID isOf
    obtain ⟨isOld, kept⟩ | isNew := records record isRecord
    · exact kept clientID (sound.listed record isOld clientID isOf)
    · exact (isNew clientID isOf).2

theorem Sound.stored
    (tableEq : resource.table after = (resource.table store).store record)
    (clientsEq : after.clients = store.clients)
    (refers : resource.clientId record = some clientID)
    (isStored : (store.clients.get clientID).isSome = true)
    (others : ∀ group id, id ≠ resource.id record → (resource.index store).Lists group id →
      (resource.index after).Lists group id)
    (own : resource.Of clientID record → (resource.index after).Lists clientID (resource.id record))
    (ready : (resource.index after).ready = true) : resource.Sound after := by
  refine sound.write (by simp [clientsEq]) ?_ (.inl ready)
  intro _ isOther
  rw [tableEq, mem_store] at isOther
  obtain rfl | ⟨isOld, differs⟩ := isOther
  · refine .inr fun group isOf => ?_
    cases refers.symm.trans isOf.2.2
    exact ⟨clientsEq ▸ isStored, own isOf⟩
  · exact .inl ⟨isOld, fun group => others group _ differs⟩

theorem Sound.deleted
    (tableEq : resource.table after = (resource.table store).delete id)
    (clientsEq : after.clients = store.clients)
    (others : ∀ group other, other ≠ id → (resource.index store).Lists group other →
      (resource.index after).Lists group other)
    (ready : (resource.index after).ready = true) : resource.Sound after := by
  refine sound.write (by simp [clientsEq]) ?_ (.inl ready)
  intro _ isOther
  rw [tableEq, mem_delete] at isOther
  exact .inl ⟨isOther.1, fun group => others group _ isOther.2⟩

theorem Sound.rewritten {current : Record}
    (tableEq : resource.table after = (resource.table store).store record)
    (clientsEq : after.clients = store.clients)
    (indexEq : resource.index after = resource.index store)
    (isCurrent : current ∈ (resource.table store).records)
    (sameId : resource.id record = resource.id current)
    (sameClient : resource.clientId record = resource.clientId current) : resource.Sound after := by
  have ready : (resource.index after).ready = true := by
    rw [indexEq]
    refine sound.ready.resolve_right fun isEmpty => ?_
    rw [isEmpty] at isCurrent
    exact not_mem_nil isCurrent
  refine sound.write (by simp [clientsEq]) ?_ (.inl ready)
  intro _ isOther
  rw [tableEq, mem_store] at isOther
  rw [indexEq, clientsEq]
  obtain rfl | ⟨isOld, -⟩ := isOther
  · refine .inr fun group isOf => ?_
    have wasOf : resource.Of group current := ⟨sameId ▸ isOf.1, isOf.2.1, sameClient ▸ isOf.2.2⟩
    rw [sameId]
    exact ⟨sound.refs current isCurrent group wasOf, sound.listed current isCurrent group wasOf⟩
  · exact .inl ⟨isOld, fun _ lists => lists⟩

end

end ClientResource

end DeepNps.File
