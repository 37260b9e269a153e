import DeepNps.FileStoreFrames

/-!
# Rejected writes

An operation that returns an error leaves the store as it was, but for an entry of the
index of names that leads to no user of that name.
-/

namespace DeepNps.File

variable {Details : RecordKind → Type}

def StoreEvent.isWrite : StoreEvent Details → Bool
  | .newUser _ | .updateUser _ | .newClient _ _ | .updateClient _ | .newTask _ _
  | .updateTask _ _ | .newHost _ | .updateHost _ => true
  | .delUser _ _ | .delClient _ | .delTask _ | .bindRuntimeOwner _ _ _
  | .removeRuntimeOwner _ _ | .delHost _ => false

def StoreEvent.writtenName : StoreEvent Details → Option String
  | .newUser user | .updateUser user => some (Text.trimSpace user.username)
  | .newClient _ _ | .updateClient _ | .newTask _ _ | .updateTask _ _ | .newHost _
  | .updateHost _ | .delUser _ _ | .delClient _ | .delTask _ | .bindRuntimeOwner _ _ _
  | .removeRuntimeOwner _ _ | .delHost _ => none

open StoreEnv

namespace Store

variable {env : StoreEnv Details} {store after : Store Details} {username : String}
  {error : StoreError}

/-- The only change is that an entry for the name is gone that led to no user of the
name. -/
def LosesStaleName (username : String) (store after : Store Details) : Prop :=
  ∃ id, 0 < id ∧ store.usernameIndex.get username = some id ∧
    (∀ user, store.users.get id = some user → user.indexedUsername ≠ username) ∧
    after = { store with usernameIndex := store.usernameIndex.remove username }

/-! ## Users -/

variable {user : User Details}

theorem getUserByUsernameIndex_some :
    store.getUserByUsernameIndex username = (some user, after) → after = store := by
  fun_cases getUserByUsernameIndex username store <;> rintro ⟨⟩
  rfl

theorem verifyUserName_false {exceptUserID : Int} :
    store.verifyUserName username exceptUserID = (false, after) →
      after = store ∨ store.LosesStaleName (Text.trimSpace username) after := by
  fun_cases verifyUserName username exceptUserID store with
  | case2 _ _ _ _ looked =>
    intro isAfter
    exact .inl ((Prod.mk.inj isAfter).2 ▸ getUserByUsernameIndex_some looked)
  | case3 _ _ _ looked =>
    rintro ⟨⟩
    revert looked
    fun_cases getUserByUsernameIndex (Text.trimSpace username) store with
    | case4 _ _ id leads positive stored =>
      intro isAfter
      exact .inr ⟨id, Int.not_le.mp positive, leads, by simp [stored], (Prod.mk.inj isAfter).2.symm⟩
    | case5 _ _ id leads positive _ stored isStale =>
      intro isAfter
      refine .inr ⟨id, Int.not_le.mp positive, leads, fun user isUser => ?_,
        (Prod.mk.inj isAfter).2.symm⟩
      cases stored.symm.trans isUser
      exact isStale
    | case6 => rintro ⟨⟩
    | _ =>
      rintro ⟨⟩
      exact .inl rfl
  | _ => rintro ⟨⟩

theorem newUser_rejected :
    store.newUser env user = (.error error, after) →
      after = store ∨ store.LosesStaleName (Text.trimSpace user.username) after := by
  fun_cases newUser env user store with
  | case1 =>
    rintro ⟨⟩
    exact .inl rfl
  | case2 _ _ _ taken =>
    rintro ⟨⟩
    rw [← Text.trimSpace_trimSpace]
    exact verifyUserName_false taken
  | case3 => rintro ⟨⟩

theorem updateUser_rejected :
    store.updateUser env user = (.error error, after) →
      after = store ∨ store.LosesStaleName (Text.trimSpace user.username) after := by
  fun_cases updateUser env user store with
  | case4 _ _ _ _ _ _ taken =>
    rintro ⟨⟩
    rw [← Text.trimSpace_trimSpace]
    exact verifyUserName_false taken
  | case5 => rintro ⟨⟩
  | _ =>
    rintro ⟨⟩
    exact .inl rfl

/-! ## Expected revisions -/

theorem revisionDiffers_iff {expected current : Int} :
    revisionDiffers expected current = true ↔ 0 < expected ∧ current ≠ expected := by
  simp [revisionDiffers]

/-- A rejected write leaves the store as it was, up to an entry of the name that led to no user;
an update that expects another revision is rejected. -/
theorem rejected_writes (env : StoreEnv Details) (store : Store Details) :
    (∀ event error after, event.isWrite = true →
      store.perform env event = some (.error error, after) →
      after = store ∨
        ∃ username, event.writtenName = some username ∧ store.LosesStaleName username after) ∧
    (∀ user current, store.users.get user.id = some current → 0 < user.expectedRevision →
      current.revision ≠ user.expectedRevision →
      ∃ error, store.updateUser env user = (.error error, store)) ∧
    (∀ client current, store.clients.get client.id = some current →
      0 < client.expectedRevision → current.revision ≠ client.expectedRevision →
      ∃ error, store.updateClient env client = (.error error, store)) ∧
    (∀ tunnel current randoms, store.tasks.get tunnel.id = some current →
      0 < tunnel.expectedRevision → current.revision ≠ tunnel.expectedRevision →
      ∃ error, store.updateTask env tunnel randoms = some (.error error, store)) ∧
    ∀ host current, store.hosts.get host.id = some current → 0 < host.expectedRevision →
      current.revision ≠ host.expectedRevision →
      ∃ error, store.updateHost env host = (.error error, store) := by
  refine ⟨?_, ?_, ?_, ?_, ?_⟩
  · intro _ _ _ isWrite rejected
    have performs := performs_of_perform rejected
    generalize isOutcome : (Except.error _, _) = outcome at performs
    cases performs with
    | rejected =>
      cases isOutcome
      exact .inl rfl
    | newUser =>
      refine (newUser_rejected isOutcome.symm).imp_right fun loses => ?_
      exact ⟨_, rfl, loses⟩
    | updateUser =>
      refine (updateUser_rejected isOutcome.symm).imp_right fun loses => ?_
      exact ⟨_, rfl, loses⟩
    | delUser | clientHasResources | delClient | delTask | bindRuntimeOwner | removeRuntimeOwner
    | delHost => cases isWrite
    | newClient | updateClient | newTask | updateTask | newHost | updateHost => cases isOutcome
  · intro _ _ stored expects differs
    rw [updateUser, stored]
    dsimp only
    exact ⟨_, if_pos (revisionDiffers_iff.mpr ⟨expects, differs⟩)⟩
  · intro _ _ stored expects differs
    rw [updateClient]
    dsimp only
    rw [stored]
    exact ⟨_, if_pos (revisionDiffers_iff.mpr ⟨expects, differs⟩)⟩
  · intro tunnel _ _ stored expects differs
    rw [updateTask]
    cases store.resolveStoredClientRef tunnel.clientId with
    -- the client of a tunnel is checked before its revision
    | error reason => exact ⟨reason, rfl⟩
    | ok =>
      dsimp only
      rw [stored]
      dsimp only
      rw [if_pos (revisionDiffers_iff.mpr ⟨expects, differs⟩)]
      exact ⟨_, rfl⟩
  · intro host _ stored expects differs
    rw [updateHost]
    cases store.resolveStoredClientRef host.clientId with
    | error reason => exact ⟨reason, rfl⟩
    | ok =>
      dsimp only
      rw [stored]
      dsimp only
      rw [if_pos (revisionDiffers_iff.mpr ⟨expects, differs⟩)]
      exact ⟨_, rfl⟩

/-- Two users; the second one asks for the name of the first. -/
theorem rejected_writes_duplicate_name :
    ∃ store after, Runs.execute (Store.step StoreEnv.bare) new
        [.newUser (User.bare 0 "first"), .newUser (User.bare 0 "second")] = some store ∧
      store.perform StoreEnv.bare (.updateUser (User.bare 2 " first")) =
        some (.error .usernameDuplicate, after) ∧
      after.users = store.users ∧ after.clients = store.clients ∧
      after.platformUserIndex = store.platformUserIndex := by
  obtain ⟨store, reaches, isDuplicate⟩ : ∃ store, Runs.execute (Store.step bare) new
        [.newUser (User.bare 0 "first"), .newUser (User.bare 0 "second")] = some store ∧
      (store.updateUser bare (User.bare 2 " first")).1 = .error .usernameDuplicate :=
    Runs.exists_of_any (by decide +kernel)
  generalize updated : store.updateUser bare (User.bare 2 " first") = outcome at isDuplicate
  obtain ⟨_, after⟩ := outcome
  cases isDuplicate
  have rejected := congrArg some updated
  refine ⟨store, after, reaches, rejected, ?_⟩
  obtain rfl | ⟨username, -, id, -, -, -, rfl⟩ :=
    (rejected_writes bare store).1 (.updateUser (User.bare 2 " first")) _ _ rfl rejected
  · exact ⟨rfl, rfl, rfl⟩
  · exact ⟨rfl, rfl, rfl⟩

/-- The counter of the user ids goes round, so the second user gets the id zero.  A third
user may then have the same name, and loses it when the id is written again. -/
def unindexedName : List (StoreEvent Bare) :=
  [.newUser (User.bare 4294967295 "first"), .newUser (User.bare 0 "second"),
    .newUser (User.bare 0 "second"), .newUser (User.bare 1 "third")]

/-- A rejected write removes the entry of the name. -/
theorem rejected_newUser_removes_entry :
    ∃ store after, Runs.execute (Store.step StoreEnv.bare) new unindexedName = some store ∧
      store.newUser StoreEnv.bare (User.bare 7 "second") = (.error .usernameDuplicate, after) ∧
      store.usernameIndex.get "second" = some 1 ∧ after.usernameIndex.get "second" = none := by
  obtain ⟨store, reaches, isDuplicate, before, removed⟩ :
      ∃ store, Runs.execute (Store.step bare) new unindexedName = some store ∧
        (store.newUser bare (User.bare 7 "second")).1 = .error .usernameDuplicate ∧
        store.usernameIndex.get "second" = some 1 ∧
        (store.newUser bare (User.bare 7 "second")).2.usernameIndex.get "second" = none :=
    Runs.exists_of_any (by decide +kernel)
  exact ⟨store, _, reaches, Prod.ext isDuplicate rfl, before, removed⟩

end Store

end DeepNps.File
