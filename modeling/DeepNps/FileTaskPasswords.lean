import DeepNps.FileStoreFrames
import DeepNps.UniqueIndex

/-!
# The passwords of the tunnels

The runtime owners of a tunnel change its password in place and leave the index as it is,
so the index is exact only while they bring the password that the tunnel has.
-/

namespace DeepNps.File

open Table Option Function

variable {Details : RecordKind → Type}

namespace Tunnel

def passwordCode (env : StoreEnv Details) (tunnel : Tunnel Details) : Option String :=
  if tunnel.password = "" then none else some (env.md5 tunnel.password)

/-- Binding the owner leaves the password as it is: the snapshot is not applied, or it
brings the same password. -/
def bindKeepsPassword (tunnel : Tunnel Details) (uuid : String)
    (snapshot : TunnelSnapshot Details) : Bool :=
  Text.trimSpace uuid = "" ||
    ¬ (RuntimeOwnerPool.count tunnel.runtimeOwners = 0 ∨
        tunnel.runtimeRouteUUID = Text.trimSpace uuid) ||
    snapshot.password = tunnel.password

/-- The tunnel keeps its route, or all other owners have published the same password. -/
def removeKeepsPassword (tunnel : Tunnel Details) (uuid : String) : Bool :=
  ¬ (tunnel.runtimeRouteUUID = Text.trimSpace uuid ∨ Text.trimSpace tunnel.runtimeRouteUUID = "") ||
    tunnel.runtimeOwners.all fun owners =>
      owners.order.all fun other =>
        other = Text.trimSpace uuid ||
          (owners.entries other).all fun snapshot => snapshot.password = tunnel.password

variable {env : StoreEnv Details} {tunnel : Tunnel Details} {uuid : String}

theorem bindRuntimeOwner_password {snapshot : TunnelSnapshot Details}
    (keeps : tunnel.bindKeepsPassword uuid snapshot = true) :
    (tunnel.bindRuntimeOwner env uuid snapshot).password = tunnel.password := by
  simp only [bindKeepsPassword, Bool.or_eq_true, decide_eq_true_eq] at keeps
  rw [bindRuntimeOwner]
  dsimp only
  split_ifs with isBlank applies
  · rfl
  · rcases keeps with (isBlank' | unapplied) | same
    · exact absurd isBlank' isBlank
    · exact absurd applies unapplied
    · exact same
  · rfl

theorem removeFromOwners_cases (env : StoreEnv Details) (tunnel : Tunnel Details)
    (owners : RuntimeOwnerPool (TunnelSnapshot Details)) (uuid : String) :
    (tunnel.removeFromOwners env owners uuid).2.password = tunnel.password ∨
      ((tunnel.runtimeRouteUUID = uuid ∨ Text.trimSpace tunnel.runtimeRouteUUID = "") ∧
        ∃ other ∈ owners.order, other ≠ uuid ∧ ∃ snapshot, owners.entries other = some snapshot ∧
          (tunnel.removeFromOwners env owners uuid).2.password = snapshot.password) := by
  rw [removeFromOwners]
  cases removal : owners.remove uuid with
  | mk result left =>
    obtain ⟨_, _⟩ := result
    dsimp only
    split_ifs with isRemoved isLast switches
    · exact .inl rfl
    · rw [switchOwner]
      cases isFirst : left.first with
      | none => exact .inl rfl
      | some next =>
        have took : (owners.remove uuid).1.2 = true := by rw [removal, isRemoved]
        obtain ⟨isOwner, isOther, isEntry⟩ := RuntimeOwnerPool.entries_of_first_remove took
          (by rw [removal]; exact isFirst)
        exact .inr ⟨switches, next.1, isOwner, isOther, next.2, isEntry, rfl⟩
    · exact .inl rfl
    · exact .inl rfl

theorem removeRuntimeOwner_password (keeps : tunnel.removeKeepsPassword uuid = true) :
    (tunnel.removeRuntimeOwner env uuid).2.password = tunnel.password := by
  rw [removeRuntimeOwner]
  by_cases isBlank : Text.trimSpace uuid = ""
  · rw [if_pos isBlank]
  · rw [if_neg isBlank]
    cases owned : tunnel.runtimeOwners with
    | none =>
      dsimp only
      split_ifs <;> rfl
    | some owners =>
      dsimp only
      rcases removeFromOwners_cases env tunnel owners (Text.trimSpace uuid) with
        same | ⟨switches, other, isOwner, isOther, snapshot, isEntry, isApplied⟩
      · exact same
      · refine isApplied.trans ?_
        simp only [removeKeepsPassword, owned, Bool.or_eq_true, decide_eq_true_eq,
          all_some, List.all_eq_true] at keeps
        have published := (keeps.resolve_left (not_not.mpr switches) other isOwner).resolve_left
          isOther
        rw [isEntry] at published
        simpa using published

end Tunnel

namespace Store

/-- The index leads to the tunnels by the hashes of their passwords. -/
def PasswordsExact (env : StoreEnv Details) (store : Store Details) : Prop :=
  UniqueIndex.Exact (Tunnel.passwordCode env) store.tasks.get store.taskPasswordIndex.get

/-- New tunnels get an id that is not in use, and runtime owners bring the password that
the tunnel has. -/
def passwordOrderly (store : Store Details) : StoreEvent Details → Bool
  | .newTask tunnel _ => (store.tasks.get (allocateId store.taskIncreaseId tunnel.id).1).isNone
  | .bindRuntimeOwner id uuid snapshot =>
      (store.tasks.get id).all fun tunnel => tunnel.bindKeepsPassword uuid snapshot
  | .removeRuntimeOwner id uuid =>
      (store.tasks.get id).all fun tunnel => tunnel.removeKeepsPassword uuid
  | _ => true

variable {env : StoreEnv Details} {store : Store Details}

/-! ## Settling on a password -/

variable {index : StringIDIndex} {randoms : List RandomText} {get : Int → Option (Tunnel Details)}
  {settled : String × StringIDIndex} {current : Tunnel Details}

theorem freePassword_spec {id : Int} {password settled : String} (given : password ≠ "")
    (isSettled : freePassword env index id password randoms = some settled) :
    settled ≠ "" ∧
      (index.get (env.md5 settled) = none ∨ index.get (env.md5 settled) = some id) := by
  fun_induction freePassword env index id password randoms with
  | case1 _ unindexed | case4 _ _ _ unindexed =>
    cases isSettled
    exact ⟨given, .inl unindexed⟩
  | case2 _ indexed | case5 _ _ _ indexed =>
    cases isSettled
    exact ⟨given, .inr indexed⟩
  | case3 => cases isSettled
  | case6 _ random _ _ _ _ ih => exact ih random.ne_empty isSettled

theorem exact_of_settlePassword (exact : UniqueIndex.Exact (Tunnel.passwordCode env) get index.get)
    {id : Int} {password : String} (absent : get id = none)
    (isSettled : settlePassword env id password randoms index = some settled)
    {stored : Tunnel Details} (storedPassword : stored.password = settled.1) :
    UniqueIndex.Exact (Tunnel.passwordCode env) (update get id (some stored))
      settled.2.get := by
  rw [settlePassword] at isSettled
  split_ifs at isSettled with isEmpty
  · cases isSettled
    refine exact.of_code_none (by simp [absent]) ?_
    intro _ isStored
    cases isStored
    simp [Tunnel.passwordCode, storedPassword]
  · obtain ⟨_, isFree, rfl⟩ := map_eq_some_iff.mp isSettled
    obtain ⟨nonempty, unindexed | own⟩ := freePassword_spec isEmpty isFree
    · refine exact.insert absent ?_ unindexed
      rw [Tunnel.passwordCode, storedPassword, if_neg nonempty]
    · obtain ⟨_, found, -⟩ := (exact _ _).mp own
      rw [absent] at found
      cases found

theorem exact_withoutPassword (exact : UniqueIndex.Exact (Tunnel.passwordCode env) get index.get)
    (found : get current.id = some current) :
    UniqueIndex.Exact (Tunnel.passwordCode env) (update get current.id none)
      (withoutPassword env current index).get := by
  rw [withoutPassword]
  split_ifs with isEmpty
  · refine exact.of_code_none ?_ (by simp)
    intro _ isFound
    cases found.symm.trans isFound
    rw [Tunnel.passwordCode, if_pos isEmpty]
  · have hasCode : current.passwordCode env = some (env.md5 current.password) := by
      rw [Tunnel.passwordCode, if_neg isEmpty]
    have leads := (exact _ _).mpr ⟨current, found, hasCode⟩
    rw [StringIDIndex.removeIf, if_pos leads]
    exact exact.erase found hasCode

/-! ## The operations keep the index exact -/

theorem PasswordsExact.replaceTask (exact : store.PasswordsExact env)
    {tunnel : Tunnel Details} {clientId : Int}
    (found : store.tasks.get tunnel.id = some current) {filled : String × List RandomText}
    (isSettled : settlePassword env tunnel.id filled.1 filled.2
      (withoutPassword env current store.taskPasswordIndex) = some settled) :
    (store.replaceTask env current
      { tunnel with clientId := some clientId, password := settled.1, expectedRevision := 0 }
      clientId settled.2).PasswordsExact env := by
  have isId := key_of_get found
  have erased := exact_withoutPassword exact (isId.symm ▸ found)
  rw [isId] at erased
  rw [PasswordsExact, Store.replaceTask, get_store_eq_update, ← update_idem]
  exact exact_of_settlePassword erased (update_self ..) isSettled rfl

theorem PasswordsExact.delTask (exact : store.PasswordsExact env)
    (injective : Function.Injective env.md5) (found : store.tasks.get current.id = some current) :
    UniqueIndex.Exact (Tunnel.passwordCode env) (store.tasks.delete current.id).get
      (store.taskPasswordIndex.remove (env.md5 current.password)).get := by
  rw [get_delete_eq_update]
  by_cases isEmpty : current.password = ""
  · -- no tunnel is found under the hash of the empty password
    have unindexed : store.taskPasswordIndex.get (env.md5 current.password) = none := by
      refine exact.eq_none ?_
      intro _ _ _ hasCode
      rw [Tunnel.passwordCode] at hasCode
      split_ifs at hasCode with otherEmpty
      exact otherEmpty ((injective (some.inj hasCode)).trans isEmpty)
    have same : (store.taskPasswordIndex.remove (env.md5 current.password)).get =
        store.taskPasswordIndex.get :=
      update_eq_self_iff.mpr unindexed.symm
    rw [same]
    refine UniqueIndex.Exact.of_code_none exact ?_ (by simp)
    intro _ isFound
    cases found.symm.trans isFound
    rw [Tunnel.passwordCode, if_pos isEmpty]
  · refine UniqueIndex.Exact.erase exact found ?_
    rw [Tunnel.passwordCode, if_neg isEmpty]

theorem PasswordsExact.rewrite (exact : store.PasswordsExact env) {new : Tunnel Details}
    (found : store.tasks.get current.id = some current) (sameId : new.id = current.id)
    (samePassword : new.password = current.password) :
    UniqueIndex.Exact (Tunnel.passwordCode env) (store.tasks.store new).get
      store.taskPasswordIndex.get := by
  rw [get_store_eq_update, sameId]
  refine UniqueIndex.Exact.rewrite exact found ?_
  rw [Tunnel.passwordCode, Tunnel.passwordCode, samePassword]

theorem passwordsExact_userStable :
    UserStable fun store : Store Details => store.PasswordsExact env where
  links := fun _ _ _ exact => exact
  users := fun _ _ _ _ _ exact => exact

theorem passwordsExact_clientStable :
    ClientStable fun store : Store Details => store.PasswordsExact env where
  links := fun _ _ _ exact => exact
  clients := fun _ _ _ _ exact => exact

theorem PasswordsExact.step (injective : Function.Injective env.md5) {event : StoreEvent Details}
    {next : Store Details} (exact : store.PasswordsExact env)
    (orderly : store.passwordOrderly event = true) (stepEq : store.step env event = some next) :
    next.PasswordsExact env := by
  have tunnels : (ClientResource.tunnels env).Stable fun store => store.PasswordsExact env := by
    refine ⟨?_, fun _ _ exact => exact⟩
    intro _ _ exact isTunnel
    have erased := exact_withoutPassword exact (get_key_of_mem isTunnel)
    rw [← get_delete_eq_update] at erased
    exact erased
  have hosts : (ClientResource.hosts env).Stable fun store => store.PasswordsExact env :=
    HostStable.resource ⟨fun _ _ _ _ _ exact => exact⟩
  obtain ⟨_, performs, rfl⟩ := performs_of_step stepEq
  cases performs with
  | rejected | newHost | updateHost | delHost => exact exact
  | newUser user => exact passwordsExact_userStable.writes.newUser user exact
  | updateUser user => exact passwordsExact_userStable.writes.updateUser user exact
  | delUser => exact passwordsExact_userStable.delUser (fun _ _ _ exact _ _ => exact) exact
  | newClient => exact passwordsExact_clientStable.createClient _ exact
  | updateClient => exact passwordsExact_clientStable.replaceClient tunnels hosts _ _ exact
  | clientHasResources id => exact clientOwnsPersistedResources_preserves tunnels hosts id exact
  | delClient =>
    exact passwordsExact_clientStable.removeClient _
      (clientOwnsPersistedResources_preserves tunnels hosts _ exact)
  | newTask _ isSettled =>
    have absent := isNone_iff_eq_none.mp orderly
    rw [PasswordsExact, createTask, get_store_eq_update]
    exact exact_of_settlePassword exact absent isSettled rfl
  | updateTask _ found isSettled => exact exact.replaceTask found isSettled
  | delTask found => exact exact.delTask injective found
  | bindRuntimeOwner found =>
    rw [passwordOrderly, found, all_some] at orderly
    exact exact.rewrite found Tunnel.bindRuntimeOwner_keeps.1
      (Tunnel.bindRuntimeOwner_password orderly)
  | removeRuntimeOwner found =>
    rw [passwordOrderly, found, all_some] at orderly
    exact exact.rewrite found Tunnel.removeRuntimeOwner_keeps.1
      (Tunnel.removeRuntimeOwner_password orderly)

/-- In every run whose new tunnels get unused ids and whose owners bring the password that the
tunnel has, a hash leads to the stored tunnels whose password has it, and to nothing else. -/
theorem getTaskByMd5Password_exact (env : StoreEnv Details)
    (injective : Function.Injective env.md5) (events : List (StoreEvent Details))
    (store : Store Details) (reaches : Runs.execute (Store.step env) new events = some store)
    (orderly : Runs.Meets (Store.step env) (fun store event => store.passwordOrderly event = true)
      new events) (hash : String) :
    (∀ tunnel, (store.getTaskByMd5Password hash).1 = some tunnel →
      tunnel ∈ store.tasks.records ∧ env.md5 tunnel.password = hash) ∧
    ∀ tunnel ∈ store.tasks.records, tunnel.password ≠ "" → env.md5 tunnel.password = hash →
      (store.getTaskByMd5Password hash).1 = some tunnel := by
  have exact : store.PasswordsExact env :=
    Runs.invariant_of_meets (PasswordsExact env) (fun _ _ _ => PasswordsExact.step injective)
      (by exact UniqueIndex.exact_empty) orderly reaches
  have found : ∀ id tunnel, store.taskPasswordIndex.get hash = some id →
      store.tasks.get id = some tunnel → env.md5 tunnel.password = hash := by
    intro id _ leads isStored
    obtain ⟨_, isRecord, hasCode⟩ := (exact hash id).mp leads
    cases isStored.symm.trans isRecord
    rw [Tunnel.passwordCode] at hasCode
    split_ifs at hasCode
    exact some.inj hasCode
  constructor
  · intro _ looked
    rw [getTaskByMd5Password] at looked
    cases leads : store.taskPasswordIndex.get hash with
    | none => simp [leads] at looked
    | some id =>
      cases isStored : store.tasks.get id with
      | none => simp [leads, isStored] at looked
      | some =>
        simp only [leads, isStored, some.injEq] at looked
        subst looked
        exact ⟨mem_of_get isStored, found id _ leads isStored⟩
  · intro tunnel isTunnel nonempty hashes
    have isStored := get_key_of_mem isTunnel
    have leads := (exact hash tunnel.id).mpr ⟨tunnel, isStored, by
      rw [Tunnel.passwordCode, if_neg nonempty, hashes]⟩
    rw [getTaskByMd5Password]
    simp only [leads, isStored]

def sharedPassword : List (StoreEvent Bare) :=
  [.newClient (Client.bare 0 "key" 0 []) [], .newTask (Tunnel.bare 0 1 "secret" "pass") [],
    .bindRuntimeOwner 1 "node" (TunnelSnapshot.bare "secret" "pass"),
    .updateTask (Tunnel.bare 1 1 "secret" "changed") []]

theorem getTaskByMd5Password_shared :
    ∃ store, Runs.execute (Store.step StoreEnv.bare) new sharedPassword = some store ∧
      (∃ tunnel, (store.getTaskByMd5Password "changed").1 = some tunnel ∧ tunnel.id = 1) ∧
      ∀ tunnel, (store.getTaskByMd5Password "pass").1 ≠ some tunnel := by
  obtain ⟨store, reaches, tasks⟩ :
      ∃ store, Runs.execute (Store.step StoreEnv.bare) new sharedPassword = some store ∧
        store.tasks.records.map (fun tunnel => (tunnel.id, tunnel.password)) = [(1, "changed")] :=
    Runs.exists_of_any (by decide +kernel)
  have exact := getTaskByMd5Password_exact StoreEnv.bare injective_id sharedPassword store
    reaches (by decide +kernel)
  obtain ⟨tunnel, isOnly, tunnelEq⟩ := List.map_eq_singleton_iff.mp tasks
  obtain ⟨isId, isPassword⟩ := Prod.mk.inj tunnelEq
  refine ⟨store, reaches, ⟨tunnel, ?_, isId⟩, ?_⟩
  · exact (exact "changed").2 tunnel (by simp [isOnly]) (by simp [isPassword]) isPassword
  · intro other looked
    obtain ⟨isStored, hashes⟩ := (exact "pass").1 other looked
    rw [isOnly, List.mem_singleton] at isStored
    rw [isStored, isPassword] at hashes
    exact absurd hashes (by decide)

/-- The first owner of a secret tunnel brings another password. -/
def changedPassword : List (StoreEvent Bare) :=
  [.newClient (Client.bare 0 "key" 0 []) [], .newTask (Tunnel.bare 0 1 "secret" "old") [],
    .bindRuntimeOwner 1 "node" (TunnelSnapshot.bare "secret" "new")]

/-- The tunnel is found under the password it had, and not under the one it has. -/
theorem getTaskByMd5Password_stale :
    ∃ store, Runs.execute (Store.step StoreEnv.bare) new changedPassword = some store ∧
      store.tasks.records.map (fun tunnel => (tunnel.id, tunnel.password)) = [(1, "new")] ∧
      (store.getTaskByMd5Password "old").1.map Tunnel.id = some 1 ∧
      (store.getTaskByMd5Password "new").1.map Tunnel.id = none := by
  exact Runs.exists_of_any (by decide +kernel)

end Store

end DeepNps.File
