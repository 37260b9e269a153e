import DeepNps.FileHostIndex
import DeepNps.FileHostRouting

/-!
# The host of a request is determined by the table

As long as no host for all schemes is put over one that serves a single scheme of the same
route, a request is served by the same host whatever the order of the candidates.
-/

namespace DeepNps.File

open List

variable {Details : RecordKind → Type}

namespace Store

def SharesRoute (store : Store Details) (host : Host Details) : Prop :=
  ∃ other ∈ store.hosts.records, other.id ≠ host.id ∧ other.host = host.host ∧
    normalizedHostLocation other.location = normalizedHostLocation host.location

instance (store : Store Details) (host : Host Details) : Decidable (store.SharesRoute host) :=
  inferInstanceAs (Decidable (∃ other ∈ store.hosts.records, _))

/-- A host for all schemes is put only where no other host has its route, and an id is
asked for only while no host has the id zero. -/
def RouteOrderly (store : Store Details) : StoreEvent Details → Prop
  | .newHost host =>
      (host.id = 0 → (store.hosts.get 0).isNone) ∧
        (normalizedHostScheme host.scheme = "all" → ¬ store.SharesRoute host)
  | .updateHost host => normalizedHostScheme host.scheme = "all" → ¬ store.SharesRoute host
  | _ => True

instance (store : Store Details) : (event : StoreEvent Details) →
    Decidable (store.RouteOrderly event)
  | .newHost host =>
      inferInstanceAs (Decidable ((host.id = 0 → (store.hosts.get 0).isNone) ∧
        (normalizedHostScheme host.scheme = "all" → ¬ store.SharesRoute host)))
  | .updateHost host =>
      inferInstanceAs (Decidable (normalizedHostScheme host.scheme = "all" →
        ¬ store.SharesRoute host))
  | .newUser _ | .updateUser _ | .delUser _ _ | .newClient _ _ | .updateClient _ | .delClient _
  | .newTask _ _ | .updateTask _ _ | .delTask _ | .bindRuntimeOwner _ _ _
  | .removeRuntimeOwner _ _ | .delHost _ => .isTrue trivial

variable {env : StoreEnv Details} {store : Store Details} {host : Host Details}

theorem routesApart_store (apart : RoutesApart store.hosts) {stored : Host Details}
    (accepted : ¬ store.isHostExist host.normalizeRoutingFields)
    (orderly : normalizedHostScheme host.scheme = "all" → ¬ store.SharesRoute host)
    (domain : stored.host = host.host)
    (location : stored.location = host.normalizeRoutingFields.location)
    (scheme : stored.scheme = host.normalizeRoutingFields.scheme)
    (ids : ∀ other ∈ store.hosts.records, other.id ≠ stored.id → other.id ≠ host.id) :
    RoutesApart (store.hosts.store stored) := by
  refine apart.store ?_
  intro other isOther differs sameDomain sameLocation
  rw [domain] at sameDomain
  rw [location, Host.normalizeRoutingFields, normalizedHostLocation_routeLocation] at sameLocation
  rw [scheme, Host.normalizeRoutingFields, normalizedHostScheme_idem]
  intro common
  -- the check passes over other hosts of the route only if the host serves all schemes
  have notAll : normalizedHostScheme host.scheme ≠ "all" := fun isAll =>
    orderly isAll ⟨other, isOther, ids other isOther differs, sameDomain, sameLocation⟩
  apply accepted
  rw [isHostExist, any_eq_true]
  refine ⟨other, isOther, decide_eq_true ⟨ids other isOther differs, sameDomain, ?_, ?_⟩⟩
  · rw [sameLocation]
    exact (normalizedHostLocation_routeLocation host.location).symm
  · rw [Host.normalizeRoutingFields, normalizedHostScheme_idem]
    rcases common with isAll | isAll | same
    · exact .inl isAll
    · exact absurd isAll notAll
    · exact .inr same

theorem routesApart_hostLocal :
    HostLocal env fun store : Store Details => RoutesApart store.hosts where
  rest := by
    intro _ _ sameHosts _ apart
    rw [sameHosts]
    exact apart
  drop := fun host _ apart => apart.delete host.id

theorem routesApart_step {event : StoreEvent Details} {next : Store Details}
    (apart : RoutesApart store.hosts) (orderly : store.RouteOrderly event)
    (stepEq : store.step env event = some next) : RoutesApart next.hosts := by
  refine routesApart_hostLocal.step (fun outcome performs onHosts => ?_) apart stepEq
  cases performs with
  | rejected => exact apart
  | @newHost host _ _ accepted =>
    rw [createHost]
    refine routesApart_store apart accepted orderly.2 ?_ ?_ ?_ ?_
    · simp only [Host.finalizeForStore, Host.normalizeRoutingFields]
    · simp only [Host.finalizeForStore]
    · simp only [Host.finalizeForStore]
    intro _ isOther differs isGiven
    -- the id that is checked is the one given, not the one allocated
    by_cases isZero : host.id = 0
    · have absent := orderly.1 isZero
      rw [← isZero, ← isGiven, Table.get_key_of_mem isOther] at absent
      cases absent
    · refine differs (isGiven.trans ?_)
      change host.id = (allocateId _ host.id).1
      rw [allocateId, if_neg isZero]
      split_ifs <;> rfl
  | updateHost _ _ accepted =>
    rw [replaceHost]
    refine routesApart_store apart accepted orderly ?_ ?_ ?_ ?_
    · simp only [Host.finalizeForStore, Host.normalizeRoutingFields]
    · simp only [Host.finalizeForStore]
    · simp only [Host.finalizeForStore]
    · exact fun _ _ differs => differs
  | delHost => exact apart.delete _
  | _ => cases onHosts

/-- In every run that never puts a host for all schemes over a host of its route, a request whose
name does not begin with a star is served by the same host in any order of the candidates. -/
theorem getInfoByHost_determined (env : StoreEnv Details) (events : List (StoreEvent Details))
    (store : Store Details) (reaches : Runs.execute (step env) new events = some store)
    (orderly : Runs.Meets (step env) RouteOrderly new events)
    (request : HostRequest) (plain : Text.hasPrefix (getIpByAddr request.host) "*" = false) :
    (∀ ids, ids.Perm (store.hostIndex.lookup env.lower (getIpByAddr request.host)) →
      store.selectHost ids request = store.getInfoByHost env request) ∧
    ∀ host ∈ store.hosts.records, ∀ other ∈ store.hosts.records,
      host.serves (getIpByAddr request.host) request.path request.scheme = true →
      other.serves (getIpByAddr request.host) request.path request.scheme = true →
      host.rank (getIpByAddr request.host) = other.rank (getIpByAddr request.host) →
      host = other := by
  have apart : RoutesApart store.hosts :=
    Runs.invariant_of_meets (fun store : Store Details => RoutesApart store.hosts)
      (fun _ _ _ => routesApart_step) (fun _ isHost => absurd isHost Table.not_mem_empty) orderly
      reaches
  constructor
  · intro _ perm
    rw [getInfoByHost, selectHost_eq, selectHost_eq]
    refine (Host.ranked plain).choose_eq (fun host => of_mem_filter) ?_ ?_
    · intro _ isHost _ isOther _ sameRank
      obtain ⟨hostListed, hostServes⟩ := mem_filter.mp isHost
      obtain ⟨otherListed, otherServes⟩ := mem_filter.mp isOther
      obtain ⟨_, -, hostFound⟩ := mem_filterMap.mp hostListed
      obtain ⟨_, -, otherFound⟩ := mem_filterMap.mp otherListed
      exact apart.untied (Table.mem_of_get hostFound) (Table.mem_of_get otherFound) hostServes
        otherServes sameRank
    · intro _
      exact ((perm.filterMap store.hosts.get).filter _).mem_iff
  · intro _ isHost _ isOther hostServes otherServes sameRank
    exact apart.untied isHost isOther hostServes otherServes sameRank

def separateSchemes : List (StoreEvent Bare) :=
  [.newClient (Client.bare 0 "key" 0 []) [],
    .newHost (Host.bare 0 1 "example.com" "/" "http"),
    .newHost (Host.bare 0 1 "example.com" "/" "https")]

theorem getInfoByHost_separate_schemes :
    ∃ store, Runs.execute (step StoreEnv.bare) new separateSchemes = some store ∧
      store.selectHost [2, 1] ⟨"example.com", "/a", "http"⟩ =
        store.getInfoByHost StoreEnv.bare ⟨"example.com", "/a", "http"⟩ := by
  obtain ⟨store, reaches, candidates⟩ :
      ∃ store, Runs.execute (step StoreEnv.bare) new separateSchemes = some store ∧
        store.hostIndex.lookup StoreEnv.bare.lower (getIpByAddr "example.com") = [2, 1] :=
    Runs.exists_of_any (by decide +kernel)
  have determined := getInfoByHost_determined StoreEnv.bare separateSchemes store reaches
    (by decide +kernel) ⟨"example.com", "/a", "http"⟩ (by decide +kernel)
  refine ⟨store, reaches, determined.1 [2, 1] ?_⟩
  rw [candidates]

def allOverHttp : List (StoreEvent Bare) :=
  [.newClient (Client.bare 0 "key" 0 []) [],
    .newHost (Host.bare 0 1 "example.com" "/" "http"),
    .newHost (Host.bare 0 1 "example.com" "/" "all")]

/-- The check accepts the second host, and the candidate that comes last serves the
request. -/
theorem getInfoByHost_depends_on_order :
    ∃ store, Runs.execute (step StoreEnv.bare) new allOverHttp = some store ∧
      [1, 2].Perm (store.hostIndex.lookup StoreEnv.bare.lower (getIpByAddr "example.com")) ∧
      (store.selectHost [1, 2] ⟨"example.com", "/a", "http"⟩).map Host.id = some 2 ∧
      (store.selectHost [2, 1] ⟨"example.com", "/a", "http"⟩).map Host.id = some 1 := by
  exact Runs.exists_of_any (by decide +kernel)

end Store

end DeepNps.File
