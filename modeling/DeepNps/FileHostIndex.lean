import DeepNps.FileStoreFrames

/-!
# The domain index of the hosts

The tree of labels is a set of pairs of a label path and an id, and a stored host is
found under the path of its pattern.
-/

namespace DeepNps.File

open List

namespace DomainNode

variable {node : DomainNode}

theorem child_setChild (label wanted : String) (child : DomainNode) :
    (node.setChild label child).child wanted =
      if wanted = label then some child else node.child wanted := by
  rw [DomainNode.child, setChild, children, Assoc.lookup_cons_ite, Assoc.lookup_filter_ne]
  by_cases isLabel : wanted = label
  · simp [isLabel]
  · simp [isLabel, DomainNode.child]

@[simp]
theorem ids_setChild (label : String) (child : DomainNode) :
    (node.setChild label child).ids = node.ids :=
  rfl

variable {parts wanted : List String} {id : Int} {part : String}

theorem not_has_new : DomainNode.new.has parts id = false := by
  cases parts with
  | nil => rfl
  | cons => rfl

theorem has_nil : node.has [] id = true ↔ id ∈ node.ids := by
  rw [has]
  exact decide_eq_true_iff

theorem has_cons : node.has (part :: parts) id = ((node.child part).getD new).has parts id := by
  rw [has]
  cases node.child part with
  | none => exact not_has_new.symm
  | some => rfl

theorem has_cloneAdd {other : Int} :
    (node.cloneAdd parts id).has wanted other = true ↔
      (wanted = parts ∧ other = id) ∨ node.has wanted other = true := by
  induction parts generalizing node wanted with
  | nil =>
    cases wanted with
    | nil =>
      rw [has_nil, has_nil, cloneAdd, ids, mem_cons, mem_filter]
      by_cases isId : other = id <;> simp [isId]
    | cons => simp [cloneAdd, has, DomainNode.child, children]
  | cons part _ ih =>
    cases wanted with
    | nil => simp [cloneAdd, has_nil]
    | cons first =>
      rw [cloneAdd, has_cons, child_setChild, has_cons]
      by_cases isPart : first = part
      · rw [if_pos isPart, Option.getD_some, ih, isPart]
        simp
      · simp [isPart]

/-- Nothing is left of a node without ids and children. -/
def dropBare (node : DomainNode) : Option DomainNode :=
  if node.ids = [] ∧ node.children.isEmpty then none else some node

def removeBelow (part : String) (rest : Option DomainNode) (node : DomainNode) : DomainNode :=
  match rest with
  | none => node.deleteChild part
  | some child => node.setChild part child

theorem has_dropBare : (node.dropBare.getD new).has wanted id = node.has wanted id := by
  rw [dropBare]
  split_ifs with isBare
  · cases node with
    | mk children ids =>
      rw [show ids = [] from isBare.1, isEmpty_iff.mp (show children.isEmpty from isBare.2)]
      rfl
  · rfl

theorem cloneRemove_nil (id : Int) :
    node.cloneRemove [] id = (mk node.children (node.ids.filter (· ≠ id))).dropBare := by
  rw [cloneRemove]
  rfl

theorem cloneRemove_of_child {child : DomainNode} (isChild : node.child part = some child)
    (parts : List String) (id : Int) :
    node.cloneRemove (part :: parts) id =
      (node.removeBelow part (child.cloneRemove parts id)).dropBare := by
  simp only [cloneRemove, isChild]
  rfl

theorem cloneRemove_of_not_child (isChild : node.child part = none) (parts : List String)
    (id : Int) : node.cloneRemove (part :: parts) id = node.dropBare := by
  simp only [cloneRemove, isChild]
  rfl

theorem ids_removeBelow (part : String) (rest : Option DomainNode) :
    (node.removeBelow part rest).ids = node.ids := by
  cases rest <;> rfl

theorem child_removeBelow (part wanted : String) (rest : Option DomainNode) :
    (node.removeBelow part rest).child wanted =
      if wanted = part then rest else node.child wanted := by
  cases rest with
  | none => exact Assoc.lookup_filter_ne node.children part wanted
  | some child => exact child_setChild part wanted child

theorem has_cloneRemove {other : Int} :
    ((node.cloneRemove parts id).getD new).has wanted other = true ↔
      node.has wanted other = true ∧ ¬ (wanted = parts ∧ other = id) := by
  induction parts generalizing node wanted with
  | nil =>
    rw [cloneRemove_nil, has_dropBare]
    cases wanted with
    | nil => simp [has_nil, ids]
    | cons => simp [has, DomainNode.child, children]
  | cons part _ ih =>
    cases isChild : node.child part with
    | none =>
      rw [cloneRemove_of_not_child isChild, has_dropBare]
      refine ⟨fun found => ⟨found, ?_⟩, fun found => found.1⟩
      rintro ⟨rfl, -⟩
      rw [has_cons, isChild, Option.getD_none, not_has_new] at found
      cases found
    | some =>
      rw [cloneRemove_of_child isChild, has_dropBare]
      cases wanted with
      | nil => simp [has_nil, ids_removeBelow]
      | cons first =>
        rw [has_cons, has_cons, child_removeBelow]
        by_cases isPart : first = part
        · rw [if_pos isPart, ih, isPart, isChild]
          simp
        · simp [isPart]

theorem mem_lookup :
    id ∈ node.lookup parts ↔ ∃ front, front <+: parts ∧ node.has front id = true := by
  induction parts generalizing node with
  | nil => simp [lookup, has_nil]
  | cons part parts ih =>
    rw [lookup, mem_append]
    have inChild : (id ∈ match node.child part with
        | none => []
        | some child => lookup parts child) ↔
        ∃ front, front <+: parts ∧ node.has (part :: front) id = true := by
      cases isChild : node.child part with
      | none => simp [has_cons, isChild, not_has_new]
      | some => simp [has_cons, isChild, ih]
    refine (or_congr Iff.rfl inChild).trans ?_
    constructor
    · rintro (here | ⟨front, isFront, found⟩)
      · exact ⟨[], nil_prefix, has_nil.mpr here⟩
      · exact ⟨part :: front, cons_prefix_cons.mpr ⟨rfl, isFront⟩, found⟩
    · rintro ⟨front, isFront, found⟩
      cases front with
      | nil => exact .inl (has_nil.mp found)
      | cons _ front =>
        obtain ⟨rfl, isRest⟩ := cons_prefix_cons.mp isFront
        exact .inr ⟨front, isRest, found⟩

end DomainNode

namespace DomainIndex

variable (lower : Char → Char)

/-- The path of labels that a pattern is kept under. -/
def pathOf (pattern : String) : List String := splitDomain lower (normalizeDomain lower pattern)

/-- The path of labels that a lookup of a name follows. -/
def trailOf (name : String) : List String :=
  splitDomain lower (Text.mapChars lower (Text.trimSpace name))

variable {lower} {index : DomainIndex} {pattern : String} {id other : Int} {path : List String}

theorem has_add :
    (index.add lower pattern id).root.has path other = true ↔
      (path = pathOf lower pattern ∧ other = id) ∨ index.root.has path other = true := by
  rw [add, pathOf]
  generalize splitDomain lower (normalizeDomain lower pattern) = parts
  split_ifs with isKnown
  · refine ⟨.inr, ?_⟩
    rintro (⟨rfl, rfl⟩ | found)
    · exact isKnown
    · exact found
  · exact DomainNode.has_cloneAdd

theorem has_remove :
    (index.remove lower pattern id).root.has path other = true ↔
      index.root.has path other = true ∧ ¬ (path = pathOf lower pattern ∧ other = id) := by
  rw [remove, pathOf]
  generalize splitDomain lower (normalizeDomain lower pattern) = parts
  split_ifs with isKnown
  · exact DomainNode.has_cloneRemove
  · refine ⟨fun found => ⟨found, ?_⟩, fun found => found.1⟩
    rintro ⟨rfl, rfl⟩
    exact isKnown found

theorem mem_lookup_iff {name : String} :
    id ∈ index.lookup lower name ↔
      ∃ path, path <+: trailOf lower name ∧ index.root.has path id = true := by
  rw [lookup, mem_dedup, trailOf]
  generalize splitDomain lower (Text.mapChars lower (Text.trimSpace name)) = trail
  exact DomainNode.mem_lookup

end DomainIndex

/-! ## Lookups in a tree that is replaced -/

inductive DomainEvent
  | add (domain : String) (id : Int)
  | remove (domain : String) (id : Int)
  | load

/-- The index with the pairs of labels and ids that were added and not removed, and the trees
that lookups have loaded, with the pairs of that time. -/
structure DomainLookups where
  index : DomainIndex
  pairs : Finset (List String × Int)
  loaded : List (DomainIndex × Finset (List String × Int))

namespace DomainLookups

def new : DomainLookups where
  index := DomainIndex.new
  pairs := ∅
  loaded := []

def step (lower : Char → Char) (state : DomainLookups) : DomainEvent → DomainLookups
  | .add domain id =>
      { state with
        index := state.index.add lower domain id
        pairs := insert ((DomainIndex.pathOf lower domain).reverse, id) state.pairs }
  | .remove domain id =>
      { state with
        index := state.index.remove lower domain id
        pairs := state.pairs.erase ((DomainIndex.pathOf lower domain).reverse, id) }
  | .load => { state with loaded := (state.index, state.pairs) :: state.loaded }

/-- A lookup returns once every id whose labels end the labels of the domain. -/
def Exact (lower : Char → Char) (index : DomainIndex) (pairs : Finset (List String × Int)) : Prop :=
  ∀ domain, (index.lookup lower domain).Nodup ∧
    ∀ id, id ∈ index.lookup lower domain ↔
      ∃ labels, (labels, id) ∈ pairs ∧ labels <:+ (DomainIndex.trailOf lower domain).reverse

structure Sound (lower : Char → Char) (state : DomainLookups) : Prop where
  has : ∀ path id, state.index.root.has path id = true ↔ (path.reverse, id) ∈ state.pairs
  loaded : ∀ tree ∈ state.loaded, Exact lower tree.1 tree.2

variable {lower : Char → Char} {state : DomainLookups}

theorem Sound.exact (sound : state.Sound lower) : Exact lower state.index state.pairs := by
  intro domain
  refine ⟨nodup_dedup _, fun id => ?_⟩
  rw [DomainIndex.mem_lookup_iff]
  constructor
  · rintro ⟨path, isFront, found⟩
    exact ⟨path.reverse, (sound.has path id).mp found, reverse_suffix.mpr isFront⟩
  · rintro ⟨labels, isPair, isEnd⟩
    refine ⟨labels.reverse, ?_, (sound.has _ id).mpr (by rwa [reverse_reverse])⟩
    rwa [← reverse_suffix, reverse_reverse]

theorem Sound.step (sound : state.Sound lower) (event : DomainEvent) :
    (state.step lower event).Sound lower := by
  cases event with
  | add domain id =>
    rw [DomainLookups.step]
    refine ⟨fun path other => ?_, sound.loaded⟩
    simp [DomainIndex.has_add, sound.has]
  | remove domain id =>
    rw [DomainLookups.step]
    refine ⟨fun path other => ?_, sound.loaded⟩
    simp [DomainIndex.has_remove, sound.has, and_comm]
  | load => exact ⟨sound.has, forall_mem_cons.mpr ⟨sound.exact, sound.loaded⟩⟩

/-- For every sequence of updates and lookups, the tree of the index and every tree that was
loaded before answer exactly by the pairs of their time. -/
theorem lookup_exact (lower : Char → Char) (events : List DomainEvent) :
    Exact lower (events.foldl (step lower) new).index (events.foldl (step lower) new).pairs ∧
      ∀ tree ∈ (events.foldl (step lower) new).loaded, Exact lower tree.1 tree.2 := by
  have sound : (events.foldl (step lower) new).Sound lower := by
    refine foldlRecOn events (step lower) ⟨?_, ?_⟩ fun _ sound event _ => sound.step event
    · simp [new, DomainIndex.new, DomainNode.not_has_new]
    · simp [new]
  exact ⟨sound.exact, sound.loaded⟩

/-- Two texts with the same labels: what is added with one of them is removed with the other. -/
theorem lookup_after_other_text :
    DomainIndex.normalizeDomain Char.toLower "*. a" = " a" ∧
      DomainIndex.normalizeDomain Char.toLower "a" = "a" ∧
      ([.add "*. a" 1].foldl (step Char.toLower) new).index.lookup Char.toLower "a" = [1] ∧
      ([.add "*. a" 1, .remove "a" 1].foldl (step Char.toLower) new).index.lookup Char.toLower
        "a" = [] := by
  decide +kernel

end DomainLookups

/-! ## Properties of the hosts -/

def StoreEvent.onHosts {Details : RecordKind → Type} : StoreEvent Details → Bool
  | .newHost _ | .updateHost _ | .delHost _ => true
  | .newUser _ | .updateUser _ | .delUser _ _ | .newClient _ _ | .updateClient _ | .delClient _
  | .newTask _ _ | .updateTask _ _ | .delTask _ | .bindRuntimeOwner _ _ _
  | .removeRuntimeOwner _ _ => false

namespace Store

variable {Details : RecordKind → Type} {env : StoreEnv Details} {store : Store Details}

/-- A property of the hosts and their domain index that a dropped host leaves intact. -/
structure HostLocal (env : StoreEnv Details) (P : Store Details → Prop) : Prop where
  rest : ∀ store next : Store Details, next.hosts = store.hosts →
    next.hostIndex = store.hostIndex → P store → P next
  drop : ∀ host store, P store → P (dropLoadedHost env host store)

namespace HostLocal

variable {P : Store Details → Prop}

section

variable (isLocal : HostLocal env P)

include isLocal

theorem userStable : UserStable P where
  links := fun _ _ store => isLocal.rest store _ rfl rfl
  users := fun _ _ _ _ store => isLocal.rest store _ rfl rfl

theorem clientStable : ClientStable P where
  links := fun _ _ store => isLocal.rest store _ rfl rfl
  clients := fun _ _ _ store => isLocal.rest store _ rfl rfl

theorem taskStable : TaskStable P where
  tasks := fun _ _ _ _ store => isLocal.rest store _ rfl rfl

theorem resource : (ClientResource.hosts env).Stable P where
  drop := fun host store holds _ => isLocal.drop host store holds
  index := fun _ store => isLocal.rest store _ rfl rfl

theorem step {event : StoreEvent Details} {next : Store Details}
    (onHosts : ∀ outcome, Performs env store event outcome → event.onHosts = true → P outcome.2)
    (holds : P store) (stepEq : store.step env event = some next) : P next := by
  have tunnels : (ClientResource.tunnels env).Stable P := isLocal.taskStable.resource
  obtain ⟨_, performs, rfl⟩ := performs_of_step stepEq
  cases performs with
  | rejected => exact holds
  | newUser user => exact isLocal.userStable.writes.newUser user holds
  | updateUser user => exact isLocal.userStable.writes.updateUser user holds
  | delUser =>
    refine isLocal.userStable.delUser ?_ holds
    exact fun store _ _ holds _ _ => isLocal.rest store _ rfl rfl holds
  | newClient => exact isLocal.clientStable.createClient _ holds
  | updateClient => exact isLocal.clientStable.replaceClient tunnels isLocal.resource _ _ holds
  | clientHasResources id =>
    exact clientOwnsPersistedResources_preserves tunnels isLocal.resource id holds
  | delClient =>
    exact isLocal.clientStable.removeClient _
      (clientOwnsPersistedResources_preserves tunnels isLocal.resource _ holds)
  | newTask | updateTask | delTask | bindRuntimeOwner | removeRuntimeOwner =>
    exact isLocal.rest store _ rfl rfl holds
  | newHost resolved accepted => exact onHosts _ (.newHost resolved accepted) rfl
  | updateHost resolved found accepted => exact onHosts _ (.updateHost resolved found accepted) rfl
  | delHost found => exact onHosts _ (.delHost found) rfl

end

end HostLocal

/-! ## Stored hosts are indexed -/

def HostsIndexed (lower : Char → Char) (store : Store Details) : Prop :=
  ∀ host ∈ store.hosts.records,
    store.hostIndex.root.has (DomainIndex.pathOf lower host.host) host.id = true

theorem HostsIndexed.drop (indexed : store.HostsIndexed env.lower) {id : Int} {pattern : String}
    {rest : GroupIDIndex} :
    HostsIndexed env.lower { store with
      hostIndex := store.hostIndex.remove env.lower pattern id
      hostClientIndex := rest
      hosts := store.hosts.delete id } := by
  intro host isHost
  obtain ⟨wasHost, differs⟩ := Table.mem_delete.mp isHost
  change (store.hostIndex.remove env.lower pattern id).root.has _ _ = true
  rw [DomainIndex.has_remove]
  exact ⟨indexed host wasHost, fun same => differs same.2⟩

theorem HostsIndexed.put {next : Store Details} {hosts : Table (Host.id : Host Details → Int)}
    {index : DomainIndex} {host : Host Details}
    (isHosts : next.hosts = hosts.store host)
    (isIndex : next.hostIndex = index.add env.lower host.host host.id)
    (others : ∀ other ∈ hosts.records, other.id ≠ host.id →
      index.root.has (DomainIndex.pathOf env.lower other.host) other.id = true) :
    next.HostsIndexed env.lower := by
  intro other isOther
  rw [isIndex, DomainIndex.has_add]
  rw [isHosts] at isOther
  rcases Table.mem_store.mp isOther with rfl | ⟨wasOther, differs⟩
  · exact .inl ⟨rfl, rfl⟩
  · exact .inr (others other wasOther differs)

theorem hostsIndexed_createHost (indexed : store.HostsIndexed env.lower) (host : Host Details)
    (clientId : Int) : (store.createHost env host clientId).HostsIndexed env.lower := by
  rw [createHost]
  generalize { host with id := (allocateId store.hostIncreaseId host.id).1 }.finalizeForStore env =
    stored
  refine HostsIndexed.put (?_ : _ = store.hosts.store stored)
    (?_ : _ = store.hostIndex.add env.lower stored.host stored.id)
    fun other isOther _ => indexed other isOther
  · rfl
  · dsimp only

theorem hostsIndexed_replaceHost (indexed : store.HostsIndexed env.lower) (old host : Host Details)
    (clientId : Int) : (store.replaceHost env old host clientId).HostsIndexed env.lower := by
  rw [replaceHost]
  generalize { host with expectedRevision := 0 }.finalizeForStore env = stored
  refine HostsIndexed.put (?_ : _ = store.hosts.store stored)
    (?_ : _ = (store.hostIndex.remove env.lower old.host stored.id).add env.lower stored.host
      stored.id) fun other isOther differs => ?_
  · rfl
  · dsimp only
  · rw [DomainIndex.has_remove]
    exact ⟨indexed other isOther, fun same => differs same.2⟩

end Store

end DeepNps.File
