import DeepNps.BridgeNodes
import DeepNps.BridgeOwnerPool
import DeepNps.GroupIndex
import DeepNps.LabelledRuns

/-!
# The file routes of a bridge client

The client keeps the route of every file key and the keys of every owner, so that the
routes of a node can be pruned when it is removed.
-/

namespace DeepNps.Bridge

/-- The value of a file key: a single owner or a pool of them. -/
inductive FileRoute
  | owner (uuid : String)
  | pool (owners : RuntimeOwnerPool String)

namespace FileRoute

def ownerUUIDs : FileRoute → List String
  | owner current => if Text.trimSpace current = "" then [] else [Text.trimSpace current]
  | pool current => (current.snapshotKeys.map Text.trimSpace).filter (· ≠ "")

end FileRoute

def addFileOwnerToRoute (current : Option FileRoute) (uuid : String) : FileRoute × Bool :=
  match current with
  | none => (.owner uuid, true)
  | some (.owner current) =>
      let current := Text.trimSpace current
      if current = "" then (.owner uuid, true)
      else if current = uuid then (.owner current, false)
      else (.pool ((RuntimeOwnerPool.new.set current current).set uuid uuid), true)
  | some (.pool current) =>
      if current.has uuid then (.pool current, false) else (.pool (current.set uuid uuid), true)

def removeFileOwnerFromRoute (current : FileRoute) (uuid : String) : (Bool × Bool) × FileRoute :=
  match current with
  | .owner current =>
      let trimmed := Text.trimSpace current
      if trimmed = "" then ((false, true), .owner current)
      else ((trimmed ≠ uuid, trimmed = uuid), .owner current)
  | .pool current =>
      match current.remove uuid with
      | ((remaining, removed), after) =>
          if removed then ((remaining > 0, true), .pool after) else ((true, false), .pool after)

/-- The file fields of `Client`: the routes by key and the keys by owner. -/
structure FileRoutes where
  files : String → Option FileRoute
  fileOwnerKeys : GroupIndex String String

namespace FileRoutes

def new : FileRoutes where
  files := fun _ => none
  fileOwnerKeys := .empty

def loadFileRouteLocked (routes : FileRoutes) (key : String) : Option FileRoute :=
  if key = "" then none else routes.files key

def trackFileOwnerLocked (routes : FileRoutes) (key uuid : String) : FileRoutes :=
  let key := Text.trimSpace key
  let uuid := Text.trimSpace uuid
  if key = "" ∨ uuid = "" then routes
  else { routes with fileOwnerKeys := routes.fileOwnerKeys.add uuid key }

def untrackFileOwnerLocked (routes : FileRoutes) (key uuid : String) : FileRoutes :=
  let key := Text.trimSpace key
  let uuid := Text.trimSpace uuid
  if key = "" ∨ uuid = "" then routes
  else { routes with fileOwnerKeys := routes.fileOwnerKeys.remove uuid key }

def trackFileRouteOwnersLocked (routes : FileRoutes) (key : String) (value : FileRoute) :
    FileRoutes :=
  if key = "" then routes
  else value.ownerUUIDs.foldl (fun routes uuid => routes.trackFileOwnerLocked key uuid) routes

def untrackFileRouteOwnersLocked (routes : FileRoutes) (key : String) (value : FileRoute) :
    FileRoutes :=
  if key = "" then routes
  else value.ownerUUIDs.foldl (fun routes uuid => routes.untrackFileOwnerLocked key uuid) routes

def removeFileOwnerLocked (routes : FileRoutes) (key uuid : String) : Bool × FileRoutes :=
  match routes.files key with
  | none => (false, routes)
  | some value =>
      match removeFileOwnerFromRoute value uuid with
      | ((_, false), _) => (false, routes)
      | ((keep, true), after) =>
          let files := Function.update routes.files key (if keep then some after else none)
          (true, { routes.untrackFileOwnerLocked key uuid with files := files })

def removeFileRouteLocked (routes : FileRoutes) (key : String) : Bool × FileRoutes :=
  if key = "" then (false, routes)
  else
    match routes.files key with
    | none => (false, routes)
    | some value =>
        (true, { routes with files := Function.update routes.files key none
                }.untrackFileRouteOwnersLocked key value)

/-- The keys of an owner that have a name.  The others are dropped from its keys. -/
def collectFileMappingKeysByOwnerLocked (routes : FileRoutes) (uuid : String) :
    Finset String × FileRoutes :=
  let uuid := Text.trimSpace uuid
  if uuid = "" then (∅, routes)
  else
    ((routes.fileOwnerKeys.members uuid).filter fun key => Text.trimSpace key ≠ "",
      { routes with
        fileOwnerKeys :=
          ⟨routes.fileOwnerKeys.pairs.filter fun pair =>
            ¬ (pair.1 = uuid ∧ Text.trimSpace pair.2 = "")⟩ })

/-- `pruneFileMappings`, where `order` lists the collected keys as the map is walked
through. -/
def pruneFileMappings (routes : FileRoutes) (uuid : String) (order : List String) : FileRoutes :=
  if uuid = "" then routes
  else
    order.foldl (fun routes key => (routes.removeFileOwnerLocked key uuid).2)
      (routes.collectFileMappingKeysByOwnerLocked uuid).2

end FileRoutes

structure FileClient where
  table : NodeTable
  routes : FileRoutes

inductive FileEvent
  | addNode (uuid : String) (node : NodeRef) (baseVer : Int) (isOnline : NodeRef → Bool)
  | addFileOwner (key uuid : String)
  | removeFileOwner (key uuid : String)
  | removeFile (key : String)
  | removeNode (uuid : String) (node : NodeRef) (isOffline : NodeRef → Bool) (order : List String)

namespace FileClient

def new (uuid : String) (node : NodeRef) : FileClient where
  table := .new uuid node
  routes := .new

/-- `AddFileOwner`: the owner must be a node of the client. -/
def addFileOwner (client : FileClient) (key uuid : String) : Option Bool × FileClient :=
  let uuid := Text.trimSpace uuid
  match client.table.lookupNodeByUUID uuid with
  | none => (none, client)
  | some _ =>
      match addFileOwnerToRoute (client.routes.loadFileRouteLocked key) uuid with
      | (_, false) => (some false, client)
      | (nextValue, true) =>
          let routes :=
            { client.routes with
              files := Function.update client.routes.files key (some nextValue) }
          (some true, { client with routes := routes.trackFileRouteOwnersLocked key nextValue })

def removeFileOwner (client : FileClient) (key uuid : String) : Bool × FileClient :=
  if key = "" ∨ uuid = "" then (false, client)
  else
    let result := client.routes.removeFileOwnerLocked key uuid
    (result.1, { client with routes := result.2 })

/-- `closeAndRemoveNodeIfCurrent` with the pruning of the routes that follows it. -/
def removeNode (client : FileClient) (uuid : String) (node : NodeRef)
    (isOffline : NodeRef → Bool) (order : List String) : Option FileClient :=
  match client.table.closeAndRemoveNodeIfCurrent isOffline uuid node with
  | (false, _) => some client
  | (true, table) =>
      if order.Nodup ∧
          order.toFinset = (client.routes.collectFileMappingKeysByOwnerLocked uuid).1 then
        some { table := table, routes := client.routes.pruneFileMappings uuid order }
      else none

def step (client : FileClient) : FileEvent → Option FileClient
  | .addNode uuid node baseVer isOnline =>
      some { client with table := client.table.addNode isOnline uuid node baseVer }
  | .addFileOwner key uuid => some (client.addFileOwner key uuid).2
  | .removeFileOwner key uuid => some (client.removeFileOwner key uuid).2
  | .removeFile key => some { client with routes := (client.routes.removeFileRouteLocked key).2 }
  | .removeNode uuid node isOffline order => client.removeNode uuid node isOffline order

end FileClient

open RuntimeOwnerPool List

namespace FileRoute

def Ok : FileRoute → Prop
  | owner uuid => uuid ≠ "" ∧ Text.trimSpace uuid = uuid
  | pool owners => owners.Ok ∧ owners.order ≠ [] ∧ ∀ uuid ∈ owners.order, Text.trimSpace uuid = uuid

variable {route : FileRoute} {uuid other : String}

theorem ownerUUIDs_owner (ok : (owner uuid).Ok) : (owner uuid).ownerUUIDs = [uuid] := by
  rw [ownerUUIDs, ok.2, if_neg ok.1]

theorem ownerUUIDs_pool {owners : RuntimeOwnerPool String} (ok : (pool owners).Ok) :
    (pool owners).ownerUUIDs = owners.order := by
  obtain ⟨poolOk, -, trimmed⟩ := ok
  have mapped : owners.order.map Text.trimSpace = owners.order := by
    rw [map_congr_left trimmed, map_id']
  rw [ownerUUIDs, poolOk.snapshotKeys_eq, mapped, filter_eq_self]
  intro _ isOwner
  rw [decide_eq_true_eq]
  rintro rfl
  exact poolOk.named isOwner

theorem Ok.ownerUUIDs_ne_nil (ok : route.Ok) : route.ownerUUIDs ≠ [] := by
  cases route with
  | owner => simp [ownerUUIDs_owner ok]
  | pool =>
    rw [ownerUUIDs_pool ok]
    exact ok.2.1

theorem Ok.trimmed (ok : route.Ok) (isOwner : uuid ∈ route.ownerUUIDs) :
    uuid ≠ "" ∧ Text.trimSpace uuid = uuid := by
  cases route with
  | owner =>
    rw [ownerUUIDs_owner ok, mem_singleton] at isOwner
    exact isOwner ▸ ok
  | pool =>
    rw [ownerUUIDs_pool ok] at isOwner
    refine ⟨?_, ok.2.2 uuid isOwner⟩
    rintro rfl
    exact ok.1.named isOwner

def ownersOf (current : Option FileRoute) : List String := current.elim [] ownerUUIDs

theorem add_spec {current : Option FileRoute} (ok : ∀ route ∈ current, route.Ok)
    (named : uuid ≠ "") (trimmed : Text.trimSpace uuid = uuid) :
    (addFileOwnerToRoute current uuid).1.Ok ∧
      ∀ other, other ∈ (addFileOwnerToRoute current uuid).1.ownerUUIDs ↔
        other = uuid ∨ other ∈ ownersOf current := by
  have single : (owner uuid).Ok := ⟨named, trimmed⟩
  match current with
  | none => simp [addFileOwnerToRoute, single, ownersOf, ownerUUIDs_owner single]
  | some (owner current) =>
    have currentOk : (owner current).Ok := ok _ rfl
    have currentNamed : current ≠ "" := currentOk.1
    have currentTrimmed : Text.trimSpace current = current := currentOk.2
    simp only [addFileOwnerToRoute, currentTrimmed, currentNamed, if_false, ownersOf,
      Option.elim_some, ownerUUIDs_owner currentOk, mem_singleton]
    by_cases isSame : current = uuid
    · simp [isSame, single, ownerUUIDs_owner single]
    · rw [if_neg isSame]
      have firstOk := new_ok.set current current
      have first : (new.set current current).order = [current] := by
        rw [new_ok.order_set currentNamed]
        simp [new]
      have order : ((new.set current current).set uuid uuid).order = [current, uuid] := by
        rw [firstOk.order_set named, first]
        simp [Ne.symm isSame]
      have bothOk : (pool ((new.set current current).set uuid uuid)).Ok := by
        refine ⟨firstOk.set uuid uuid, by simp [order], ?_⟩
        simp [order, currentTrimmed, trimmed]
      refine ⟨bothOk, ?_⟩
      rw [ownerUUIDs_pool bothOk, order]
      simp [or_comm]
  | some (pool current) =>
    have currentOk : (pool current).Ok := ok _ rfl
    have poolOk : current.Ok := currentOk.1
    simp only [addFileOwnerToRoute, ownersOf, Option.elim_some, ownerUUIDs_pool currentOk]
    by_cases isOwner : uuid ∈ current.order
    · rw [if_pos (poolOk.has_iff.mpr isOwner), ownerUUIDs_pool currentOk]
      refine ⟨currentOk, fun other => ⟨.inr, ?_⟩⟩
      rintro (rfl | isOther)
      · exact isOwner
      · exact isOther
    · rw [if_neg (mt poolOk.has_iff.mp isOwner)]
      have order : (current.set uuid uuid).order = current.order ++ [uuid] := by
        rw [poolOk.order_set named, if_neg isOwner]
      have nextOk : (pool (current.set uuid uuid)).Ok := by
        refine ⟨poolOk.set uuid uuid, by simp [order], ?_⟩
        intro other isOther
        rw [order, mem_append, mem_singleton] at isOther
        obtain isOther | rfl := isOther
        · exact currentOk.2.2 other isOther
        · exact trimmed
      refine ⟨nextOk, ?_⟩
      rw [ownerUUIDs_pool nextOk, order]
      simp [or_comm]

theorem Ok.remove_of_mem (ok : route.Ok) (isOwner : uuid ∈ route.ownerUUIDs) :
    ∃ keep after, removeFileOwnerFromRoute route uuid = ((keep, true), after) ∧
      (keep = true → after.Ok) ∧
      ∀ other, other ∈ ownersOf (if keep then some after else none) ↔
        other ∈ route.ownerUUIDs ∧ other ≠ uuid := by
  cases route with
  | owner =>
    rw [ownerUUIDs_owner ok, mem_singleton] at isOwner
    subst isOwner
    refine ⟨false, .owner uuid, ?_, by simp, ?_⟩
    · simp [removeFileOwnerFromRoute, ok.1, ok.2]
    · simp [ownersOf, ownerUUIDs_owner ok]
  | pool owners =>
    rw [ownerUUIDs_pool ok] at isOwner ⊢
    obtain ⟨result, order, afterOk⟩ := ok.1.remove_of_mem isOwner
    have routeOk (remains : owners.order.erase uuid ≠ []) : (pool (owners.remove uuid).2).Ok := by
      refine ⟨afterOk, order ▸ remains, ?_⟩
      intro other isOther
      rw [order] at isOther
      exact ok.2.2 other (mem_of_mem_erase isOther)
    refine ⟨decide ((owners.order.erase uuid).length > 0), .pool (owners.remove uuid).2, ?_, ?_, ?_⟩
    · simp [removeFileOwnerFromRoute, result]
    · intro remains
      exact routeOk (length_pos_iff.mp (of_decide_eq_true remains))
    · intro _
      rw [← ok.1.nodup.mem_erase_iff.trans and_comm]
      by_cases remains : owners.order.erase uuid = []
      · simp [remains, ownersOf]
      · simp [length_pos_iff.mpr remains, ownersOf, ownerUUIDs_pool (routeOk remains), order]

theorem Ok.remove_of_not_mem (ok : route.Ok) (notOwner : uuid ∉ route.ownerUUIDs) :
    (removeFileOwnerFromRoute route uuid).1.2 = false := by
  cases route with
  | owner =>
    rw [ownerUUIDs_owner ok, mem_singleton] at notOwner
    simp [removeFileOwnerFromRoute, ok.1, ok.2, Ne.symm notOwner]
  | pool =>
    rw [ownerUUIDs_pool ok] at notOwner
    obtain ⟨notRemoved, -⟩ := ok.1.remove_of_not_mem notOwner
    simp [removeFileOwnerFromRoute, notRemoved]

end FileRoute

end DeepNps.Bridge
