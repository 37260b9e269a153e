import DeepNps.BridgeFileRoutes

/-!
# File routes and file owners agree

The routes by key and the keys by owner stay two views of one relation as long as the
keys that are added are trimmed and not empty.
-/

namespace DeepNps.Bridge

open List FileRoute Function Option

def Trimmed (text : String) : Prop := text ≠ "" ∧ Text.trimSpace text = text

namespace FileRoutes

/-- The two views agree, and what they name is trimmed. -/
structure Ok (routes : FileRoutes) : Prop where
  route : ∀ key, ∀ route ∈ routes.files key, route.Ok
  keyed : ∀ key, routes.files key ≠ none → Trimmed key
  listed : ∀ uuid key,
    key ∈ routes.fileOwnerKeys.members uuid ↔ uuid ∈ FileRoute.ownersOf (routes.files key)

variable {routes : FileRoutes} {key uuid other : String}

theorem new_ok : new.Ok where
  route := by simp [new]
  keyed := by simp [new]
  listed := by simp [new, ownersOf]

theorem track_eq (keyed : Trimmed key) (named : Trimmed uuid) :
    routes.trackFileOwnerLocked key uuid =
      { routes with fileOwnerKeys := routes.fileOwnerKeys.add uuid key } := by
  simp [trackFileOwnerLocked, keyed.1, keyed.2, named.1, named.2]

theorem untrack_eq (keyed : Trimmed key) (named : Trimmed uuid) :
    routes.untrackFileOwnerLocked key uuid =
      { routes with fileOwnerKeys := routes.fileOwnerKeys.remove uuid key } := by
  simp [untrackFileOwnerLocked, keyed.1, keyed.2, named.1, named.2]

theorem trackAll_spec (routes : FileRoutes) (keyed : Trimmed key) {uuids : List String}
    (named : ∀ uuid ∈ uuids, Trimmed uuid) :
    (uuids.foldl (fun routes uuid => routes.trackFileOwnerLocked key uuid) routes).files =
        routes.files ∧
      ∀ uuid other,
        other ∈ (uuids.foldl (fun routes uuid => routes.trackFileOwnerLocked key uuid)
          routes).fileOwnerKeys.members uuid ↔
        (uuid ∈ uuids ∧ other = key) ∨ other ∈ routes.fileOwnerKeys.members uuid := by
  induction uuids generalizing routes with
  | nil => simp
  | cons first _ ih =>
    rw [foldl_cons, track_eq keyed (named first mem_cons_self)]
    obtain ⟨files, members⟩ := ih
      { routes with fileOwnerKeys := routes.fileOwnerKeys.add first key }
      fun uuid isRest => named uuid (mem_cons_of_mem _ isRest)
    refine ⟨files, ?_⟩
    intro _ _
    rw [members, GroupIndex.mem_members_add, mem_cons]
    tauto

theorem untrackAll_spec (routes : FileRoutes) (keyed : Trimmed key) {uuids : List String}
    (named : ∀ uuid ∈ uuids, Trimmed uuid) :
    (uuids.foldl (fun routes uuid => routes.untrackFileOwnerLocked key uuid) routes).files =
        routes.files ∧
      ∀ uuid other,
        other ∈ (uuids.foldl (fun routes uuid => routes.untrackFileOwnerLocked key uuid)
          routes).fileOwnerKeys.members uuid ↔
        ¬ (uuid ∈ uuids ∧ other = key) ∧ other ∈ routes.fileOwnerKeys.members uuid := by
  induction uuids generalizing routes with
  | nil => simp
  | cons first _ ih =>
    rw [foldl_cons, untrack_eq keyed (named first mem_cons_self)]
    obtain ⟨files, members⟩ := ih
      { routes with fileOwnerKeys := routes.fileOwnerKeys.remove first key }
      fun uuid isRest => named uuid (mem_cons_of_mem _ isRest)
    refine ⟨files, ?_⟩
    intro _ _
    rw [members, GroupIndex.mem_members_remove, mem_cons]
    tauto

theorem Ok.trimmed_of_owner (ok : routes.Ok)
    (isOwner : uuid ∈ ownersOf (routes.files key)) : Trimmed key ∧ Trimmed uuid := by
  cases isRoute : routes.files key with
  | none =>
    rw [isRoute] at isOwner
    cases isOwner
  | some route =>
    rw [isRoute] at isOwner
    exact ⟨ok.keyed key (by simp [isRoute]), (ok.route key route isRoute).trimmed isOwner⟩

theorem Ok.update (ok : routes.Ok) {after : FileRoutes} {value : Option FileRoute}
    (files : after.files = update routes.files key value)
    (valueOk : ∀ route ∈ value, route.Ok) (keyed : value ≠ none → Trimmed key)
    (same : ∀ uuid other, other ≠ key →
      (other ∈ after.fileOwnerKeys.members uuid ↔ other ∈ routes.fileOwnerKeys.members uuid))
    (here : ∀ uuid, key ∈ after.fileOwnerKeys.members uuid ↔
      uuid ∈ FileRoute.ownersOf value) : after.Ok where
  route := by
    intro other
    rw [files]
    by_cases isKey : other = key
    · subst isKey
      simpa using valueOk
    · simpa [isKey] using ok.route other
  keyed := by
    intro other
    rw [files]
    by_cases isKey : other = key
    · subst isKey
      simpa using keyed
    · simpa [isKey] using ok.keyed other
  listed := by
    intro uuid other
    rw [files]
    by_cases isKey : other = key
    · subst isKey
      simpa using here uuid
    · rw [same uuid other isKey, update_of_ne isKey]
      exact ok.listed uuid other

theorem Ok.track (ok : routes.Ok) (keyed : Trimmed key) {value : FileRoute} (valueOk : value.Ok)
    (more : ∀ uuid ∈ ownersOf (routes.files key), uuid ∈ value.ownerUUIDs)
    {after : FileRoutes}
    (isAfter : after = { routes with files := Function.update routes.files key (some value)
      }.trackFileRouteOwnersLocked key value) :
    after.Ok ∧ after.files = Function.update routes.files key (some value) := by
  rw [trackFileRouteOwnersLocked, if_neg keyed.1] at isAfter
  obtain ⟨files, members⟩ := trackAll_spec
    { routes with files := Function.update routes.files key (some value) } keyed
    fun uuid isOwner => valueOk.trimmed isOwner
  rw [← isAfter] at files members
  refine ⟨ok.update files ?_ (fun _ => keyed) ?_ ?_, files⟩
  · simpa using valueOk
  · intro _ _ isKey
    simp [members, isKey]
  · intro uuid
    rw [members, ok.listed]
    have owners : ownersOf (some value) = value.ownerUUIDs := rfl
    rw [owners]
    have := more uuid
    tauto

theorem Ok.removeFileOwnerLocked (ok : routes.Ok) (key uuid : String) :
    (routes.removeFileOwnerLocked key uuid).2.Ok ∧
      ∀ other owner,
        owner ∈ ownersOf ((routes.removeFileOwnerLocked key uuid).2.files other) ↔
          owner ∈ ownersOf (routes.files other) ∧ ¬ (other = key ∧ owner = uuid) := by
  by_cases isOwner : uuid ∈ ownersOf (routes.files key)
  · obtain ⟨keyed, named⟩ := ok.trimmed_of_owner isOwner
    obtain ⟨route, isRoute⟩ : ∃ route, routes.files key = some route := by
      refine ne_none_iff_exists'.mp fun isNone => ?_
      rw [isNone] at isOwner
      cases isOwner
    have here : ownersOf (routes.files key) = route.ownerUUIDs := by
      rw [isRoute]
      rfl
    obtain ⟨keep, after, isRemoved, afterOk, owners⟩ :=
      (ok.route key route isRoute).remove_of_mem (here ▸ isOwner)
    have result : (routes.removeFileOwnerLocked key uuid).2 =
        { files := Function.update routes.files key (if keep then some after else none)
          fileOwnerKeys := routes.fileOwnerKeys.remove uuid key } := by
      simp only [FileRoutes.removeFileOwnerLocked, isRoute, isRemoved, untrack_eq keyed named]
    rw [result]
    refine ⟨ok.update rfl ?_ (fun _ => keyed) ?_ ?_, ?_⟩
    · intro _ isOther
      cases keep with
      | false => cases isOther
      | true =>
        cases isOther
        exact afterOk rfl
    · intro _ _ isKey
      rw [GroupIndex.mem_members_remove]
      simp [isKey]
    · intro _
      rw [owners, GroupIndex.mem_members_remove, ok.listed, here]
      tauto
    · intro other _
      by_cases isKey : other = key
      · subst isKey
        simp only [update_self, owners, here]
        tauto
      · simp [isKey]
  · have result : (routes.removeFileOwnerLocked key uuid).2 = routes := by
      rw [FileRoutes.removeFileOwnerLocked]
      split
      · rfl
      · next route isRoute =>
          rw [isRoute] at isOwner
          have notRemoved := (ok.route key route isRoute).remove_of_not_mem isOwner
          split
          · rfl
          · next isRemoved =>
              rw [isRemoved] at notRemoved
              cases notRemoved
    rw [result]
    refine ⟨ok, ?_⟩
    intro _ _
    constructor
    · intro isOther
      refine ⟨isOther, ?_⟩
      rintro ⟨rfl, rfl⟩
      exact isOwner isOther
    · exact And.left

theorem Ok.removeFileRouteLocked (ok : routes.Ok) (key : String) :
    (routes.removeFileRouteLocked key).2.Ok ∧
      ∀ other owner,
        owner ∈ ownersOf ((routes.removeFileRouteLocked key).2.files other) →
          owner ∈ ownersOf (routes.files other) := by
  rw [FileRoutes.removeFileRouteLocked]
  split_ifs with isEmpty
  · exact ⟨ok, fun _ _ isOwner => isOwner⟩
  · split
    · exact ⟨ok, fun _ _ isOwner => isOwner⟩
    · next route isRoute =>
        have keyed := ok.keyed key (by simp [isRoute])
        rw [untrackFileRouteOwnersLocked, if_neg isEmpty]
        obtain ⟨files, members⟩ := untrackAll_spec
          { routes with files := Function.update routes.files key none } keyed
          fun uuid isOwner => (ok.route key route isRoute).trimmed isOwner
        refine ⟨ok.update files (by simp) (by simp) ?_ ?_, ?_⟩
        · intro _ _ isKey
          simp [members, isKey]
        · intro _
          rw [members]
          simp only [ok.listed, isRoute, ownersOf, elim_some, elim_none,
            and_true, not_and_self, not_mem_nil]
        · intro other _ isOwner
          rw [files] at isOwner
          by_cases isKey : other = key
          · simp [isKey, ownersOf] at isOwner
          · simpa [isKey] using isOwner

theorem Ok.removeAll (ok : routes.Ok) (uuid : String) (order : List String) :
    (order.foldl (fun routes key => (routes.removeFileOwnerLocked key uuid).2) routes).Ok ∧
      ∀ other owner,
        owner ∈ ownersOf
          ((order.foldl (fun routes key => (routes.removeFileOwnerLocked key uuid).2)
            routes).files other) ↔
          owner ∈ ownersOf (routes.files other) ∧ ¬ (other ∈ order ∧ owner = uuid) := by
  induction order generalizing routes with
  | nil => simp [ok]
  | cons key _ ih =>
    obtain ⟨nextOk, owners⟩ := ok.removeFileOwnerLocked key uuid
    obtain ⟨lastOk, rest⟩ := ih nextOk
    refine ⟨lastOk, ?_⟩
    intro _ _
    rw [foldl_cons, rest, owners, mem_cons]
    tauto

theorem Ok.collect (ok : routes.Ok) (uuid : String) :
    (routes.collectFileMappingKeysByOwnerLocked uuid).2 = routes ∧
      ∀ key, uuid ∈ ownersOf (routes.files key) →
        key ∈ (routes.collectFileMappingKeysByOwnerLocked uuid).1 := by
  have noBlank : ∀ pair ∈ routes.fileOwnerKeys.pairs, Text.trimSpace pair.2 ≠ "" := by
    intro pair isPair
    have isOwner := (ok.listed pair.1 pair.2).mp (GroupIndex.mem_members.mpr isPair)
    obtain ⟨keyed, -⟩ := ok.trimmed_of_owner isOwner
    rw [keyed.2]
    exact keyed.1
  rw [collectFileMappingKeysByOwnerLocked]
  constructor
  · split_ifs
    · rfl
    · have all : routes.fileOwnerKeys.pairs.filter (fun pair =>
          ¬ (pair.1 = Text.trimSpace uuid ∧ Text.trimSpace pair.2 = "")) =
          routes.fileOwnerKeys.pairs := by
        rw [Finset.filter_eq_self]
        exact fun pair isPair blank => noBlank pair isPair blank.2
      rw [all]
  · intro _ isOwner
    obtain ⟨keyed, named⟩ := ok.trimmed_of_owner isOwner
    simp only [named.2, if_neg named.1, Finset.mem_filter, ok.listed]
    exact ⟨isOwner, by rw [keyed.2]; exact keyed.1⟩

theorem Ok.pruneFileMappings (ok : routes.Ok) (named : uuid ≠ "") {order : List String}
    (complete : order.toFinset = (routes.collectFileMappingKeysByOwnerLocked uuid).1) :
    (routes.pruneFileMappings uuid order).Ok ∧
      ∀ other owner,
        owner ∈ FileRoute.ownersOf ((routes.pruneFileMappings uuid order).files other) ↔
          owner ∈ FileRoute.ownersOf (routes.files other) ∧ owner ≠ uuid := by
  obtain ⟨same, collected⟩ := ok.collect uuid
  obtain ⟨lastOk, owners⟩ := ok.removeAll uuid order
  rw [FileRoutes.pruneFileMappings, if_neg named, same]
  refine ⟨lastOk, ?_⟩
  intro other _
  rw [owners]
  constructor
  · rintro ⟨isOwner, isLeft⟩
    refine ⟨isOwner, ?_⟩
    rintro rfl
    refine isLeft ⟨?_, rfl⟩
    rw [← List.mem_toFinset, complete]
    exact collected other isOwner
  · rintro ⟨isOwner, isOther⟩
    exact ⟨isOwner, fun both => isOther both.2⟩

end FileRoutes

open NodeTable

namespace FileClient

/-- The invariant of the runs: the views agree and name nodes of the client only. -/
structure Ok (client : FileClient) : Prop where
  routes : client.routes.Ok
  named : ∀ key uuid, uuid ∈ FileRoute.ownersOf (client.routes.files key) →
    client.table.nodes uuid ≠ none

variable {client next : FileClient} {key uuid : String}

theorem new_ok (uuid : String) (node : NodeRef) : (new uuid node).Ok where
  routes := FileRoutes.new_ok
  named := by simp [new, FileRoutes.new, ownersOf]

theorem Ok.addFileOwner (ok : client.Ok) (keyed : Trimmed key) (uuid : String) :
    (client.addFileOwner key uuid).2.Ok := by
  rw [FileClient.addFileOwner]
  simp only [lookupNodeByUUID, Text.trimSpace_trimSpace]
  generalize isUuid : Text.trimSpace uuid = trimmed
  have isTrimmed : Text.trimSpace trimmed = trimmed := by rw [← isUuid, Text.trimSpace_trimSpace]
  split
  · exact ok
  · next node found =>
      split_ifs at found with isEmpty
      have load : client.routes.loadFileRouteLocked key = client.routes.files key := by
        rw [FileRoutes.loadFileRouteLocked, if_neg keyed.1]
      rw [load]
      obtain ⟨valueOk, owners⟩ := add_spec (ok.routes.route key) isEmpty isTrimmed
      split
      · exact ok
      · next value isValue =>
          rw [isValue] at valueOk owners
          obtain ⟨afterOk, files⟩ := ok.routes.track keyed valueOk
            (fun other isOwner => (owners other).mpr (.inr isOwner)) rfl
          refine ⟨afterOk, ?_⟩
          intro other owner isOwner
          simp only [files] at isOwner
          by_cases isKey : other = key
          · subst isKey
            rw [update_self] at isOwner
            obtain rfl | isOwner := (owners owner).mp isOwner
            · simp [found]
            · exact ok.named other owner isOwner
          · rw [update_of_ne isKey] at isOwner
            exact ok.named other owner isOwner

theorem Ok.removeNode (ok : client.Ok) {node : NodeRef} {isOffline : NodeRef → Bool}
    {order : List String} (isNext : client.removeNode uuid node isOffline order = some next) :
    next.Ok ∧
      ((client.table.closeAndRemoveNodeIfCurrent isOffline uuid node).1 = true →
        ∀ key, uuid ∉ ownersOf (next.routes.files key)) := by
  rw [FileClient.removeNode, closeAndRemoveNodeIfCurrent] at isNext
  rw [closeAndRemoveNodeIfCurrent]
  by_cases applies : uuid ≠ "" ∧ client.table.nodes uuid = some node ∧ isOffline node
  · rw [if_pos applies] at isNext ⊢
    simp only [ite_none_right_eq_some, some.injEq] at isNext
    obtain ⟨⟨-, complete⟩, rfl⟩ := isNext
    obtain ⟨routesOk, owners⟩ := ok.routes.pruneFileMappings applies.1 complete
    refine ⟨⟨routesOk, ?_⟩, ?_⟩
    · intro key owner isOwner
      obtain ⟨isOwner, isOther⟩ := (owners key owner).mp isOwner
      rw [drop_nodes applies.1, update_of_ne isOther]
      exact ok.named key owner isOwner
    · intro _ key isOwner
      exact ((owners key uuid).mp isOwner).2 rfl
  · rw [if_neg applies] at isNext ⊢
    cases isNext
    exact ⟨ok, by simp⟩

/-- The condition on the keys: a file is added under a trimmed key that is not empty. -/
def TrimmedKeys (_ : FileClient) : FileEvent → Prop
  | .addFileOwner key _ => Trimmed key
  | _ => True

instance (text : String) : Decidable (Trimmed text) := inferInstanceAs (Decidable (_ ∧ _))

instance (client : FileClient) : (event : FileEvent) → Decidable (client.TrimmedKeys event)
  | .addFileOwner key _ => inferInstanceAs (Decidable (Trimmed key))
  | .addNode .. | .removeFileOwner .. | .removeFile _ | .removeNode .. => .isTrue trivial

theorem Ok.step (ok : client.Ok) {event : FileEvent} (keyed : client.TrimmedKeys event)
    (isNext : client.step event = some next) : next.Ok := by
  cases event with
  | addNode uuid =>
    rw [FileClient.step, some.injEq] at isNext
    subst isNext
    refine ⟨ok.routes, fun key owner isOwner => ?_⟩
    have isNode := ok.named key owner isOwner
    dsimp only [addNode]
    split
    · split_ifs
      · exact isNode
      · exact isNode
    · by_cases isSame : owner = uuid
      · simp [assignCurrentNodeUUID, isSame]
      · simpa [assignCurrentNodeUUID, isSame] using isNode
  | addFileOwner _ uuid =>
    rw [FileClient.step, some.injEq] at isNext
    subst isNext
    exact ok.addFileOwner keyed uuid
  | removeFileOwner key uuid =>
    rw [FileClient.step, some.injEq] at isNext
    subst isNext
    rw [FileClient.removeFileOwner]
    split_ifs
    · exact ok
    · obtain ⟨routesOk, owners⟩ := ok.routes.removeFileOwnerLocked key uuid
      refine ⟨routesOk, ?_⟩
      intro other owner isOwner
      exact ok.named other owner ((owners other owner).mp isOwner).1
  | removeFile key =>
    rw [FileClient.step, some.injEq] at isNext
    subst isNext
    obtain ⟨routesOk, owners⟩ := ok.routes.removeFileRouteLocked key
    exact ⟨routesOk, fun other owner isOwner => ok.named other owner (owners other owner isOwner)⟩
  | removeNode => exact (ok.removeNode isNext).1

/-- Routes and owners are a consistent two-way relation. -/
structure Consistent (client : FileClient) : Prop where
  listed : ∀ uuid key, key ∈ client.routes.fileOwnerKeys.members uuid ↔
    ∃ route, client.routes.files key = some route ∧ uuid ∈ route.ownerUUIDs
  owned : ∀ key route, client.routes.files key = some route → route.ownerUUIDs ≠ []
  named : ∀ key route, client.routes.files key = some route →
    ∀ uuid ∈ route.ownerUUIDs, client.table.nodes uuid ≠ none

theorem Ok.consistent (ok : client.Ok) : client.Consistent where
  listed := by
    intro _ key
    rw [ok.routes.listed]
    cases isRoute : client.routes.files key with
    | none | some => simp [ownersOf]
  owned := fun key route isRoute => (ok.routes.route key route isRoute).ownerUUIDs_ne_nil
  named := by
    intro key _ isRoute uuid isOwner
    refine ok.named key uuid ?_
    rw [isRoute]
    exact isOwner

/-- In every run that adds trimmed keys only, routes and owners are consistent, and a node that
was just removed is named by no route. -/
theorem fileRoutes_consistent {uuid : String} {node : NodeRef} {events : List FileEvent}
    (keyed : Runs.Meets step TrimmedKeys (new uuid node) events)
    (reaches : Runs.execute step (new uuid node) events = some client) :
    client.Consistent ∧
      ∀ removed node isOffline order next,
        client.step (.removeNode removed node isOffline order) = some next →
        (client.table.closeAndRemoveNodeIfCurrent isOffline removed node).1 = true →
        next.Consistent ∧
          ∀ key route, next.routes.files key = some route → removed ∉ route.ownerUUIDs := by
  have ok : client.Ok :=
    Runs.invariant_of_meets _ (fun _ _ _ holds keyed stepEq => holds.step keyed stepEq)
      (new_ok uuid node) keyed reaches
  refine ⟨ok.consistent, ?_⟩
  intro _ _ _ _ _ isNext applies
  obtain ⟨nextOk, notNamed⟩ := ok.removeNode isNext
  refine ⟨nextOk.consistent, ?_⟩
  intro key _ isRoute isOwner
  refine notNamed applies key ?_
  rw [isRoute]
  exact isOwner

/-- Two nodes share a file; then the first of them is removed. -/
def sharedFile : List FileEvent :=
  [.addNode "b" 1 6 fun _ => true, .addFileOwner "k" "a", .addFileOwner "k" "b",
    .removeNode "a" 0 (fun _ => true) ["k"]]

theorem fileRoutes_consistent_shared :
    ∃ client, Runs.execute step (new "a" 0) sharedFile = some client ∧
      (client.routes.files "k").map FileRoute.ownerUUIDs = some ["b"] ∧ client.Consistent := by
  obtain ⟨client, reaches, owners⟩ :
      ∃ client, Runs.execute step (new "a" 0) sharedFile = some client ∧
        (client.routes.files "k").map ownerUUIDs = some ["b"] :=
    Runs.exists_of_any (by decide +kernel)
  exact ⟨client, reaches, owners, (fileRoutes_consistent (by decide +kernel) reaches).1⟩

/-- A key with white space around it is listed without it, and an empty key is not listed at
all. -/
theorem fileRoutes_untrimmed_key :
    (Runs.execute step (new "a" 0) [.addFileOwner " k" "a"]).map
        (fun client => ((client.routes.files " k").map FileRoute.ownerUUIDs,
          (client.routes.files "k").map FileRoute.ownerUUIDs,
          client.routes.fileOwnerKeys.members "a")) =
      some (some ["a"], none, {"k"}) ∧
    (Runs.execute step (new "a" 0)
        [.addFileOwner " k" "a", .removeNode "a" 0 (fun _ => true) ["k"]]).map
        (fun client => ((client.routes.files " k").map FileRoute.ownerUUIDs,
          client.table.nodes "a")) =
      some (some ["a"], none) ∧
    (Runs.execute step (new "a" 0) [.addFileOwner "" "a"]).map
        (fun client => ((client.routes.files "").map FileRoute.ownerUUIDs,
          client.routes.fileOwnerKeys.members "a")) =
      some (some ["a"], ∅) := by
  decide +kernel

end FileClient

end DeepNps.Bridge
