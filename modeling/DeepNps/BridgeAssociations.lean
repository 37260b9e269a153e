import DeepNps.LabelledRuns
import DeepNps.Table

/-!
# The associations of the bridge

A visitor that attaches to a pending association is told to wait, or to punch again if it
has been pending for too long, counted from when it was last touched: every visitor that
attaches touches it.
-/

namespace DeepNps.Bridge

open Function Table

structure P2PPeerRuntime where
  clientID : Int
  uuid : String
  baseVer : Int
  deriving DecidableEq

structure P2PAssociation where
  associationID : String
  visitor : P2PPeerRuntime
  provider : P2PPeerRuntime
  deriving DecidableEq

/-- The texts for the phases that `normalizeP2PAssociationPhase` lets through. -/
inductive AssociationPhase
  | binding
  | punching
  | established
  | stale
  | failed
  deriving DecidableEq

def AssociationPhase.isPending : AssociationPhase → Bool
  | .binding | .punching => true
  | .established | .stale | .failed => false

def p2pAssociationPendingTTL : Int := 30 * 1000000000

def p2pAssociationSweepInterval : Int := p2pAssociationPendingTTL

/-- `p2pAssociationState`; the zero time is `none`. -/
structure AssociationState where
  association : P2PAssociation
  phase : AssociationPhase
  updatedAt : Option Int
  deriving DecidableEq

namespace AssociationState

def id (state : AssociationState) : String := state.association.associationID

def isOverdue (state : AssociationState) (now : Int) : Bool :=
  state.updatedAt.any fun updatedAt => p2pAssociationPendingTTL < now - updatedAt

def normalizePendingPhase (state : AssociationState) (now : Int) : AssociationPhase :=
  if state.phase.isPending ∧ state.isOverdue now then .stale else state.phase

def shouldPrune (state : AssociationState) (now : Int) : Bool :=
  if state.phase.isPending then state.isOverdue now else true

end AssociationState

/-- `p2pAssociationManager`; the zero time is `none`. -/
structure AssociationManager where
  byID : Table AssociationState.id
  lastSweep : Option Int

/-- What `attachAt` asks of other packages: the UUID of some texts, and the access policy of a
route. -/
structure AssociationEnv (Route Grant : Type) where
  generateUUID : List String → String
  currentP2PRouteGrant : Route → Grant

def AssociationEnv.buildP2PAssociationID {Route Grant : Type} (env : AssociationEnv Route Grant)
    (visitor provider : P2PPeerRuntime) : String :=
  env.generateUUID ["assoc", visitor.uuid, provider.uuid, toString visitor.clientID,
    toString provider.clientID]

structure Attachment (Grant : Type) where
  association : P2PAssociation
  grant : Grant
  phase : AssociationPhase
  needPunch : Bool

namespace AssociationManager

def new : AssociationManager where
  byID := Table.empty
  lastSweep := none

def setStates (manager : AssociationManager) (byID : Table AssociationState.id) :
    AssociationManager :=
  { manager with byID }

def sweepExpired (manager : AssociationManager) (now : Int) : AssociationManager :=
  if manager.byID.records = [] then manager
  else if manager.lastSweep.any fun lastSweep => now - lastSweep < p2pAssociationSweepInterval then
    manager
  else
    { byID := manager.byID.filter fun state => ¬ state.shouldPrune now
      lastSweep := some now }

/-- The part of `attachAt` after the sweep: whether to punch, and the state that is kept. -/
def attachTo (found : Option AssociationState) (association : P2PAssociation) (now : Int) :
    Bool × AssociationState :=
  match found with
  | none => (true, ⟨association, .binding, some now⟩)
  | some state =>
      let phase := state.normalizePendingPhase now
      if phase = .failed ∨ phase = .stale then (true, ⟨association, .binding, some now⟩)
      else
        (phase ≠ .binding ∧ phase ≠ .punching ∧ phase ≠ .established,
          ⟨association, phase, some now⟩)

def attachAt {Route Grant : Type} (env : AssociationEnv Route Grant)
    (manager : AssociationManager) (visitor provider : P2PPeerRuntime) (route : Route)
    (now : Int) : Attachment Grant × AssociationManager :=
  let grant := env.currentP2PRouteGrant route
  let association := ⟨env.buildP2PAssociationID visitor provider, visitor, provider⟩
  let manager := manager.sweepExpired now
  let (needPunch, state) := attachTo (manager.byID.get association.associationID) association now
  (⟨association, grant, state.phase, needPunch⟩, manager.setStates (manager.byID.store state))

def setPhase (manager : AssociationManager) (associationID : String) (phase : AssociationPhase)
    (now : Int) : AssociationManager :=
  if associationID = "" then manager
  else
    match manager.byID.get associationID with
    | none => manager
    | some state =>
        manager.setStates (manager.byID.store { state with phase, updatedAt := some now })

def markPunching (manager : AssociationManager) (associationID : String) (now : Int) :
    AssociationManager :=
  manager.setPhase associationID .punching now

def markDone (manager : AssociationManager) (associationID : String) : AssociationManager :=
  if associationID = "" then manager
  else manager.setStates (manager.byID.delete associationID)

def markEstablished (manager : AssociationManager) (associationID : String) : AssociationManager :=
  manager.markDone associationID

def markFailed (manager : AssociationManager) (associationID : String) : AssociationManager :=
  manager.markDone associationID

section Rules

variable {manager : AssociationManager} {state : AssociationState} {id : String} {now : Int}

theorem mem_of_mem_sweepExpired (isState : state ∈ (manager.sweepExpired now).byID.records) :
    state ∈ manager.byID.records := by
  rw [sweepExpired] at isState
  split_ifs at isState
  · exact isState
  · exact isState
  · exact (mem_filter.mp isState).1

variable {association : P2PAssociation}

theorem attachTo_of_isOverdue (isPending : state.phase.isPending)
    (isOverdue : state.isOverdue now) :
    attachTo (some state) association now = (true, ⟨association, .binding, some now⟩) := by
  have isStale : state.normalizePendingPhase now = .stale := if_pos ⟨isPending, isOverdue⟩
  rw [attachTo, isStale, if_pos (.inr rfl)]

theorem attachTo_keeps {found : Option AssociationState}
    (isPending : ∀ state ∈ found, state.phase.isPending = true) :
    ∃ phase : AssociationPhase, phase.isPending = true ∧
      (attachTo found association now).2 = ⟨association, phase, some now⟩ := by
  cases found with
  | none => exact ⟨.binding, rfl, rfl⟩
  | some state =>
    have isPending := isPending state rfl
    cases isOverdue : state.isOverdue now with
    | true =>
      rw [attachTo_of_isOverdue isPending isOverdue]
      exact ⟨.binding, rfl, rfl⟩
    | false =>
      have isSame : state.normalizePendingPhase now = state.phase := by
        rw [AssociationState.normalizePendingPhase, isOverdue, if_neg]
        rintro ⟨-, ⟨⟩⟩
      refine ⟨state.phase, isPending, ?_⟩
      rw [attachTo, isSame]
      cases phaseEq : state.phase with
      | binding | punching => rfl
      | established | stale | failed =>
        rw [phaseEq] at isPending
        cases isPending

theorem mem_attachAt {Route Grant : Type} {env : AssociationEnv Route Grant}
    {visitor provider : P2PPeerRuntime} (route : Route)
    (isPending : ∀ state ∈ manager.byID.records, state.phase.isPending = true)
    (isState : state ∈ (manager.attachAt env visitor provider route now).2.byID.records) :
    (state ∈ manager.byID.records ∧ state.id ≠ env.buildP2PAssociationID visitor provider) ∨
      (state.id = env.buildP2PAssociationID visitor provider ∧ state.phase.isPending = true ∧
        state.updatedAt = some now) := by
  have foundPending : ∀ state ∈ (manager.sweepExpired now).byID.get
      (env.buildP2PAssociationID visitor provider), state.phase.isPending = true :=
    fun state found => isPending state (mem_of_mem_sweepExpired (mem_of_get found))
  obtain ⟨phase, phasePending, kept⟩ :
      ∃ phase : AssociationPhase, phase.isPending = true ∧ (attachTo _ _ now).2 =
        ⟨⟨env.buildP2PAssociationID visitor provider, visitor, provider⟩, phase, some now⟩ :=
    attachTo_keeps foundPending
  have isStored : state ∈ ((manager.sweepExpired now).byID.store
      ⟨⟨env.buildP2PAssociationID visitor provider, visitor, provider⟩, phase,
        some now⟩).records := by
    rw [← kept]
    exact isState
  rcases mem_store.mp isStored with rfl | ⟨isOld, differs⟩
  · exact .inr ⟨rfl, phasePending, rfl⟩
  · exact .inl ⟨mem_of_mem_sweepExpired isOld, differs⟩

theorem mem_setPhase {phase : AssociationPhase}
    (isState : state ∈ (manager.setPhase id phase now).byID.records) :
    (state ∈ manager.byID.records ∧ (state.id = id → id = "")) ∨
      (state.id = id ∧ id ≠ "" ∧ state.phase = phase ∧ state.updatedAt = some now) := by
  rw [setPhase] at isState
  split_ifs at isState with isEmpty
  · exact .inl ⟨isState, fun _ => isEmpty⟩
  · cases found : manager.byID.get id with
    | none =>
      rw [found] at isState
      exact .inl ⟨isState, fun isId => absurd isId (get_eq_none_iff.mp found state isState)⟩
    | some =>
      rw [found] at isState
      have isKey := key_of_get found
      rcases mem_store.mp isState with rfl | ⟨isOld, differs⟩
      · exact .inr ⟨isKey, isEmpty, rfl, rfl⟩
      · exact .inl ⟨isOld, fun isId => absurd (isId.trans isKey.symm) differs⟩

theorem mem_of_mem_markDone (isState : state ∈ (manager.markDone id).byID.records) :
    state ∈ manager.byID.records := by
  rw [markDone] at isState
  split_ifs at isState
  · exact isState
  · exact (mem_delete.mp isState).1

end Rules

end AssociationManager

inductive AssociationEvent (Route : Type)
  | attach (visitor provider : P2PPeerRuntime) (route : Route) (now : Int)
  | markPunching (associationID : String) (now : Int)
  | markEstablished (associationID : String)
  | markFailed (associationID : String)

/-- A manager with the time of the last call, and for each association the times at which
`attachAt` was last called and a visitor last told to punch. -/
structure Associations where
  manager : AssociationManager
  clock : Int
  lastAttach : String → Option Int
  lastPunch : String → Option Int

open AssociationManager

namespace Associations

variable {Route Grant : Type} (env : AssociationEnv Route Grant)

def new (clock : Int) : Associations where
  manager := AssociationManager.new
  clock
  lastAttach := fun _ => none
  lastPunch := fun _ => none

/-- The clock does not go back.  The empty text is not the id of an association. -/
def step (associations : Associations) : AssociationEvent Route → Option Associations
  | .attach visitor provider route now =>
      if now < associations.clock then none
      else
        let attached := associations.manager.attachAt env visitor provider route now
        let id := env.buildP2PAssociationID visitor provider
        some
          { manager := attached.2
            clock := now
            lastAttach := update associations.lastAttach id (some now)
            lastPunch :=
              if attached.1.needPunch then update associations.lastPunch id (some now)
              else associations.lastPunch }
  | .markPunching id now =>
      if now < associations.clock then none
      else
        some
          { manager := associations.manager.markPunching id now
            clock := now
            lastAttach := associations.lastAttach
            lastPunch :=
              if id = "" then associations.lastPunch
              else update associations.lastPunch id (some now) }
  | .markEstablished id =>
      some { associations with manager := associations.manager.markEstablished id }
  | .markFailed id => some { associations with manager := associations.manager.markFailed id }

/-- An association is pending, and was last updated by the last call of one of the two
kinds. -/
structure Dated (associations : Associations) (state : AssociationState) : Prop where
  isPending : state.phase.isPending = true
  updated : ∃ updatedAt, state.updatedAt = some updatedAt ∧
    (associations.lastAttach state.id = some updatedAt ∨
      associations.lastPunch state.id = some updatedAt)

def AllDated (associations : Associations) : Prop :=
  ∀ state ∈ associations.manager.byID.records, associations.Dated state

variable {env} {associations next : Associations} {state : AssociationState}

theorem Dated.isOverdue (dated : associations.Dated state) {now : Int}
    (attachEarlier : ∀ attached ∈ associations.lastAttach state.id,
      attached + p2pAssociationPendingTTL < now)
    (punchEarlier : ∀ punched ∈ associations.lastPunch state.id,
      punched + p2pAssociationPendingTTL < now) : state.isOverdue now = true := by
  obtain ⟨updatedAt, updated, isTouched⟩ := dated.updated
  have isEarlier : updatedAt + p2pAssociationPendingTTL < now := by
    rcases isTouched with isAttach | isPunch
    · exact attachEarlier updatedAt isAttach
    · exact punchEarlier updatedAt isPunch
  rw [AssociationState.isOverdue, updated, Option.any_some, decide_eq_true_iff]
  omega

theorem Dated.of_eq (dated : associations.Dated state)
    (sameAttach : next.lastAttach state.id = associations.lastAttach state.id)
    (samePunch : next.lastPunch state.id = associations.lastPunch state.id) :
    next.Dated state := by
  refine ⟨dated.isPending, ?_⟩
  rw [sameAttach, samePunch]
  exact dated.updated

theorem AllDated.of_step {event : AssociationEvent Route} (dated : associations.AllDated)
    (stepEq : associations.step env event = some next) : next.AllDated := by
  intro state isState
  cases event with
  | attach _ _ route now =>
    rw [step] at stepEq
    split_ifs at stepEq
    cases stepEq
    have isPending := fun state isState => (dated state isState).isPending
    rcases mem_attachAt route isPending isState with
      ⟨isOld, differs⟩ | ⟨isId, statePending, updated⟩
    · refine (dated state isOld).of_eq (update_of_ne differs ..) ?_
      change (if _ then update associations.lastPunch _ _ else _) state.id = _
      split_ifs
      · exact update_of_ne differs ..
      · rfl
    · refine ⟨statePending, now, updated, .inl ?_⟩
      rw [isId]
      exact update_self ..
  | markPunching id now =>
    rw [step] at stepEq
    split_ifs at stepEq with isEarlier isEmpty
    · cases stepEq
      rcases mem_setPhase isState with ⟨isOld, -⟩ | ⟨-, isText, -⟩
      · exact (dated state isOld).of_eq rfl rfl
      · exact absurd isEmpty isText
    · cases stepEq
      rcases mem_setPhase isState with
        ⟨isOld, unlessEmpty⟩ | ⟨isId, -, isPunching, updated⟩
      · have differs : state.id ≠ id := fun isId => isEmpty (unlessEmpty isId)
        exact (dated state isOld).of_eq rfl (update_of_ne differs ..)
      · refine ⟨by rw [isPunching]; rfl, now, updated, .inr ?_⟩
        rw [isId]
        exact update_self ..
  | markEstablished | markFailed =>
    cases stepEq
    exact (dated state (mem_of_mem_markDone isState)).of_eq rfl rfl

/-- An association pending for longer than the TTL is punched again by a visitor that attaches,
unless another one attached within the TTL. -/
theorem stuck_association_punched (env : AssociationEnv Route Grant) (clock : Int)
    (events : List (AssociationEvent Route)) (associations : Associations)
    (reaches : Runs.execute (step env) (new clock) events = some associations)
    (visitor provider : P2PPeerRuntime) (route : Route) (now punched : Int)
    (lastPunch : associations.lastPunch (env.buildP2PAssociationID visitor provider) = some punched)
    (isStuck : punched + p2pAssociationPendingTTL < now)
    (attachEarlier : ∀ attached ∈ associations.lastAttach
      (env.buildP2PAssociationID visitor provider), attached + p2pAssociationPendingTTL < now) :
    (associations.manager.attachAt env visitor provider route now).1.needPunch = true := by
  have punchEarlier : ∀ punched ∈ associations.lastPunch
      (env.buildP2PAssociationID visitor provider), punched + p2pAssociationPendingTTL < now := by
    rw [lastPunch]
    rintro _ ⟨⟩
    exact isStuck
  change (attachTo ((associations.manager.sweepExpired now).byID.get
    (env.buildP2PAssociationID visitor provider)) _ now).1 = true
  cases found : (associations.manager.sweepExpired now).byID.get
      (env.buildP2PAssociationID visitor provider) with
  | none => rfl
  | some state =>
    obtain ⟨isState, isId⟩ := get_eq_some_iff.mp found
    have allDated : associations.AllDated :=
      Runs.invariant_of_execute AllDated (fun _ _ _ dated => dated.of_step)
        (fun _ isState => absurd isState not_mem_empty) reaches
    have dated := allDated state (mem_of_mem_sweepExpired isState)
    rw [← isId] at attachEarlier punchEarlier
    rw [attachTo_of_isOverdue dated.isPending (dated.isOverdue attachEarlier punchEarlier)]

def plainEnv : AssociationEnv Unit Unit where
  generateUUID := String.intercalate "|"
  currentP2PRouteGrant := id

def plainID : String := plainEnv.buildP2PAssociationID ⟨1, "v", 0⟩ ⟨2, "p", 0⟩

def attachTwice : List (AssociationEvent Unit) :=
  [.attach ⟨1, "v", 0⟩ ⟨2, "p", 0⟩ () 0, .attach ⟨1, "v", 0⟩ ⟨2, "p", 0⟩ () (20 * 1000000000)]

/-- A visitor that attaches after 51 seconds is told to punch. -/
theorem stuck_association_punched_late :
    ∃ associations, Runs.execute (step plainEnv) (new 0) attachTwice = some associations ∧
      (associations.manager.attachAt plainEnv ⟨1, "v", 0⟩ ⟨2, "p", 0⟩ ()
        (51 * 1000000000)).1.needPunch = true := by
  obtain ⟨associations, reaches, lastPunch, lastAttach⟩ :
      ∃ associations, Runs.execute (step plainEnv) (new 0) attachTwice = some associations ∧
        associations.lastPunch plainID = some 0 ∧
        associations.lastAttach plainID = some (20 * 1000000000) :=
    Runs.exists_of_any (by decide +kernel)
  refine ⟨associations, reaches, stuck_association_punched plainEnv 0 attachTwice associations
    reaches ⟨1, "v", 0⟩ ⟨2, "p", 0⟩ () (51 * 1000000000) 0 lastPunch (by decide) ?_⟩
  intro _ isAttached
  have attachedEq := Option.some.inj (lastAttach.symm.trans isAttached)
  rw [← attachedEq]
  decide

/-- A visitor that attaches after 40 seconds is told to wait, because of the one that
attached after 20 seconds. -/
theorem stuck_association_refreshed :
    ∃ associations, Runs.execute (step plainEnv) (new 0) attachTwice = some associations ∧
      associations.manager.byID.records.map (fun state => state.phase) = [.binding] ∧
      associations.lastPunch plainID = some 0 ∧
      0 + p2pAssociationPendingTTL < 40 * 1000000000 ∧
      (associations.manager.attachAt plainEnv ⟨1, "v", 0⟩ ⟨2, "p", 0⟩ ()
        (40 * 1000000000)).1.needPunch = false := by
  exact Runs.exists_of_any (by decide +kernel)

end Associations

end DeepNps.Bridge
