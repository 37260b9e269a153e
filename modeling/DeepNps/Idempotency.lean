import DeepNps.LabelledRuns

/-!
# Requests with an idempotency key

The request that makes the entry of a key is executed; one that finds it waits for its
channel and gets the stored response or a conflict.  Entries are shared, so the model has
a heap of them, and a pointer is the number of an entry.
-/

namespace DeepNps.Node

/-- Why the channel of an entry was closed.  The source does not record this. -/
inductive Release
  | completed
  | failed
  | timedOut
  | reset
  | closed
deriving DecidableEq, Repr

def Release.byHolder : Release → Bool
  | .completed | .failed => true
  | .timedOut | .reset | .closed => false

/-- A response that is stored: `nodeIdempotencyHTTPResponse` or `nodeWSFrame`. -/
structure StoredResponse (Body : Type) where
  status : Int
  body : Body
deriving DecidableEq, Repr

inductive Reply (Body : Type)
  | http (response : Option (StoredResponse Body))
  | ws (response : Option (StoredResponse Body))

/-- `ready` says that the channel is not nil, `closed` that it is closed; `key` is the key that
the entry is stored under, `released` why it was released. -/
structure IdempotencyEntry (Key Body : Type) where
  key : Key
  fingerprint : String
  expiresAt : Option Int
  ready : Bool
  closed : Bool
  httpResp : Option (StoredResponse Body)
  wsResp : Option (StoredResponse Body)
  released : Option Release

variable {Key Body : Type}

namespace Reply

def response : Reply Body → Option (StoredResponse Body)
  | .http response | .ws response => response

def httpResp : Reply Body → Option (StoredResponse Body)
  | .http response => response
  | .ws _ => none

def wsResp : Reply Body → Option (StoredResponse Body)
  | .http _ => none
  | .ws response => response

def cacheable (reply : Reply Body) : Bool :=
  reply.response.any fun response => decide (0 < response.status ∧ response.status < 500)

def update (reply : Reply Body) (entry : IdempotencyEntry Key Body) : IdempotencyEntry Key Body :=
  match reply with
  | .http response => { entry with httpResp := response }
  | .ws response => { entry with wsResp := response }

end Reply

def releaseNodeIdempotencyEntry (entry : IdempotencyEntry Key Body) (cause : Release) :
    IdempotencyEntry Key Body :=
  if entry.ready then { entry with ready := false, closed := true, released := some cause }
  else entry

/-- What the cases of `gcLocked` take out of the table. -/
def IdempotencyEntry.expired (entry : IdempotencyEntry Key Body) (now : Int) : Bool :=
  !entry.ready && entry.expiresAt.all fun expiresAt => decide (expiresAt < now)

def nodeIdempotencyTTL : Int := 300000000000

structure IdempotencyStore (Key Body : Type) where
  ttl : Int
  entries : Key → Option Nat
  heap : Nat → IdempotencyEntry Key Body
  allocated : Nat

/-- Where a call of `acquireContext` is, and the request after it. -/
inductive AcquireStage (Body : Type)
  | started
  | looked (now : Int)
  | waiting (entry : Nat)
  | timedOut (entry : Nat)
  | holding (entry : Nat)
  | answered (httpResp wsResp : Option (StoredResponse Body))
  | conflicted
  | cancelled
  | completed
deriving DecidableEq

namespace IdempotencyStore

variable [DecidableEq Key]

def TTL (store : IdempotencyStore Key Body) : Int :=
  if store.ttl ≤ 0 then nodeIdempotencyTTL else store.ttl

/-- Only entries without a channel are taken out, so that none is released. -/
def gcLocked (store : IdempotencyStore Key Body) (now : Int) : IdempotencyStore Key Body :=
  { store with
    entries := fun key => (store.entries key).filter fun id => !(store.heap id).expired now }

def create (store : IdempotencyStore Key Body) (key : Key) (fingerprint : String) :
    IdempotencyStore Key Body :=
  { store with
    entries := Function.update store.entries key (some store.allocated)
    heap := Function.update store.heap store.allocated
      ⟨key, fingerprint, none, true, false, none, none, none⟩
    allocated := store.allocated + 1 }

def drop (store : IdempotencyStore Key Body) (key : Key) (id : Nat) (cause : Release) :
    IdempotencyStore Key Body :=
  { store with
    entries := Function.update store.entries key none
    heap := Function.update store.heap id (releaseNodeIdempotencyEntry (store.heap id) cause) }

def expireInflightEntry (store : IdempotencyStore Key Body) (key : Key) (id : Nat) :
    IdempotencyStore Key Body :=
  if store.entries key = some id ∧ (store.heap id).ready = true then store.drop key id .timedOut
  else store

def completedEntry (store : IdempotencyStore Key Body) (id : Nat) (reply : Reply Body)
    (now : Int) : IdempotencyEntry Key Body :=
  releaseNodeIdempotencyEntry
    (reply.update { store.heap id with expiresAt := some (now + store.TTL) }) .completed

def complete (store : IdempotencyStore Key Body) (key : Key) (id : Nat) (reply : Reply Body)
    (now : Int) : IdempotencyStore Key Body :=
  if store.entries key ≠ some id then store
  else if !reply.cacheable then store.drop key id .failed
  else { store with heap := Function.update store.heap id (store.completedEntry id reply now) }

def releaseAll (store : IdempotencyStore Key Body) (cause : Release) (id : Nat) :
    IdempotencyEntry Key Body :=
  if store.entries (store.heap id).key = some id then
    releaseNodeIdempotencyEntry (store.heap id) cause
  else store.heap id

def reset (store : IdempotencyStore Key Body) : IdempotencyStore Key Body :=
  { store with entries := fun _ => none, heap := store.releaseAll .reset }

def close (store : IdempotencyStore Key Body) : IdempotencyStore Key Body :=
  { store with
    entries := fun key => (store.entries key).filter fun id => !(store.heap id).ready
    heap := store.releaseAll .closed }

/-- The locked part of a round of `acquireContext`, after `gcLocked`. -/
def lookUpLocked (store : IdempotencyStore Key Body) (key : Key) (fingerprint : String)
    (done : Bool) : IdempotencyStore Key Body × AcquireStage Body :=
  match store.entries key with
  | some id =>
      if (store.heap id).fingerprint ≠ fingerprint then (store, .conflicted)
      else if !(store.heap id).ready then
        (store, .answered (store.heap id).httpResp (store.heap id).wsResp)
      else (store, .waiting id)
  | none =>
      if done then (store, .cancelled)
      else (store.create key fingerprint, .holding store.allocated)

end IdempotencyStore

structure KeyedCall (Key Body : Type) where
  key : Key
  fingerprint : String
  stage : AcquireStage Body
deriving DecidableEq

structure IdempotencySystem (Key Body : Type) where
  store : IdempotencyStore Key Body
  clock : Int
  calls : Nat → Option (KeyedCall Key Body)

/-- `done` says whether the context of the call is done when it is looked at. -/
inductive IdempotencyEvent (Key Body : Type)
  | call (call : Nat) (key : Key) (fingerprint : String)
  | readClock (call : Nat)
  | lookUp (call : Nat) (done : Bool)
  | wake (call : Nat)
  | timeOut (call : Nat)
  | cancel (call : Nat)
  | expire (call : Nat)
  | complete (call : Nat) (reply : Reply Body)
  | tick (elapsed : Nat)
  | reset
  | close

namespace IdempotencySystem

variable [DecidableEq Key]

def move (system : IdempotencySystem Key Body) (store : IdempotencyStore Key Body) (call : Nat)
    (moved : KeyedCall Key Body) : IdempotencySystem Key Body :=
  { system with store := store, calls := Function.update system.calls call (some moved) }

def proceed (system : IdempotencySystem Key Body) (call : Nat) (request : KeyedCall Key Body) :
    IdempotencyEvent Key Body → Option (IdempotencySystem Key Body)
  | .readClock _ => match request.stage with
      | .started =>
        some (system.move system.store call { request with stage := .looked system.clock })
      | _ => none
  | .lookUp _ done => match request.stage with
      | .looked now =>
          let result :=
            (system.store.gcLocked now).lookUpLocked request.key request.fingerprint done
          some (system.move result.1 call { request with stage := result.2 })
      | _ => none
  | .wake _ => match request.stage with
      | .waiting id =>
          if (system.store.heap id).closed then
            some (system.move system.store call { request with stage := .started })
          else none
      | _ => none
  | .timeOut _ => match request.stage with
      | .waiting id => some (system.move system.store call { request with stage := .timedOut id })
      | _ => none
  | .cancel _ => match request.stage with
      | .started | .waiting _ =>
          some (system.move system.store call { request with stage := .cancelled })
      | _ => none
  | .expire _ => match request.stage with
      | .timedOut id =>
          some (system.move (system.store.expireInflightEntry request.key id) call
            { request with stage := .started })
      | _ => none
  | .complete _ reply => match request.stage with
      | .holding id =>
          some (system.move (system.store.complete request.key id reply system.clock) call
            { request with stage := .completed })
      | _ => none
  | .call .. | .tick _ | .reset | .close => none

def step (system : IdempotencySystem Key Body) (event : IdempotencyEvent Key Body) :
    Option (IdempotencySystem Key Body) :=
  match event with
  | .call call key fingerprint =>
      if (system.calls call).isSome then none
      else some (system.move system.store call ⟨key, fingerprint, .started⟩)
  | .readClock call | .lookUp call _ | .wake call | .timeOut call | .cancel call | .expire call
  | .complete call _ => (system.calls call).bind fun request => system.proceed call request event
  | .tick elapsed => some { system with clock := system.clock + elapsed }
  | .reset => some { system with store := system.store.reset }
  | .close => some { system with store := system.store.close }

def opened (ttl : Int) (nil : IdempotencyEntry Key Body) : IdempotencySystem Key Body :=
  ⟨⟨ttl, fun _ => none, fun _ => nil, 0⟩, 0, fun _ => none⟩

end IdempotencySystem

/-! ## The store -/

open Function Option

namespace IdempotencyStore

@[simp]
theorem key_release (entry : IdempotencyEntry Key Body) (cause : Release) :
    (releaseNodeIdempotencyEntry entry cause).key = entry.key := by
  rw [releaseNodeIdempotencyEntry]
  split_ifs
  · rfl
  · rfl

@[simp]
theorem fingerprint_release (entry : IdempotencyEntry Key Body) (cause : Release) :
    (releaseNodeIdempotencyEntry entry cause).fingerprint = entry.fingerprint := by
  rw [releaseNodeIdempotencyEntry]
  split_ifs
  · rfl
  · rfl

@[simp]
theorem ready_release (entry : IdempotencyEntry Key Body) (cause : Release) :
    (releaseNodeIdempotencyEntry entry cause).ready = false := by
  rw [releaseNodeIdempotencyEntry]
  split_ifs with isReady
  · rfl
  · simpa using isReady

@[simp]
theorem key_update (reply : Reply Body) (entry : IdempotencyEntry Key Body) :
    (reply.update entry).key = entry.key := by
  cases reply <;> rfl

@[simp]
theorem fingerprint_update (reply : Reply Body) (entry : IdempotencyEntry Key Body) :
    (reply.update entry).fingerprint = entry.fingerprint := by
  cases reply <;> rfl

@[simp]
theorem ready_update (reply : Reply Body) (entry : IdempotencyEntry Key Body) :
    (reply.update entry).ready = entry.ready := by
  cases reply <;> rfl

theorem heap_release_over {entry : IdempotencyEntry Key Body} (cause : Release)
    (ended : entry.ready = false → entry.closed = true ∧ entry.released ≠ none) :
    (releaseNodeIdempotencyEntry entry cause).closed = true ∧
      (releaseNodeIdempotencyEntry entry cause).released ≠ none := by
  rw [releaseNodeIdempotencyEntry]
  split_ifs with isReady
  · exact ⟨rfl, nofun⟩
  · exact ended (by simpa using isReady)

variable [DecidableEq Key] {store next : IdempotencyStore Key Body}

structure Sound (store : IdempotencyStore Key Body) : Prop where
  stored : ∀ {key id}, store.entries key = some id →
    id < store.allocated ∧ (store.heap id).key = key ∧
      ((store.heap id).ready = false → (store.heap id).released = some .completed)
  inflight : ∀ {id}, id < store.allocated → (store.heap id).ready = true →
    store.entries (store.heap id).key = some id ∧ (store.heap id).released = none ∧
      (store.heap id).httpResp = none ∧ (store.heap id).wsResp = none
  ended : ∀ {id}, id < store.allocated → (store.heap id).ready = false →
    (store.heap id).closed = true ∧ (store.heap id).released ≠ none

section

variable (sound : store.Sound)

include sound

omit [DecidableEq Key] in
theorem Sound.gcLocked (now : Int) : (store.gcLocked now).Sound where
  stored := by
    intro _ _ isStored
    exact sound.stored (filter_eq_some_iff.mp isStored).1
  inflight := by
    intro id isAllocated isReady
    have inflight := sound.inflight isAllocated isReady
    refine ⟨?_, inflight.2⟩
    refine filter_eq_some_iff.mpr ⟨inflight.1, ?_⟩
    have isReady : (store.heap id).ready = true := isReady
    simp [IdempotencyEntry.expired, isReady]
  ended := sound.ended

theorem Sound.create {key : Key} (isFree : store.entries key = none) (fingerprint : String) :
    (store.create key fingerprint).Sound where
  stored := by
    intro other _ isStored
    dsimp only [IdempotencyStore.create] at isStored ⊢
    by_cases isKey : other = key
    · subst isKey
      rw [update_self] at isStored
      obtain rfl := some.inj isStored
      rw [update_self]
      exact ⟨Nat.lt_succ_self _, rfl, nofun⟩
    · rw [update_of_ne isKey] at isStored
      have stored := sound.stored isStored
      rw [update_of_ne (Nat.ne_of_lt stored.1)]
      exact ⟨Nat.lt_succ_of_lt stored.1, stored.2⟩
  inflight := by
    intro _ isAllocated isReady
    dsimp only [IdempotencyStore.create] at isAllocated isReady ⊢
    rcases Nat.lt_succ_iff_lt_or_eq.mp isAllocated with isOld | rfl
    · rw [update_of_ne (Nat.ne_of_lt isOld)] at isReady ⊢
      have inflight := sound.inflight isOld isReady
      refine ⟨?_, inflight.2⟩
      rw [update_of_ne, inflight.1]
      rintro keyEq
      rw [keyEq, isFree] at inflight
      exact nomatch inflight.1
    · rw [update_self]
      exact ⟨update_self .., rfl, rfl, rfl⟩
  ended := by
    intro _ isAllocated isReady
    dsimp only [IdempotencyStore.create] at isAllocated isReady ⊢
    rcases Nat.lt_succ_iff_lt_or_eq.mp isAllocated with isOld | rfl
    · rw [update_of_ne (Nat.ne_of_lt isOld)] at isReady ⊢
      exact sound.ended isOld isReady
    · rw [update_self] at isReady
      cases isReady

theorem Sound.drop {key : Key} {id : Nat} (isStored : store.entries key = some id)
    (cause : Release) :
    (store.drop key id cause).Sound where
  stored := by
    intro other kept isKept
    dsimp only [IdempotencyStore.drop] at isKept ⊢
    by_cases isKey : other = key
    · rw [isKey, update_self] at isKept
      cases isKept
    · rw [update_of_ne isKey] at isKept
      have isOther : kept ≠ id := by
        rintro rfl
        exact isKey ((sound.stored isKept).2.1.symm.trans (sound.stored isStored).2.1)
      rw [update_of_ne isOther]
      exact sound.stored isKept
  inflight := by
    intro kept isAllocated isReady
    dsimp only [IdempotencyStore.drop] at isAllocated isReady ⊢
    by_cases isId : kept = id
    · rw [isId, update_self, ready_release] at isReady
      cases isReady
    · rw [update_of_ne isId] at isReady ⊢
      have inflight := sound.inflight isAllocated isReady
      refine ⟨?_, inflight.2⟩
      rw [update_of_ne, inflight.1]
      intro keyEq
      rw [keyEq, isStored] at inflight
      exact isId (some.inj inflight.1).symm
  ended := by
    intro kept isAllocated isReady
    dsimp only [IdempotencyStore.drop] at isAllocated isReady ⊢
    by_cases isId : kept = id
    · subst isId
      rw [update_self]
      exact heap_release_over cause (sound.ended isAllocated)
    · rw [update_of_ne isId] at isReady ⊢
      exact sound.ended isAllocated isReady

theorem Sound.expireInflightEntry (key : Key) (id : Nat) :
    (store.expireInflightEntry key id).Sound := by
  rw [IdempotencyStore.expireInflightEntry]
  split_ifs with isInflight
  · exact sound.drop isInflight.1 .timedOut
  · exact sound

theorem Sound.complete {key : Key} {id : Nat}
    (isHeld : store.entries key = some id → (store.heap id).ready = true) (reply : Reply Body)
    (now : Int) : (store.complete key id reply now).Sound := by
  rw [IdempotencyStore.complete]
  split_ifs with isOther notCacheable
  · exact sound
  · exact sound.drop (not_not.mp isOther) .failed
  · have isStored := not_not.mp isOther
    have stored := sound.stored isStored
    have completedEq : (store.completedEntry id reply now).released = some .completed ∧
        (store.completedEntry id reply now).closed = true := by
      rw [completedEntry, releaseNodeIdempotencyEntry, if_pos]
      · exact ⟨rfl, rfl⟩
      · rw [ready_update]
        exact isHeld isStored
    have keyEq : (store.completedEntry id reply now).key = (store.heap id).key := by
      rw [completedEntry, key_release, key_update]
    exact {
      stored := by
        intro _ kept isKept
        have kept_stored := sound.stored isKept
        refine ⟨kept_stored.1, ?_⟩
        dsimp only
        by_cases isId : kept = id
        · subst isId
          rw [update_self, keyEq]
          exact ⟨kept_stored.2.1, fun _ => completedEq.1⟩
        · rw [update_of_ne isId]
          exact kept_stored.2
      inflight := by
        intro kept isAllocated isReady
        dsimp only at isReady ⊢
        by_cases isId : kept = id
        · rw [isId, update_self, completedEntry, ready_release] at isReady
          cases isReady
        · rw [update_of_ne isId] at isReady ⊢
          exact sound.inflight isAllocated isReady
      ended := by
        intro kept isAllocated isReady
        dsimp only at isReady ⊢
        by_cases isId : kept = id
        · subst isId
          rw [update_self, completedEq.1]
          exact ⟨completedEq.2, nofun⟩
        · rw [update_of_ne isId] at isReady ⊢
          exact sound.ended isAllocated isReady }

omit [DecidableEq Key] in
theorem Sound.ready_releaseAll (cause : Release) {id : Nat} (isAllocated : id < store.allocated) :
    (store.releaseAll cause id).ready = false := by
  rw [releaseAll]
  split_ifs with isStored
  · exact ready_release _ _
  · by_contra isReady
    exact isStored (sound.inflight isAllocated (by simpa using isReady)).1

omit [DecidableEq Key] in
theorem Sound.releaseAll_over (cause : Release) {id : Nat} (isAllocated : id < store.allocated) :
    (store.releaseAll cause id).closed = true ∧ (store.releaseAll cause id).released ≠ none := by
  have ended := sound.ready_releaseAll cause isAllocated
  rw [releaseAll] at ended ⊢
  split_ifs at ended ⊢
  · exact heap_release_over cause (sound.ended isAllocated)
  · exact sound.ended isAllocated ended

omit [DecidableEq Key] in
theorem Sound.clear (cause : Release) {entries : Key → Option Nat}
    (kept : ∀ {key id}, entries key = some id →
      store.entries key = some id ∧ (store.heap id).ready = false) :
    Sound { store with entries := entries, heap := store.releaseAll cause } where
  stored := by
    intro _ id isKept
    obtain ⟨isStored, notReady⟩ := kept isKept
    have same : store.releaseAll cause id = store.heap id := by
      rw [releaseAll, releaseNodeIdempotencyEntry, notReady]
      exact ite_self _
    dsimp only
    rw [same]
    exact sound.stored isStored
  inflight := by
    intro _ isAllocated isReady
    have notReady := sound.ready_releaseAll cause isAllocated
    rw [isReady] at notReady
    cases notReady
  ended := fun isAllocated _ => sound.releaseAll_over cause isAllocated

omit [DecidableEq Key] in
theorem Sound.reset : store.reset.Sound := sound.clear .reset nofun

omit [DecidableEq Key] in
theorem Sound.close : store.close.Sound := by
  refine sound.clear .closed fun isKept => ?_
  obtain ⟨isStored, notReady⟩ := filter_eq_some_iff.mp isKept
  exact ⟨isStored, by simpa using notReady⟩

end

end IdempotencyStore

end DeepNps.Node
