import DeepNps.Idempotency

/-!
# What requests know about their entries

A request relies on its entry being one of its own key, and the request that holds the
entry on nobody else completing it.
-/

namespace DeepNps.Node

open Option Function

variable {Key Body : Type}

namespace IdempotencyStore

variable [DecidableEq Key] {store next : IdempotencyStore Key Body} {except : Option Nat}

/-! ## What an operation leaves of the entries -/

/-- An entry stays as it is or is released by another than its holder. -/
def Becomes (entry after : IdempotencyEntry Key Body) : Prop :=
  after = entry ∨ ∃ cause, cause.byHolder = false ∧ after = releaseNodeIdempotencyEntry entry cause

/-- What an operation does to entries with a pointer, except to one that its holder completes. -/
structure Frame (store next : IdempotencyStore Key Body) (except : Option Nat) : Prop where
  allocated_le : store.allocated ≤ next.allocated
  names_eq : ∀ {id}, id < store.allocated → (next.heap id).key = (store.heap id).key ∧
    (next.heap id).fingerprint = (store.heap id).fingerprint
  becomes : ∀ {id}, id < store.allocated → id ∉ except → Becomes (store.heap id) (next.heap id)

omit [DecidableEq Key] in
theorem Frame.of_becomes (allocated_le : store.allocated ≤ next.allocated)
    (becomes : ∀ {id}, id < store.allocated → Becomes (store.heap id) (next.heap id)) :
    store.Frame next none where
  allocated_le := allocated_le
  names_eq := by
    intro _ isAllocated
    rcases becomes isAllocated with same | ⟨cause, -, isReleased⟩
    · rw [same]
      exact ⟨rfl, rfl⟩
    · rw [isReleased]
      exact ⟨key_release .., fingerprint_release ..⟩
  becomes := fun isAllocated _ => becomes isAllocated

omit [DecidableEq Key] in
theorem Frame.refl (store : IdempotencyStore Key Body) : store.Frame store none :=
  .of_becomes (Nat.le_refl _) fun _ => .inl rfl

theorem frame_lookUp (store : IdempotencyStore Key Body) (now : Int) (key : Key)
    (fingerprint : String) (done : Bool) :
    store.Frame ((store.gcLocked now).lookUpLocked key fingerprint done).1 none := by
  have gcFrame : store.Frame (store.gcLocked now) none :=
    .of_becomes (Nat.le_refl _) fun _ => .inl rfl
  rw [lookUpLocked]
  split
  · split_ifs <;> exact gcFrame
  · split_ifs
    · exact gcFrame
    · refine .of_becomes (Nat.le_succ _) fun isAllocated => .inl ?_
      exact update_of_ne (Nat.ne_of_lt isAllocated) ..

theorem frame_expireInflightEntry (store : IdempotencyStore Key Body) (key : Key) (id : Nat) :
    store.Frame (store.expireInflightEntry key id) none := by
  rw [expireInflightEntry]
  split_ifs
  · refine .of_becomes (Nat.le_refl _) fun {other} _ => ?_
    dsimp only [drop]
    by_cases isId : other = id
    · subst isId
      rw [update_self]
      exact .inr ⟨_, rfl, rfl⟩
    · exact .inl (update_of_ne isId ..)
  · exact .refl store

omit [DecidableEq Key] in
theorem Frame.of_update {entries : Key → Option Nat} {id : Nat} {entry : IdempotencyEntry Key Body}
    (keyEq : entry.key = (store.heap id).key)
    (fingerprintEq : entry.fingerprint = (store.heap id).fingerprint) :
    store.Frame { store with entries := entries, heap := Function.update store.heap id entry }
      (some id) where
  allocated_le := Nat.le_refl _
  names_eq := by
    intro other _
    dsimp only
    by_cases isId : other = id
    · rw [isId, update_self]
      exact ⟨keyEq, fingerprintEq⟩
    · rw [update_of_ne isId]
      exact ⟨rfl, rfl⟩
  becomes := by
    intro _ _ isOther
    exact .inl (update_of_ne (fun isId => isOther (congrArg some isId.symm)) ..)

theorem frame_complete (store : IdempotencyStore Key Body) (key : Key) (id : Nat)
    (reply : Reply Body) (now : Int) :
    store.Frame (store.complete key id reply now) (some id) := by
  rw [complete]
  split_ifs
  · have same := Frame.refl store
    refine ⟨same.allocated_le, same.names_eq, fun isAllocated _ => same.becomes isAllocated ?_⟩
    rintro ⟨⟩
  · exact .of_update (key_release ..) (fingerprint_release ..)
  · refine .of_update ?_ ?_
    · rw [completedEntry, key_release, key_update]
    · rw [completedEntry, fingerprint_release, fingerprint_update]

omit [DecidableEq Key] in
theorem frame_releaseAll (store : IdempotencyStore Key Body) (entries : Key → Option Nat)
    {cause : Release} (notHolder : cause.byHolder = false) :
    store.Frame { store with entries := entries, heap := store.releaseAll cause } none := by
  refine .of_becomes (Nat.le_refl _) fun {id} _ => ?_
  dsimp only
  rw [releaseAll]
  split_ifs
  · exact .inr ⟨cause, notHolder, rfl⟩
  · exact .inl rfl

end IdempotencyStore

namespace IdempotencySystem

variable [DecidableEq Key] {system next : IdempotencySystem Key Body}

/-! ## Requests -/

/-- What a request at a stage knows about the store. -/
def Knows (store : IdempotencyStore Key Body) (clock : Int) (request : KeyedCall Key Body) : Prop :=
  match request.stage with
  | .looked now => now ≤ clock
  | .waiting id | .timedOut id => id < store.allocated ∧ (store.heap id).key = request.key
  | .holding id => id < store.allocated ∧ (store.heap id).key = request.key ∧
      (store.heap id).fingerprint = request.fingerprint ∧
      ∀ cause ∈ (store.heap id).released, cause.byHolder = false
  | .started | .answered .. | .conflicted | .cancelled | .completed => True

omit [DecidableEq Key] in
theorem Knows.frame {store after : IdempotencyStore Key Body} {clock later : Int}
    {request : KeyedCall Key Body} (knows : Knows store clock request) {except : Option Nat}
    (frame : store.Frame after except) (isLater : clock ≤ later)
    (notExcept : ∀ id ∈ except, request.stage ≠ .holding id) : Knows after later request := by
  obtain ⟨_, _, stage⟩ := request
  cases stage with
  | looked => exact Int.le_trans knows isLater
  | waiting | timedOut =>
    exact ⟨Nat.lt_of_lt_of_le knows.1 frame.allocated_le, (frame.names_eq knows.1).1.trans knows.2⟩
  | holding id =>
    obtain ⟨isAllocated, keyEq, fingerprintEq, notHolder⟩ := knows
    obtain ⟨sameKey, sameFingerprint⟩ := frame.names_eq isAllocated
    refine ⟨Nat.lt_of_lt_of_le isAllocated frame.allocated_le, sameKey.trans keyEq,
      sameFingerprint.trans fingerprintEq, ?_⟩
    have becomes := frame.becomes isAllocated fun isExcept => notExcept id isExcept rfl
    rcases becomes with same | ⟨cause, notByHolder, released⟩
    · rw [same]
      exact notHolder
    · rw [released, releaseNodeIdempotencyEntry]
      split_ifs
      · rintro _ ⟨⟩
        exact notByHolder
      · exact notHolder
  | started | answered | conflicted | cancelled | completed => trivial

structure Sound (system : IdempotencySystem Key Body) : Prop where
  store : system.store.Sound
  knows : ∀ {call request}, system.calls call = some request →
    Knows system.store system.clock request
  sole : ∀ {call other request second id}, system.calls call = some request →
    system.calls other = some second → request.stage = .holding id →
    second.stage = .holding id → call = other

def HeldOnlyBy (system : IdempotencySystem Key Body) (call id : Nat) : Prop :=
  ∀ other request, other ≠ call → system.calls other = some request → request.stage ≠ .holding id

section

variable (sound : system.Sound) {call id : Nat} {request : KeyedCall Key Body}

include sound

omit [DecidableEq Key] in
theorem Sound.move {store : IdempotencyStore Key Body} (storeSound : store.Sound)
    {except : Option Nat} (frame : system.store.Frame store except)
    {moved : KeyedCall Key Body} (knows : Knows store system.clock moved)
    (held : ∀ id, moved.stage = .holding id → system.HeldOnlyBy call id)
    (exceptHeld : ∀ id ∈ except, system.HeldOnlyBy call id) :
    (system.move store call moved).Sound where
  store := storeSound
  knows := by
    intro other request found
    by_cases isCall : other = call
    · subst isCall
      obtain rfl : moved = request := by simpa [IdempotencySystem.move] using found
      exact knows
    · have found : system.calls other = some request := by
        simpa [IdempotencySystem.move, isCall] using found
      exact (sound.knows found).frame frame (Int.le_refl _) fun id isExcept =>
        exceptHeld id isExcept other request isCall found
  sole := by
    intro first second request other id isFirst isSecond holds alsoHolds
    dsimp only [IdempotencySystem.move] at isFirst isSecond
    by_cases firstCall : first = call
    · by_cases secondCall : second = call
      · rw [firstCall, secondCall]
      · rw [firstCall, update_self] at isFirst
        rw [update_of_ne secondCall] at isSecond
        obtain rfl := some.inj isFirst
        exact absurd alsoHolds (held id holds second other secondCall isSecond)
    · rw [update_of_ne firstCall] at isFirst
      by_cases secondCall : second = call
      · rw [secondCall, update_self] at isSecond
        obtain rfl := some.inj isSecond
        exact absurd holds (held id alsoHolds first request firstCall isFirst)
      · rw [update_of_ne secondCall] at isSecond
        exact sound.sole isFirst isSecond holds alsoHolds

omit [DecidableEq Key] in
theorem Sound.around {store : IdempotencyStore Key Body} (storeSound : store.Sound)
    (frame : system.store.Frame store none) {clock : Int} (isLater : system.clock ≤ clock) :
    Sound { system with store := store, clock := clock } where
  store := storeSound
  knows := fun found => (sound.knows found).frame frame isLater nofun
  sole := sound.sole

theorem sound_lookUp (request : KeyedCall Key Body) (now : Int) (done : Bool) :
    let result := (system.store.gcLocked now).lookUpLocked request.key request.fingerprint done
    (system.move result.1 call { request with stage := result.2 }).Sound := by
  have gcSound := sound.store.gcLocked now
  have frame := system.store.frame_lookUp now request.key request.fingerprint done
  rw [IdempotencyStore.lookUpLocked] at frame ⊢
  split at frame
  · rename_i id isStored
    have stored := gcSound.stored isStored
    split_ifs at frame ⊢
    · exact sound.move gcSound frame trivial nofun nofun
    · exact sound.move gcSound frame trivial nofun nofun
    · exact sound.move gcSound frame ⟨stored.1, stored.2.1⟩ nofun nofun
  · rename_i isFree
    split_ifs at frame ⊢
    · exact sound.move gcSound frame trivial nofun nofun
    · refine sound.move (gcSound.create isFree _) frame ?_ ?_ nofun
      · refine ⟨Nat.lt_succ_self _, ?_⟩
        dsimp only [IdempotencyStore.create]
        rw [update_self]
        exact ⟨rfl, rfl, nofun⟩
      · -- The entry is new: nobody has a pointer to it.
        rintro _ ⟨⟩ other second - isSecond holds
        have knows := sound.knows isSecond
        rw [Knows, holds] at knows
        exact Nat.lt_irrefl _ knows.1

omit [DecidableEq Key] in
theorem Sound.ready_of_holding (found : system.calls call = some request)
    (holds : request.stage = .holding id) {key : Key}
    (isStored : system.store.entries key = some id) : (system.store.heap id).ready = true := by
  by_contra notReady
  have knows := sound.knows found
  rw [Knows, holds] at knows
  have completed := (sound.store.stored isStored).2.2 (by simpa using notReady)
  have notHolder := knows.2.2.2 .completed completed
  cases notHolder

end

/-! ## Steps -/

/-- A request moves on alone, or with the store, or the store or the clock changes by itself. -/
inductive Effect (system : IdempotencySystem Key Body) :
    IdempotencyEvent Key Body → IdempotencySystem Key Body → Prop
  | alone {event} (call : Nat) (moved : KeyedCall Key Body)
      (knows : system.Sound → Knows system.store system.clock moved)
      (notHolding : ∀ id, moved.stage ≠ .holding id) :
      Effect system event (system.move system.store call moved)
  | lookUp {event} (call : Nat) (request : KeyedCall Key Body) (now : Int) (done : Bool)
      (found : system.calls call = some request) (looked : request.stage = .looked now) :
      Effect system event
        (system.move
          ((system.store.gcLocked now).lookUpLocked request.key request.fingerprint done).1 call
          { request with
            stage := ((system.store.gcLocked now).lookUpLocked request.key request.fingerprint
              done).2 })
  | expire {event} (call : Nat) (key : Key) (id : Nat) (moved : KeyedCall Key Body)
      (isMoved : moved.stage = .started) :
      Effect system event (system.move (system.store.expireInflightEntry key id) call moved)
  | complete {event} (call : Nat) (request : KeyedCall Key Body) (id : Nat) (reply : Reply Body)
      (found : system.calls call = some request) (holds : request.stage = .holding id)
      (moved : KeyedCall Key Body) (isMoved : moved.stage = .completed) :
      Effect system event
        (system.move (system.store.complete request.key id reply system.clock) call moved)
  | tick (elapsed : Nat) :
      Effect system (.tick elapsed) { system with clock := system.clock + elapsed }
  | reset : Effect system .reset { system with store := system.store.reset }
  | close : Effect system .close { system with store := system.store.close }

variable {call : Nat} {request : KeyedCall Key Body} {event : IdempotencyEvent Key Body}

theorem effect_proceed (found : system.calls call = some request)
    (proceeds : system.proceed call request event = some next) : Effect system event next := by
  obtain ⟨key, fingerprint, stage⟩ := request
  cases event with
  | readClock =>
    cases stage <;> simp only [proceed, reduceCtorEq, some.injEq] at proceeds
    subst proceeds
    exact .alone call _ (fun _ => Int.le_refl _) nofun
  | lookUp _ done =>
    cases stage <;> simp only [proceed, reduceCtorEq, some.injEq] at proceeds
    subst proceeds
    exact .lookUp call _ _ done found rfl
  | wake =>
    cases stage <;> simp only [proceed, reduceCtorEq] at proceeds
    split_ifs at proceeds
    obtain rfl := some.inj proceeds
    exact .alone call _ (fun _ => trivial) nofun
  | timeOut =>
    cases stage <;> simp only [proceed, reduceCtorEq, some.injEq] at proceeds
    subst proceeds
    -- A request that waits has a pointer to an entry of its key.
    have knows (sound : system.Sound) := sound.knows found
    exact .alone call _ knows nofun
  | cancel =>
    cases stage <;> simp only [proceed, reduceCtorEq, some.injEq] at proceeds
    · subst proceeds
      exact .alone call _ (fun _ => trivial) nofun
    · subst proceeds
      exact .alone call _ (fun _ => trivial) nofun
  | expire =>
    cases stage <;> simp only [proceed, reduceCtorEq, some.injEq] at proceeds
    subst proceeds
    exact .expire call key _ _ rfl
  | complete _ reply =>
    cases stage <;> simp only [proceed, reduceCtorEq, some.injEq] at proceeds
    subst proceeds
    exact .complete call ⟨key, fingerprint, .holding _⟩ _ reply found rfl _ rfl
  | call | tick | reset | close => cases proceeds

theorem effect_step (steps : system.step event = some next) : Effect system event next := by
  cases event with
  | call call =>
    rw [step] at steps
    split_ifs at steps
    obtain rfl := some.inj steps
    exact .alone call _ (fun _ => trivial) nofun
  | readClock | lookUp | wake | timeOut | cancel | expire
  | complete =>
    obtain ⟨_, found, proceeds⟩ := bind_eq_some_iff.mp steps
    exact effect_proceed found proceeds
  | tick elapsed =>
    obtain rfl := some.inj steps
    exact .tick elapsed
  | reset =>
    obtain rfl := some.inj steps
    exact .reset
  | close =>
    obtain rfl := some.inj steps
    exact .close

theorem sound_step (sound : system.Sound) (steps : system.step event = some next) : next.Sound := by
  cases effect_step steps with
  | alone _ _ knows notHolding =>
    exact sound.move sound.store (.refl _) (knows sound)
      (fun id holds => absurd holds (notHolding id)) nofun
  | lookUp _ request now done => exact sound_lookUp sound request now done
  | expire _ key id _ isMoved =>
    refine sound.move (sound.store.expireInflightEntry key id)
      (system.store.frame_expireInflightEntry key id) ?_ ?_ nofun
    · rw [Knows, isMoved]
      trivial
    · intro _ holds
      rw [isMoved] at holds
      cases holds
  | complete _ request id reply found holds _ isMoved =>
    refine sound.move (sound.store.complete (sound.ready_of_holding found holds) reply _)
      (system.store.frame_complete request.key id reply system.clock) ?_ ?_ ?_
    · rw [Knows, isMoved]
      trivial
    · intro _ holds
      rw [isMoved] at holds
      cases holds
    · rintro _ ⟨⟩
      intro _ _ isOther isSecond alsoHolds
      exact isOther (sound.sole isSecond found alsoHolds holds)
  | tick =>
    exact sound.around sound.store (.refl _) (Int.le_add_of_nonneg_right (Int.natCast_nonneg _))
  | reset =>
    exact sound.around sound.store.reset (system.store.frame_releaseAll _ rfl) (Int.le_refl _)
  | close =>
    exact sound.around sound.store.close (system.store.frame_releaseAll _ rfl) (Int.le_refl _)

theorem frame_step (steps : system.step event = some next) :
    ∃ except, system.store.Frame next.store except := by
  cases effect_step steps with
  | alone | tick => exact ⟨none, .refl _⟩
  | lookUp _ request now done =>
    exact ⟨none, system.store.frame_lookUp now request.key request.fingerprint done⟩
  | expire _ key id => exact ⟨none, system.store.frame_expireInflightEntry key id⟩
  | complete _ request id reply =>
    exact ⟨some id, system.store.frame_complete request.key id reply system.clock⟩
  | reset | close => exact ⟨none, system.store.frame_releaseAll _ rfl⟩

theorem clock_step (steps : system.step event = some next) : system.clock ≤ next.clock := by
  cases effect_step steps with
  | tick => exact Int.le_add_of_nonneg_right (Int.natCast_nonneg _)
  | alone | lookUp | expire | complete | reset | close => exact Int.le_refl _

omit [DecidableEq Key] in
theorem sound_opened (ttl : Int) (nil : IdempotencyEntry Key Body) : (opened ttl nil).Sound where
  store := ⟨nofun, nofun, nofun⟩
  knows := nofun
  sole := nofun

end IdempotencySystem

end DeepNps.Node
