import DeepNps.IdempotencyRequests

/-!
# A request with an idempotency key is executed once

The request that holds a key is the one whose entry is in the table, unless a wait that
timed out, `Reset` or `Close` took the entry out.
-/

namespace DeepNps.Node

open Function Option

variable {Key Body : Type} [DecidableEq Key]

namespace IdempotencyStore

variable {store : IdempotencyStore Key Body}

/-! ## A response that is stored -/

structure Caches (store : IdempotencyStore Key Body) (key : Key) (id : Nat)
    (entry : IdempotencyEntry Key Body) : Prop where
  stored : store.entries key = some id
  entry_eq : store.heap id = entry
  notReady : entry.ready = false

variable {key : Key} {id : Nat} {entry : IdempotencyEntry Key Body}

section

variable (caches : store.Caches key id entry)

include caches

omit [DecidableEq Key] in
theorem Caches.ready_eq : (store.heap id).ready = false := by
  rw [caches.entry_eq]
  exact caches.notReady

omit [DecidableEq Key] in
theorem Caches.gcLocked {now : Int} (notExpired : entry.expired now = false) :
    (store.gcLocked now).Caches key id entry :=
  { caches with
    stored := by
      refine filter_eq_some_iff.mpr ⟨caches.stored, ?_⟩
      rw [caches.entry_eq, notExpired]
      rfl }

theorem Caches.lookUpLocked (sound : store.Sound) (other : Key) (fingerprint : String)
    (done : Bool) :
    (store.lookUpLocked other fingerprint done).1.Caches key id entry := by
  rw [IdempotencyStore.lookUpLocked]
  split
  · split_ifs <;> exact caches
  · rename_i isFree
    split_ifs
    · exact caches
    · have isOther : key ≠ other := by
        rintro rfl
        rw [caches.stored] at isFree
        cases isFree
      have isOld : id ≠ store.allocated := Nat.ne_of_lt (sound.stored caches.stored).1
      exact { caches with
        stored := (update_of_ne isOther ..).trans caches.stored
        entry_eq := (update_of_ne isOld ..).trans caches.entry_eq }

theorem Caches.drop {other : Key} {dropped : Nat} (isStored : store.entries other = some dropped)
    (isReady : (store.heap dropped).ready = true) (cause : Release) :
    (store.drop other dropped cause).Caches key id entry := by
  have isOtherEntry : id ≠ dropped := by
    rintro rfl
    rw [caches.ready_eq] at isReady
    cases isReady
  have isOtherKey : key ≠ other := by
    rintro rfl
    exact isOtherEntry (some.inj (caches.stored.symm.trans isStored))
  exact { caches with
    stored := (update_of_ne isOtherKey ..).trans caches.stored
    entry_eq := (update_of_ne isOtherEntry ..).trans caches.entry_eq }

theorem Caches.expireInflightEntry (other : Key) (expired : Nat) :
    (store.expireInflightEntry other expired).Caches key id entry := by
  rw [IdempotencyStore.expireInflightEntry]
  split_ifs with isInflight
  · exact caches.drop isInflight.1 isInflight.2 .timedOut
  · exact caches

theorem Caches.complete {other : Key} {completed : Nat}
    (isHeld : store.entries other = some completed → (store.heap completed).ready = true)
    (reply : Reply Body) (now : Int) :
    (store.complete other completed reply now).Caches key id entry := by
  rw [IdempotencyStore.complete]
  split_ifs with isOther notCacheable
  · exact caches
  · have isStored := not_not.mp isOther
    exact caches.drop isStored (isHeld isStored) .failed
  · have isReady := isHeld (not_not.mp isOther)
    have isOtherEntry : id ≠ completed := by
      rintro rfl
      rw [caches.ready_eq] at isReady
      cases isReady
    exact { caches with
      entry_eq := (update_of_ne isOtherEntry ..).trans caches.entry_eq }

omit [DecidableEq Key] in
theorem Caches.close : store.close.Caches key id entry where
  stored := by
    refine filter_eq_some_iff.mpr ⟨caches.stored, ?_⟩
    rw [caches.ready_eq]
    rfl
  entry_eq := by
    change store.releaseAll .closed id = entry
    rw [releaseAll, releaseNodeIdempotencyEntry, caches.ready_eq]
    exact (ite_self _).trans caches.entry_eq
  notReady := caches.notReady

end

theorem caches_complete (isStored : store.entries key = some id) {reply : Reply Body}
    (cacheable : reply.cacheable = true) (now : Int) :
    (store.complete key id reply now).Caches key id (store.completedEntry id reply now) := by
  rw [IdempotencyStore.complete, if_neg (not_not.mpr isStored), if_neg (by simp [cacheable])]
  exact ⟨isStored, update_self .., ready_release _ _⟩

omit [DecidableEq Key] in
theorem completedEntry_fields {fingerprint : String}
    (fingerprintEq : (store.heap id).fingerprint = fingerprint)
    (noHttp : (store.heap id).httpResp = none) (noWs : (store.heap id).wsResp = none)
    (reply : Reply Body) (now : Int) :
    (store.completedEntry id reply now).expiresAt = some (now + store.TTL) ∧
      (store.completedEntry id reply now).fingerprint = fingerprint ∧
      (store.completedEntry id reply now).httpResp = reply.httpResp ∧
      (store.completedEntry id reply now).wsResp = reply.wsResp := by
  rw [completedEntry, releaseNodeIdempotencyEntry]
  cases reply with
  | http => split_ifs <;> exact ⟨rfl, fingerprintEq, rfl, noWs⟩
  | ws => split_ifs <;> exact ⟨rfl, fingerprintEq, noHttp, rfl⟩

end IdempotencyStore

namespace IdempotencySystem

variable {system next : IdempotencySystem Key Body}

def IsNotReset (_ : IdempotencySystem Key Body) : IdempotencyEvent Key Body → Prop
  | .reset => False
  | _ => True

variable {key : Key} {id : Nat} {entry : IdempotencyEntry Key Body}
  {event : IdempotencyEvent Key Body} {events : List (IdempotencyEvent Key Body)}

theorem caches_step (sound : system.Sound) (caches : system.store.Caches key id entry)
    {deadline : Int} (expiresAtEq : entry.expiresAt = some deadline)
    (inTime : system.clock ≤ deadline) (notReset : system.IsNotReset event)
    (steps : system.step event = some next) : next.store.Caches key id entry := by
  cases effect_step steps with
  | alone | tick => exact caches
  | lookUp _ _ now done found looked =>
    -- The clock was read before, so that the entry is not collected.
    have read := sound.knows found
    rw [Knows, looked] at read
    have notExpired : entry.expired now = false := by
      have notLater : ¬ deadline < now := Int.not_lt.mpr (Int.le_trans read inTime)
      simp [IdempotencyEntry.expired, expiresAtEq, notLater]
    exact (caches.gcLocked notExpired).lookUpLocked (sound.store.gcLocked now) _ _ done
  | expire _ other expired => exact caches.expireInflightEntry other expired
  | complete _ _ _ reply found holds =>
    exact caches.complete (sound.ready_of_holding found holds) reply system.clock
  | reset => exact notReset.elim
  | close => exact caches.close

theorem clock_of_execute (runs : Runs.execute step system events = some next) :
    system.clock ≤ next.clock :=
  Runs.invariant_of_execute _ (fun _ _ _ before steps => Int.le_trans before (clock_step steps))
    (Int.le_refl _) runs

theorem caches_of_execute (sound : system.Sound) (caches : system.store.Caches key id entry)
    {deadline : Int} (expiresAtEq : entry.expiresAt = some deadline)
    {later : IdempotencySystem Key Body} (meets : Runs.Meets step IsNotReset system events)
    (runs : Runs.execute step system events = some later) (inTime : later.clock ≤ deadline) :
    later.Sound ∧ later.store.Caches key id entry := by
  induction events generalizing system with
  | nil =>
    obtain rfl := some.inj runs
    exact ⟨sound, caches⟩
  | cons _ _ ih =>
    obtain ⟨next, steps, rest⟩ := Runs.execute_cons_eq_some.mp runs
    have nextSound := sound_step sound steps
    -- Clocks only advance, so that every state of the run is in time.
    have nextInTime := Int.le_trans (clock_of_execute rest) inTime
    have nextCaches := caches_step sound caches expiresAtEq
      (Int.le_trans (clock_step steps) nextInTime) meets.1 steps
    exact ih nextSound nextCaches (meets.2 next steps) rest

theorem lookUp_of_caches (caches : system.store.Caches key id entry) {call : Nat}
    {fingerprint : String} {now : Int}
    (found : system.calls call = some ⟨key, fingerprint, .looked now⟩)
    (notExpired : entry.expired now = false) (done : Bool) :
    (system.step (.lookUp call done)).map (fun next => next.calls call) =
      some (some ⟨key, fingerprint,
        if entry.fingerprint = fingerprint then .answered entry.httpResp entry.wsResp
        else .conflicted⟩) := by
  have collected := caches.gcLocked notExpired
  have lookedUp : ((system.store.gcLocked now).lookUpLocked key fingerprint done).2 =
      if entry.fingerprint = fingerprint then .answered entry.httpResp entry.wsResp
      else .conflicted := by
    rw [IdempotencyStore.lookUpLocked, collected.stored]
    dsimp only
    rw [collected.entry_eq, caches.notReady]
    by_cases same : entry.fingerprint = fingerprint
    · simp [same]
    · simp [same]
  simp [step, found, proceed, move, lookedUp]

/-! ## Holders -/

/-- The entry of a request was taken from it: by a request that had waited for too long, by
`Reset` or by `Close`. -/
def Displaced (system : IdempotencySystem Key Body) (id : Nat) : Prop :=
  (system.store.heap id).released = some .timedOut ∨
    (system.store.heap id).released = some .reset ∨
    (system.store.heap id).released = some .closed

omit [DecidableEq Key] in
theorem Sound.stored_or_displaced (sound : system.Sound) {call : Nat} {fingerprint : String}
    (found : system.calls call = some ⟨key, fingerprint, .holding id⟩) :
    system.store.entries key = some id ∨ system.Displaced id := by
  obtain ⟨isAllocated, keyEq, -, notHolder⟩ := sound.knows found
  cases isReady : (system.store.heap id).ready with
  | true =>
    have inflight := sound.store.inflight isAllocated isReady
    rw [keyEq] at inflight
    exact .inl inflight.1
  | false =>
    refine .inr ?_
    obtain ⟨cause, isReleased⟩ := ne_none_iff_exists'.mp
      (sound.store.ended isAllocated isReady).2
    rw [Displaced, isReleased]
    have notByHolder := notHolder cause isReleased
    cases cause with
    | completed | failed => cases notByHolder
    | timedOut => exact .inl rfl
    | reset => exact .inr (.inl rfl)
    | closed => exact .inr (.inr rfl)

theorem closed_of_left (sound : system.Sound) (steps : system.step event = some next)
    (isStored : system.store.entries key = some id) (hasLeft : next.store.entries key ≠ some id) :
    (next.store.heap id).closed = true := by
  obtain ⟨_, frame⟩ := frame_step steps
  have stored := sound.store.stored isStored
  have isAllocated := Nat.lt_of_lt_of_le stored.1 frame.allocated_le
  have nextSound := sound_step sound steps
  cases isReady : (next.store.heap id).ready with
  | true =>
    have inflight := (nextSound.store.inflight isAllocated isReady).1
    rw [(frame.names_eq stored.1).1, stored.2.1] at inflight
    exact absurd inflight hasLeft
  | false => exact (nextSound.store.ended isAllocated isReady).1

/-- Two requests hold a key only if the entry of one was taken by a wait that timed out, by
`Reset` or by `Close`; a cached response answers its key until it expires or the store is reset; a
completion after a timeout changes nothing; and nobody waits for an entry that left the table
unless its channel is closed. -/
theorem executes_once (ttl : Int) (nil : IdempotencyEntry Key Body)
    {events : List (IdempotencyEvent Key Body)} {system : IdempotencySystem Key Body}
    (runs : Runs.execute step (opened ttl nil) events = some system) :
    (∀ call other key fingerprint fingerprint' id id', call ≠ other →
      system.calls call = some ⟨key, fingerprint, .holding id⟩ →
      system.calls other = some ⟨key, fingerprint', .holding id'⟩ →
      system.Displaced id ∨ system.Displaced id') ∧
    (∀ call key fingerprint id reply completed events later,
      system.calls call = some ⟨key, fingerprint, .holding id⟩ →
      system.store.entries key = some id → reply.cacheable = true →
      system.step (.complete call reply) = some completed →
      Runs.execute step completed events = some later →
      Runs.Meets step IsNotReset completed events →
      later.clock ≤ system.clock + system.store.TTL →
      ∀ other fingerprint' now done,
        later.calls other = some ⟨key, fingerprint', .looked now⟩ →
        (later.step (.lookUp other done)).map (fun next => next.calls other) =
          some (some ⟨key, fingerprint',
            if fingerprint = fingerprint' then .answered reply.httpResp reply.wsResp
            else .conflicted⟩)) ∧
    (∀ call key fingerprint id reply next,
      system.calls call = some ⟨key, fingerprint, .holding id⟩ →
      (system.store.heap id).released = some .timedOut →
      system.step (.complete call reply) = some next → next.store = system.store) ∧
    (∀ event next key id, system.step event = some next →
      system.store.entries key = some id → next.store.entries key ≠ some id →
      (next.store.heap id).closed = true) ∧
    (∀ call key fingerprint id, system.calls call = some ⟨key, fingerprint, .waiting id⟩ →
      (system.store.entries key = some id ∧ (system.store.heap id).ready = true) ∨
        (system.store.heap id).closed = true) := by
  have sound : system.Sound := Runs.invariant_of_execute _
    (fun _ _ _ sound steps => sound_step sound steps) (sound_opened ttl nil) runs
  refine ⟨?_, ?_, ?_, ?_, ?_⟩
  · intro _ _ _ _ _ _ _ isOther found found'
    rcases sound.stored_or_displaced found with isStored | isDisplaced
    · rcases sound.stored_or_displaced found' with isStored' | isDisplaced'
      · obtain rfl := some.inj (isStored.symm.trans isStored')
        exact absurd (sound.sole found found' rfl rfl) isOther
      · exact .inr isDisplaced'
    · exact .inl isDisplaced
  · intro call key fingerprint id reply completed _ later found isStored cacheable completes
      runsOn notReset inTime other fingerprint' now done looked
    have completedSound := sound_step sound completes
    obtain rfl : system.move (system.store.complete key id reply system.clock) call
        ⟨key, fingerprint, .completed⟩ = completed := by
      simpa [step, found, proceed] using completes
    have caches := IdempotencyStore.caches_complete isStored cacheable system.clock
    obtain ⟨isAllocated, -, holderFingerprint, -⟩ := sound.knows found
    have isReady := sound.ready_of_holding found rfl isStored
    obtain ⟨-, -, noHttp, noWs⟩ := sound.store.inflight isAllocated isReady
    obtain ⟨expiresAtEq, fingerprintEq, httpEq, wsEq⟩ :=
      IdempotencyStore.completedEntry_fields holderFingerprint noHttp noWs reply system.clock
    obtain ⟨laterSound, laterCaches⟩ :=
      caches_of_execute completedSound caches expiresAtEq notReset runsOn inTime
    have read : now ≤ later.clock := laterSound.knows looked
    have notExpired : (system.store.completedEntry id reply system.clock).expired now = false := by
      have notLater : ¬ system.clock + system.store.TTL < now := by omega
      simp [IdempotencyEntry.expired, expiresAtEq, notLater]
    rw [lookUp_of_caches laterCaches looked notExpired done, fingerprintEq, httpEq, wsEq]
  · intro call key fingerprint id reply next found isReleased completes
    obtain rfl : system.move (system.store.complete key id reply system.clock) call
        ⟨key, fingerprint, .completed⟩ = next := by
      simpa [step, found, proceed] using completes
    refine if_pos fun isStored => ?_
    have stored := sound.store.stored isStored
    cases isReady : (system.store.heap id).ready with
    | true =>
      have inflight := sound.store.inflight stored.1 isReady
      rw [isReleased] at inflight
      cases inflight.2.1
    | false =>
      have completed := stored.2.2 isReady
      rw [isReleased] at completed
      cases completed
  · intro _ _ _ _ steps isStored hasLeft
    exact closed_of_left sound steps isStored hasLeft
  · intro _ _ _ id found
    obtain ⟨isAllocated, keyEq⟩ := sound.knows found
    cases isReady : (system.store.heap id).ready with
    | true =>
      have inflight := sound.store.inflight isAllocated isReady
      rw [keyEq] at inflight
      exact .inl ⟨inflight.1, rfl⟩
    | false => exact .inr (sound.store.ended isAllocated isReady).1

def openedUnit : IdempotencySystem Unit Nat :=
  opened 0 ⟨(), "", none, false, true, none, none, none⟩

def sentTwice : List (IdempotencyEvent Unit Nat) :=
  [.call 0 () "POST /a", .readClock 0, .lookUp 0 false, .call 1 () "POST /a", .readClock 1,
    .lookUp 1 false]

/-- The one that waited is answered with the response of the first. -/
theorem executes_once_sentTwice :
    ∃ system completed later, Runs.execute step openedUnit sentTwice = some system ∧
      system.calls 1 = some ⟨(), "POST /a", .waiting 0⟩ ∧
      system.step (.complete 0 (.http (some ⟨200, 7⟩))) = some completed ∧
      Runs.execute step completed [.wake 1, .tick 1000, .readClock 1] = some later ∧
      (later.step (.lookUp 1 false)).map (fun next => next.calls 1) =
        some (some ⟨(), "POST /a", .answered (some ⟨200, 7⟩) none⟩) := by
  obtain ⟨system, runs, holds, waits, isStored, continues⟩ :
      ∃ system, Runs.execute step openedUnit sentTwice = some system ∧
        system.calls 0 = some ⟨(), "POST /a", .holding 0⟩ ∧
        system.calls 1 = some ⟨(), "POST /a", .waiting 0⟩ ∧ system.store.entries () = some 0 ∧
        (((system.step (.complete 0 (.http (some ⟨200, 7⟩)))).bind fun completed =>
          Runs.execute step completed [.wake 1, .tick 1000, .readClock 1]).any fun later =>
            later.calls 1 = some ⟨(), "POST /a", .looked 1000⟩ ∧
              later.clock ≤ system.clock + system.store.TTL) = true :=
    Runs.exists_of_any (by decide +kernel)
  obtain ⟨later, runsOn, looked, inTime⟩ := Runs.exists_of_any continues
  obtain ⟨completed, completes, runsOn⟩ := bind_eq_some_iff.mp runsOn
  have notReset : Runs.Meets step IsNotReset completed [.wake 1, .tick 1000, .readClock 1] :=
    ⟨trivial, fun _ _ => ⟨trivial, fun _ _ => ⟨trivial, fun _ _ => trivial⟩⟩⟩
  have answered := (executes_once 0 _ runs).2.1 0 () "POST /a" 0 (.http (some ⟨200, 7⟩)) completed
    _ later holds isStored rfl completes runsOn notReset inTime 1 "POST /a" 1000 false looked
  rw [if_pos rfl] at answered
  exact ⟨system, completed, later, runs, waits, completes, runsOn, answered⟩

def resetWhileHeld : List (IdempotencyEvent Unit Nat) :=
  [.call 0 () "POST /a", .readClock 0, .lookUp 0 false, .reset, .call 1 () "POST /a",
    .readClock 1, .lookUp 1 false]

/-- Both requests are executed at the same time, and no wait has timed out. -/
theorem two_holders_after_reset :
    ∃ system, Runs.execute step openedUnit resetWhileHeld = some system ∧
      system.calls 0 = some ⟨(), "POST /a", .holding 0⟩ ∧
      system.calls 1 = some ⟨(), "POST /a", .holding 1⟩ ∧
      (system.store.heap 0).released ≠ some .timedOut ∧
      (system.store.heap 1).released ≠ some .timedOut := by
  exact Runs.exists_of_any (by decide +kernel)

end IdempotencySystem

end DeepNps.Node
