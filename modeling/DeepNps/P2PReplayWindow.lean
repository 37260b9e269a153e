import DeepNps.BestChoice
import DeepNps.ExpiringCache
import DeepNps.LabelledRuns
import DeepNps.Table
import Mathlib.Data.List.Sort
import Mathlib.Data.String.Basic

/-!
# The replay window

A window forgets a nonce when its packet is too old to be accepted again, but also when it
holds too many of them.
-/

namespace DeepNps.P2P

open List

structure ReplaySeen where
  nonce : String
  ts : Int
  deriving DecidableEq

def ReplaySeen.less (seen other : ReplaySeen) : Bool :=
  if seen.ts ≠ other.ts then seen.ts < other.ts else seen.nonce < other.nonce

namespace ReplaySeen

def age (seen : ReplaySeen) : Int ×ₗ String := toLex (seen.ts, seen.nonce)

def NotAfter (seen other : ReplaySeen) : Prop := ¬ other.less seen

instance : DecidableRel NotAfter :=
  fun seen other => inferInstanceAs (Decidable (¬ other.less seen))

theorem notAfter_iff {seen other : ReplaySeen} : seen.NotAfter other ↔ seen.age ≤ other.age := by
  rw [NotAfter, ← not_lt, age, age, BestChoice.toLex_lt_iff, less]
  split_ifs <;> simp_all

instance : Std.Total NotAfter :=
  ⟨fun seen other => by
    rw [notAfter_iff, notAfter_iff]
    exact le_total seen.age other.age⟩

instance : IsTrans ReplaySeen NotAfter :=
  ⟨fun first second third => by
    rw [notAfter_iff, notAfter_iff, notAfter_iff]
    exact le_trans⟩

end ReplaySeen

/-- `time.Duration.Milliseconds`, of a duration in nanoseconds. -/
def milliseconds (duration : Int) : Int := duration.tdiv 1000000

def defaultReplayWindow : Int := 30 * 1000000000

def defaultReplayWindowMaxEntries : Int := 512

structure ReplayWindow where
  maxAge : Int
  maxEntries : Int
  observed : Table ReplaySeen.nonce

namespace ReplayWindow

def newReplayWindow (maxAge maxEntries : Int) : ReplayWindow where
  maxAge := if maxAge ≤ 0 then defaultReplayWindow else maxAge
  maxEntries := if maxEntries ≤ 0 then defaultReplayWindowMaxEntries else maxEntries
  observed := Table.empty

def new (maxAge : Int) : ReplayWindow := newReplayWindow maxAge defaultReplayWindowMaxEntries

def windowMs (window : ReplayWindow) : Int := milliseconds window.maxAge

def setObserved (window : ReplayWindow) (observed : Table ReplaySeen.nonce) : ReplayWindow :=
  { window with observed }

def expire (window : ReplayWindow) (expireBefore : Int) : ReplayWindow :=
  window.setObserved (window.observed.filter fun seen => ¬ seen.ts < expireBefore)

def len (window : ReplayWindow) : Int := window.observed.records.length

def oldest (window : ReplayWindow) : List ReplaySeen :=
  window.observed.records.insertionSort ReplaySeen.NotAfter

def overflow (window : ReplayWindow) : Int := window.len - window.maxEntries + 1

def pruneOverflow (window : ReplayWindow) : ReplayWindow :=
  if window.maxEntries ≤ 0 ∨ window.len < window.maxEntries then window
  else
    window.setObserved ((window.oldest.take window.overflow.toNat).foldl
      (fun observed seen => observed.delete seen.nonce) window.observed)

def inWindow (window : ReplayWindow) (now timestampMs : Int) (nonce : String) : Bool :=
  ¬ (nonce = "" ∨ timestampMs ≤ 0) ∧
    ¬ (timestampMs < now - window.windowMs ∨ now + window.windowMs < timestampMs)

def remember (window : ReplayWindow) (seen : ReplaySeen) : ReplayWindow :=
  window.setObserved (window.observed.store seen)

def observe (window : ReplayWindow) (timestampMs : Int) (nonce : String) : Bool × ReplayWindow :=
  if (window.observed.get nonce).isSome then (false, window)
  else (true, window.remember ⟨nonce, timestampMs⟩)

def accept (window : ReplayWindow) (now timestampMs : Int) (nonce : String) : Bool × ReplayWindow :=
  if window.inWindow now timestampMs nonce then
    (window.expire (now - window.windowMs)).pruneOverflow.observe timestampMs nonce
  else (false, window)

def remembered (window : ReplayWindow) : ExpiringCache.Cache String :=
  fun nonce => (window.observed.get nonce).map ReplaySeen.ts

/-- The nonces that are not too old leave room for another one. -/
def HasRoom (window : ReplayWindow) (now : Int) : Prop :=
  (window.expire (now - window.windowMs)).len < window.maxEntries

instance (window : ReplayWindow) (now : Int) : Decidable (window.HasRoom now) :=
  inferInstanceAs (Decidable (_ < _))

section Rules

variable {window : ReplayWindow} {now timestampMs : Int} {nonce : String}

theorem remembered_expire (horizon : Int) :
    (window.expire horizon).remembered = ExpiringCache.purge window.remembered horizon := by
  funext nonce
  rw [remembered, ExpiringCache.purge, remembered, expire, setObserved, Table.get_filter]
  cases window.observed.get nonce with
  | none => rfl
  | some seen => by_cases isOld : seen.ts < horizon <;> simp [Option.filter, isOld]

theorem remembered_remember (seen : ReplaySeen) :
    (window.remember seen).remembered =
      Function.update window.remembered seen.nonce (some seen.ts) := by
  funext nonce
  rw [remembered, remember, setObserved, Table.get_store, Function.update_apply]
  split_ifs with isNonce
  · rfl
  · rfl

theorem pruneOverflow_of_lt (room : window.len < window.maxEntries) :
    window.pruneOverflow = window := by
  rw [pruneOverflow, if_pos (.inr room)]

end Rules

end ReplayWindow

/-- A packet as `Accept` sees it, with the time at which it does. -/
structure Arrival where
  now : Int
  timestampMs : Int
  nonce : String
  deriving DecidableEq

def Arrival.seen (arrival : Arrival) : ReplaySeen where
  nonce := arrival.nonce
  ts := arrival.timestampMs

namespace ReplayWindow

/-- The packets accepted so far leave nothing to replay at the time of the clock. -/
structure NotReplayed (window : ReplayWindow) (clock : Int) (accepted : List (String × Int)) :
    Prop where
  nodup : accepted.Nodup
  remembers : ExpiringCache.Remembers window.windowMs window.remembered clock accepted

def record (accepts : Bool) (arrival : Arrival) (accepted : List (String × Int)) :
    List (String × Int) :=
  if accepts then (arrival.nonce, arrival.timestampMs) :: accepted else accepted

/-- A packet that reaches the lock finds room for its nonce. -/
def RoomFor (window : ReplayWindow) (arrival : Arrival) : Prop :=
  window.inWindow arrival.now arrival.timestampMs arrival.nonce = true → window.HasRoom arrival.now

instance (window : ReplayWindow) (arrival : Arrival) : Decidable (window.RoomFor arrival) :=
  inferInstanceAs (Decidable (_ → _))

section Step

variable {window : ReplayWindow} {clock : Int} {accepted : List (String × Int)} {arrival : Arrival}

theorem NotReplayed.expire (sound : window.NotReplayed clock accepted) {now : Int}
    (later : clock ≤ now) :
    (window.expire (now - window.windowMs)).NotReplayed now accepted := by
  refine ⟨sound.nodup, ?_⟩
  rw [remembered_expire]
  exact sound.remembers.purge later

theorem NotReplayed.observe (sound : window.NotReplayed arrival.now accepted)
    (notOld : arrival.now ≤ arrival.timestampMs + window.windowMs) :
    (window.observe arrival.timestampMs arrival.nonce).2.NotReplayed arrival.now
      (record (window.observe arrival.timestampMs arrival.nonce).1 arrival accepted) := by
  rw [ReplayWindow.observe]
  cases isSeen : (window.observed.get arrival.nonce).isSome with
  | true => exact sound
  | false =>
    have isForgotten : window.remembered arrival.nonce = none := by
      simpa [remembered] using isSeen
    refine ⟨nodup_cons.mpr ⟨?_, sound.nodup⟩, ?_⟩
    · intro isReplay
      have expired := sound.remembers.expired isForgotten isReplay
      omega
    · rw [if_neg Bool.false_ne_true, remembered_remember]
      exact sound.remembers.insert isForgotten arrival.timestampMs

theorem NotReplayed.accept (sound : window.NotReplayed clock accepted)
    (later : clock ≤ arrival.now) (room : window.RoomFor arrival) :
    (window.accept arrival.now arrival.timestampMs arrival.nonce).2.NotReplayed arrival.now
      (record (window.accept arrival.now arrival.timestampMs arrival.nonce).1 arrival
        accepted) := by
  cases isInWindow : window.inWindow arrival.now arrival.timestampMs arrival.nonce with
  | false =>
    rw [ReplayWindow.accept, if_neg (by simp [isInWindow])]
    exact ⟨sound.nodup, sound.remembers.wait later⟩
  | true =>
    rw [ReplayWindow.accept, if_pos isInWindow, pruneOverflow_of_lt (room isInWindow)]
    rw [inWindow, decide_eq_true_iff] at isInWindow
    have notOld : arrival.now ≤ arrival.timestampMs + window.windowMs := by omega
    exact (sound.expire later).observe notOld

end Step

end ReplayWindow

/-- A window with the time of its last packet and the packets that it accepted. -/
structure Receiver where
  window : ReplayWindow
  clock : Int
  accepted : List (String × Int)

namespace Receiver

def new (window : ReplayWindow) (clock : Int) : Receiver where
  window
  clock
  accepted := []

/-- The window decides about a packet; the clock does not go back. -/
def step (receiver : Receiver) (arrival : Arrival) : Option Receiver :=
  if arrival.now < receiver.clock then none
  else
    let (accepts, window) := receiver.window.accept arrival.now arrival.timestampMs arrival.nonce
    some
      { window
        clock := arrival.now
        accepted := ReplayWindow.record accepts arrival receiver.accepted }

theorem step_of_accept {receiver : Receiver} {arrival : Arrival} {accepts : Bool}
    {window : ReplayWindow} (later : receiver.clock ≤ arrival.now)
    (decides : receiver.window.accept arrival.now arrival.timestampMs arrival.nonce =
      (accepts, window)) :
    receiver.step arrival =
      some ⟨window, arrival.now, ReplayWindow.record accepts arrival receiver.accepted⟩ := by
  rw [step, if_neg (Int.not_lt.mpr later), decides]

end Receiver

end DeepNps.P2P
