import DeepNps.LabelledRuns
import Mathlib.Algebra.Ring.Int.Defs
import Mathlib.Algebra.Ring.Nat

/-!
# The connection counters

Connections are counted in an `int32` by loops around a compare-and-swap.  A step of a call is
one atomic operation on the counter.
-/

namespace DeepNps.File.ConnCounter

/-- Where a connection is: in `acquireRuntimeConn`, refused, held, in `cutRuntimeConn` or cut.
The value that the call has loaded is kept. -/
inductive Stage
  | acquiring
  | repairing (current : Int)
  | adding (current : Int)
  | refused
  | held
  | releasing
  | cutting (current : Int)
  | cut
  deriving DecidableEq

def Stage.holds : Stage → Bool
  | .held | .releasing | .cutting _ => true
  | _ => false

def int32 (value : Int) : Int := (value + 2 ^ 31) % 2 ^ 32 - 2 ^ 31

/-- `acquireRuntimeConn` with a value that is not negative, up to its last swap. -/
def checkLimit (limit current : Int) : Stage :=
  if limit ≠ 0 ∧ limit ≤ current then .refused else .adding current

/-- The next atomic operation of a call: the counter after it, and where the call is then.  The
next step of a held connection is the call that cuts it. -/
def Stage.advance (limit counter : Int) : Stage → Option (Int × Stage)
  | .acquiring =>
      some (counter, if counter < 0 then .repairing counter else checkLimit limit counter)
  | .repairing current =>
      some (if counter = current then (0, checkLimit limit 0) else (counter, .acquiring))
  | .adding current =>
      some (if counter = current then (int32 (current + 1), .held) else (counter, .acquiring))
  | .held => some (counter, .releasing)
  | .releasing => some (counter, .cutting counter)
  | .cutting current =>
      some (if counter = current then (if current ≤ 0 then 0 else current - 1, .cut)
        else (counter, .releasing))
  | .refused | .cut => none

structure State where
  counter : Int
  calls : List Stage
  deriving DecidableEq

def idle : State := ⟨0, []⟩

/-- A connection begins to be acquired, or takes its next step. -/
inductive Event
  | acquire
  | advance (call : Nat)

def step (limit : Int) (state : State) : Event → Option State
  | .acquire => some { state with calls := state.calls ++ [.acquiring] }
  | .advance call =>
      state.calls[call]?.bind fun stage =>
        (stage.advance limit state.counter).map fun (counter, stage) =>
          { counter := counter, calls := state.calls.set call stage }

/-- What a call has loaded and checked. -/
def Stage.Checked (limit : Int) : Stage → Prop
  | .repairing current => current < 0
  | .adding current => current < limit
  | _ => True

structure Sound (limit : Int) (state : State) : Prop where
  counted : state.counter = state.calls.countP Stage.holds
  bounded : state.counter ≤ limit
  checked : ∀ stage ∈ state.calls, stage.Checked limit

variable {limit counter after : Int} {stage next : Stage} {state last : State} {event : Event}

theorem checked_checkLimit (isPos : 0 < limit) (current : Int) :
    (checkLimit limit current).Checked limit ∧ (checkLimit limit current).holds = false ∧
      (checkLimit limit current = .refused → limit ≤ current) := by
  rw [checkLimit]
  split_ifs with atLimit
  · exact ⟨trivial, rfl, fun _ => atLimit.2⟩
  · refine ⟨?_, rfl, nofun⟩
    rw [Stage.Checked]
    omega

theorem Stage.advance_spec (isPos : 0 < limit) (fits : limit < 2 ^ 31) (nonneg : 0 ≤ counter)
    (bounded : counter ≤ limit) (checked : stage.Checked limit)
    (isHeld : stage.holds = true → 0 < counter)
    (advances : stage.advance limit counter = some (after, next)) :
    after + (if stage.holds then 1 else 0) = counter + (if next.holds then 1 else 0) ∧
      after ≤ limit ∧ next.Checked limit ∧ (next = .refused → counter = limit) := by
  cases stage with
  | refused | cut => cases advances
  | acquiring =>
    obtain ⟨checkedNext, notHeld, refuses⟩ := checked_checkLimit isPos counter
    rw [Stage.advance, if_neg (by omega)] at advances
    cases advances
    exact ⟨by rw [notHeld]; rfl, bounded, checkedNext,
      fun isRefused => Int.le_antisymm bounded (refuses isRefused)⟩
  | repairing current =>
    have isNeg : current < 0 := checked
    rw [Stage.advance, if_neg (by omega)] at advances
    cases advances
    exact ⟨rfl, bounded, trivial, nofun⟩
  | adding current =>
    have below : current < limit := checked
    rw [Stage.advance] at advances
    split_ifs at advances with isCurrent
    · cases advances
      rw [int32]
      refine ⟨?_, by omega, trivial, nofun⟩
      simp only [Stage.holds, if_true, Bool.false_eq_true, if_false]
      omega
    · cases advances
      exact ⟨rfl, bounded, trivial, nofun⟩
  | held | releasing =>
    cases advances
    exact ⟨rfl, bounded, trivial, nofun⟩
  | cutting current =>
    have positive := isHeld rfl
    rw [Stage.advance] at advances
    split_ifs at advances with isCurrent
    · omega
    · cases advances
      simp only [Stage.holds, if_true, Bool.false_eq_true, if_false]
      exact ⟨by omega, by omega, trivial, nofun⟩
    · cases advances
      exact ⟨rfl, bounded, trivial, nofun⟩

theorem Sound.advance (isPos : 0 < limit) (fits : limit < 2 ^ 31) (sound : Sound limit state)
    {call : Nat} (isStage : state.calls[call]? = some stage)
    (advances : stage.advance limit state.counter = some (after, next)) :
    Sound limit ⟨after, state.calls.set call next⟩ ∧ (next = .refused → state.counter = limit) := by
  obtain ⟨inRange, isCall⟩ := List.getElem?_eq_some_iff.mp isStage
  have isMember : stage ∈ state.calls := List.mem_of_getElem? isStage
  have isCounted := sound.counted
  have heldCounted : (if stage.holds then 1 else 0) ≤ state.calls.countP Stage.holds := by
    split_ifs with isHeld
    · exact List.countP_pos_iff.mpr ⟨stage, isMember, isHeld⟩
    · exact Nat.zero_le _
  obtain ⟨balance, bounded, checked, refuses⟩ := Stage.advance_spec isPos fits (by omega)
    sound.bounded (sound.checked stage isMember)
    (fun isHeld => by rw [if_pos isHeld] at heldCounted; omega) advances
  refine ⟨⟨?_, bounded, fun other isOther => ?_⟩, refuses⟩
  · have counts := List.countP_set (p := Stage.holds) (a := next) inRange
    rw [isCall] at counts
    dsimp only
    split_ifs at balance counts heldCounted <;> omega
  · rcases List.mem_or_eq_of_mem_set isOther with isOld | rfl
    · exact sound.checked other isOld
    · exact checked

theorem Sound.step (isPos : 0 < limit) (fits : limit < 2 ^ 31) (sound : Sound limit state)
    (stepEq : step limit state event = some last) : Sound limit last := by
  cases event with
  | acquire =>
    cases stepEq
    refine ⟨?_, sound.bounded, ?_⟩
    · simp [sound.counted, Stage.holds]
    · simpa [Stage.Checked, or_imp, forall_and] using sound.checked
  | advance call =>
    simp only [ConnCounter.step, Option.bind_eq_some_iff, Option.map_eq_some_iff] at stepEq
    obtain ⟨stage, isStage, ⟨after, next⟩, advances, rfl⟩ := stepEq
    exact (sound.advance isPos fits isStage advances).1

/-- With a limit that the counter can hold, the counter is the number of the connections that
are held and within the limit, and a call is refused only while the counter is at the limit. -/
theorem counter_within_limit (isPos : 0 < limit) (fits : limit < 2 ^ 31) {events : List Event}
    (reaches : Runs.execute (step limit) idle events = some state) :
    state.counter = state.calls.countP Stage.holds ∧ 0 ≤ state.counter ∧ state.counter ≤ limit ∧
      ∀ (call : Nat) stage after, state.calls[call]? = some stage →
        stage.advance limit state.counter = some (after, .refused) → state.counter = limit := by
  have sound : Sound limit state := Runs.invariant_of_execute _
    (fun _ _ _ sound stepEq => sound.step isPos fits stepEq)
    ⟨rfl, Int.le_of_lt isPos, by simp [idle]⟩ reaches
  have isCounted := sound.counted
  exact ⟨isCounted, by omega, sound.bounded, fun call stage after isStage advances =>
    (sound.advance isPos fits isStage advances).2 rfl⟩

theorem counter_within_limit_two : ∃ state,
    Runs.execute (step 1) idle [.acquire, .acquire, .advance 0, .advance 1, .advance 0, .advance 1,
      .advance 1] = some state ∧ state.calls = [.held, .refused] ∧
      state.counter = state.calls.countP Stage.holds :=
  have reaches : Runs.execute (step 1) idle [.acquire, .acquire, .advance 0, .advance 1, .advance 0,
    .advance 1, .advance 1] = some ⟨1, [.held, .refused]⟩ := by decide
  ⟨_, reaches, rfl, (counter_within_limit (by decide) (by decide) reaches).1⟩

theorem acquires_in_turn {count : Nat} (fits : count ≤ 2 ^ 31) : ∃ events calls,
    Runs.execute (step (2 ^ 31)) idle events = some ⟨int32 count, calls⟩ ∧
      calls.length = count ∧ calls.countP Stage.holds = count := by
  induction count with
  | zero => exact ⟨[], [], rfl, rfl, rfl⟩
  | succ count ih =>
    obtain ⟨events, calls, reaches, isLength, isCounted⟩ := ih (by omega)
    refine ⟨events ++ [.acquire, .advance count, .advance count], calls ++ [.held], ?_, ?_, ?_⟩
    · have isCount : int32 count = count := by
        rw [int32]
        omega
      have nonneg : ¬ (count : Int) < 0 := by omega
      have below : ¬ (2147483648 : Int) ≤ count := by omega
      rw [Runs.execute_append, reaches, isCount]
      simp [Runs.execute, step, Stage.advance, checkLimit, isLength, nonneg, below]
    · simp [isLength]
    · simp [isCounted, Stage.holds]

/-- A limit beyond the counter is not kept: the counter wraps around. -/
theorem counter_wraps_around : ∃ events state,
    Runs.execute (step (2 ^ 31)) idle events = some state ∧
      state.calls.countP Stage.holds = 2 ^ 31 ∧ state.counter = -2 ^ 31 := by
  obtain ⟨events, calls, reaches, -, isCounted⟩ := acquires_in_turn (Nat.le_refl (2 ^ 31))
  exact ⟨events, _, reaches, isCounted, show int32 2147483648 = -2 ^ 31 by decide⟩

end DeepNps.File.ConnCounter
