import Mathlib.Data.List.Basic

/-!
# Runs of partial transition functions

A step function is undefined on the events that a state does not enable; a run feeds it a
list of events.  The induction over runs is packaged here.
-/

namespace DeepNps.Runs

variable {State Event : Type*}

/-- The result is undefined as soon as an event is not enabled. -/
def execute (step : State → Event → Option State) : State → List Event → Option State
  | state, [] => some state
  | state, event :: events => (step state event).bind fun next => execute step next events

/-- Every event is taken from a state in which it is allowed. -/
def Meets (step : State → Event → Option State) (allowed : State → Event → Prop) :
    State → List Event → Prop
  | _, [] => True
  | state, event :: events =>
      allowed state event ∧ ∀ next, step state event = some next → Meets step allowed next events

variable {step : State → Event → Option State} {allowed : State → Event → Prop}

instance decidableMeets [∀ state event, Decidable (allowed state event)] :
    (state : State) → (events : List Event) → Decidable (Meets step allowed state events)
  | _, [] => .isTrue trivial
  | state, event :: events =>
      match stepEq : step state event with
      | none => decidable_of_iff (allowed state event) (by simp [Meets, stepEq])
      | some next =>
          have := decidableMeets next events
          decidable_of_iff (allowed state event ∧ Meets step allowed next events)
            (by simp [Meets, stepEq])

/-- A computation of which something can be evaluated, such as a run on fixed events. -/
theorem exists_of_any {Result : Type*} {result : Option Result} {holds : Result → Prop}
    [DecidablePred holds] (evaluated : (result.any fun value => decide (holds value)) = true) :
    ∃ value, result = some value ∧ holds value := by
  cases result with
  | none => cases evaluated
  | some value => exact ⟨value, rfl, of_decide_eq_true evaluated⟩

theorem execute_cons_eq_some {state last : State} {event : Event} {events : List Event} :
    execute step state (event :: events) = some last ↔
      ∃ next, step state event = some next ∧ execute step next events = some last := by
  simp [execute, Option.bind_eq_some_iff]

theorem execute_append (state : State) (first second : List Event) :
    execute step state (first ++ second) =
      (execute step state first).bind fun middle => execute step middle second := by
  induction first generalizing state with
  | nil => rfl
  | cons event _ ih =>
    cases stepEq : step state event with
    | none => simp [execute, stepEq]
    | some next => simpa [execute, stepEq] using ih next

/-- Events that lead back to where they started can be repeated. -/
theorem execute_cycle {state : State} {cycle : List Event}
    (returns : execute step state cycle = some state) (rounds : Nat) :
    execute step state (List.replicate rounds cycle).flatten = some state := by
  induction rounds with
  | zero => rfl
  | succ _ ih => simp [List.replicate_succ, execute_append, returns, ih]

theorem meets_of_always {state : State} {events : List Event}
    (always : ∀ event ∈ events, ∀ state, allowed state event) :
    Meets step allowed state events := by
  induction events generalizing state with
  | nil => trivial
  | cons event _ ih =>
    refine ⟨always event List.mem_cons_self state, ?_⟩
    intro _ _
    exact ih fun other isMember => always other (List.mem_cons_of_mem _ isMember)

theorem Meets.append {state : State} {first second : List Event}
    (meets : Meets step allowed state first)
    (rest : ∀ middle, execute step state first = some middle → Meets step allowed middle second) :
    Meets step allowed state (first ++ second) := by
  induction first generalizing state with
  | nil => exact rest state rfl
  | cons _ _ ih =>
    refine ⟨meets.1, ?_⟩
    intro next stepEq
    refine ih (meets.2 next stepEq) ?_
    intro middle reaches
    exact rest middle (execute_cons_eq_some.mpr ⟨next, stepEq, reaches⟩)

/-- The induction over runs: what every allowed event preserves holds in every
state that an allowed run reaches. -/
theorem invariant_of_meets (invariant : State → Prop)
    (preserved : ∀ state event next, invariant state → allowed state event →
      step state event = some next → invariant next)
    {state last : State} {events : List Event}
    (holds : invariant state) (meets : Meets step allowed state events)
    (reaches : execute step state events = some last) :
    invariant last := by
  induction events generalizing state with
  | nil =>
    cases reaches
    exact holds
  | cons event _ ih =>
    obtain ⟨next, stepEq, rest⟩ := execute_cons_eq_some.mp reaches
    exact ih (preserved state event next holds meets.1 stepEq) (meets.2 next stepEq) rest

theorem invariant_of_execute (invariant : State → Prop)
    (preserved : ∀ state event next, invariant state →
      step state event = some next → invariant next)
    {state last : State} {events : List Event}
    (holds : invariant state) (reaches : execute step state events = some last) :
    invariant last := by
  have meets : Meets step (fun _ _ => True) state events := meets_of_always fun _ _ _ => trivial
  exact invariant_of_meets invariant
    (fun state event next holds _ => preserved state event next holds) holds meets reaches

end DeepNps.Runs
