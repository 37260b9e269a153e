import Mathlib.Data.List.Perm.Basic

/-!
# Sets of first-in first-out lanes

A multi-lane queue is a set of FIFO queues when, lane by lane, what has entered is what
has left followed by what is waiting.
-/

namespace DeepNps.LaneFifo

open Function List

variable {Lane Item : Type*} [DecidableEq Lane] (lane : Item → Lane)

def inLane (items : List Item) (which : Lane) : List Item :=
  items.filter fun item => lane item = which

/-- Lane by lane, the items that entered are those that left followed by those
still waiting. -/
def Fifo (entered left : List Item) (waiting : Lane → List Item) : Prop :=
  ∀ which, inLane lane entered which = inLane lane left which ++ waiting which

variable {lane}

theorem inLane_append (first second : List Item) (which : Lane) :
    inLane lane (first ++ second) which = inLane lane first which ++ inLane lane second which := by
  simp [inLane]

theorem inLane_singleton (item : Item) (which : Lane) :
    inLane lane [item] which = if lane item = which then [item] else [] := by
  by_cases same : lane item = which <;> simp [inLane, same]

variable {entered left items : List Item} {waiting later : Lane → List Item}

theorem Fifo.enter {item : Item} (fifo : Fifo lane entered left waiting)
    (laterEq : later = update waiting (lane item) (waiting (lane item) ++ [item])) :
    Fifo lane (entered ++ [item]) left later := by
  intro which
  rw [inLane_append, fifo which, inLane_singleton, laterEq]
  by_cases same : lane item = which
  · subst same
    simp
  · simp [same, update_of_ne (Ne.symm same)]

theorem Fifo.leave {rest : List Item} {item : Item} (fifo : Fifo lane entered left waiting)
    (front : waiting (lane item) = item :: rest)
    (laterEq : later = update waiting (lane item) rest) :
    Fifo lane entered (left ++ [item]) later := by
  intro which
  rw [inLane_append, fifo which, inLane_singleton, laterEq]
  by_cases same : lane item = which
  · subst same
    simp [front]
  · simp [same, update_of_ne (Ne.symm same)]

theorem Fifo.perm (fifo : Fifo lane entered left waiting)
    (holds : ∀ which, inLane lane items which = waiting which) : entered.Perm (left ++ items) := by
  classical
  rw [perm_iff_count]
  intro item
  have counted (items : List Item) :
      (inLane lane items (lane item)).count item = items.count item := by
    simp [inLane, count_filter]
  rw [← counted entered, ← counted (left ++ items), fifo (lane item), inLane_append,
    holds (lane item)]

theorem inLane_eq_nil {which : Lane} (absent : ∀ item ∈ items, lane item ≠ which) :
    inLane lane items which = [] := by
  simpa [inLane, filter_eq_nil_iff] using absent

theorem inLane_eq_self {which : Lane} (all : ∀ item ∈ items, lane item = which) :
    inLane lane items which = items := by
  simpa [inLane, filter_eq_self] using all

/-- Concatenating the contents of distinct lanes puts each lane's items, and
nothing else, back into that lane. -/
theorem inLane_flatMap {Key : Type*} [DecidableEq Key] {laneOf : Key → Lane}
    (injective : Function.Injective laneOf) {contents : Key → List Item} {keys : List Key}
    (nodup : keys.Nodup) (home : ∀ key, ∀ item ∈ contents key, lane item = laneOf key)
    (key : Key) :
    inLane lane (keys.flatMap contents) (laneOf key) = if key ∈ keys then contents key else [] := by
  induction keys with
  | nil => simp [inLane]
  | cons first others ih =>
    obtain ⟨absent, othersNodup⟩ := nodup_cons.mp nodup
    rw [flatMap_cons, inLane_append, ih othersNodup]
    by_cases same : key = first
    · subst same
      simp [inLane_eq_self (home key), absent]
    · have others : ∀ item ∈ contents first, lane item ≠ laneOf key := by
        intro item member equal
        exact same (injective (equal.symm.trans (home first item member)))
      simp [inLane_eq_nil others, same]

end DeepNps.LaneFifo
