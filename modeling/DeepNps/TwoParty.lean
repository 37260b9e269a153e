import Mathlib.Logic.Basic

/-!
# Two parties

The values of two parties are fields, so that a state can be evaluated, and are reached by
side, so that what holds for one is stated once for both.
-/

namespace DeepNps

inductive Side where
  | left
  | right
  deriving DecidableEq, Repr

namespace Side

def other : Side → Side
  | left => right
  | right => left

@[simp]
theorem other_other (side : Side) : side.other.other = side := by
  cases side <;> rfl

theorem eq_or_eq_other (side party : Side) : party = side ∨ party = side.other := by
  cases side <;> cases party <;> simp [other]

end Side

structure Both (Value : Type*) where
  left : Value
  right : Value

namespace Both

variable {Value : Type*}

def get (both : Both Value) : Side → Value
  | .left => both.left
  | .right => both.right

def set (both : Both Value) (side : Side) (value : Value) : Both Value :=
  match side with
  | .left => { both with left := value }
  | .right => { both with right := value }

@[simp]
theorem get_set_self (both : Both Value) (side : Side) (value : Value) :
    (both.set side value).get side = value := by
  cases side <;> rfl

@[simp]
theorem get_set_other (both : Both Value) (side : Side) (value : Value) :
    (both.set side value).get side.other = both.get side.other := by
  cases side <;> rfl

@[simp]
theorem get_other_set (both : Both Value) (side : Side) (value : Value) :
    (both.set side.other value).get side = both.get side := by
  cases side <;> rfl

theorem forall_set {property : Side → Value → Prop} {both : Both Value} {side : Side}
    {value : Value} (here : property side value)
    (there : property side.other (both.get side.other)) (party : Side) :
    property party ((both.set side value).get party) := by
  rcases side.eq_or_eq_other party with rfl | rfl
  · rw [get_set_self]
    exact here
  · rw [get_set_other]
    exact there

theorem forall_set_set {Other : Type*} {relation : Value → Other → Prop} {first : Both Value}
    {second : Both Other} (related : ∀ party, relation (first.get party) (second.get party))
    {side : Side} {value : Value} {other : Other} (here : relation value other) (party : Side) :
    relation ((first.set side value).get party) ((second.set side other).get party) := by
  rcases side.eq_or_eq_other party with rfl | rfl
  · rw [get_set_self, get_set_self]
    exact here
  · rw [get_set_other, get_set_other]
    exact related _

end Both

end DeepNps
