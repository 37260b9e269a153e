import Mathlib.Data.List.Basic

/-!
# Broadcasts that are made once

The thread that claims a broadcast writes to one recipient after the other and may give
up.  No recipient gets the message twice, and those not written to are those it has left.
-/

namespace DeepNps

open Function

/-- Whether it was claimed, how often each recipient was written to, and what a thread has
left. -/
structure Broadcast (Thread Recipient : Type*) where
  claimed : Bool
  sent : Recipient → Nat
  left : Thread → Option (List Recipient)

namespace Broadcast

variable {Thread Recipient : Type*}

/-- At most one thread makes the broadcast, and those that it has left are those that it has
not written to. -/
structure Once (broadcast : Broadcast Thread Recipient) : Prop where
  fresh_sent : broadcast.claimed = false → ∀ recipient, broadcast.sent recipient = 0
  fresh_left : broadcast.claimed = false → ∀ thread, broadcast.left thread = none
  single : ∀ thread other, broadcast.left thread ≠ none → broadcast.left other ≠ none →
    thread = other
  nodup : ∀ thread rest, broadcast.left thread = some rest → rest.Nodup
  unsent : ∀ thread rest, broadcast.left thread = some rest →
    ∀ recipient ∈ rest, broadcast.sent recipient = 0
  covered : ∀ thread rest, broadcast.left thread = some rest →
    ∀ recipient, recipient ∈ rest ∨ broadcast.sent recipient = 1
  sent_le_one : ∀ recipient, broadcast.sent recipient ≤ 1

variable {before after : Broadcast Thread Recipient} {thread other : Thread}
  {recipient : Recipient} {recipients rest : List Recipient}

theorem Once.left_of_ne (once : before.Once) (isLeft : before.left thread = some rest)
    (differs : other ≠ thread) : before.left other = none := by
  by_contra isLeftToo
  exact differs (once.single other thread isLeftToo (by simp [isLeft]))

theorem Once.sent_of_left_nil (once : before.Once) (isLeft : before.left thread = some [])
    (recipient : Recipient) : before.sent recipient = 1 := by
  obtain isMember | isSent := once.covered thread [] isLeft recipient
  · cases isMember
  · exact isSent

variable [DecidableEq Thread]

def claim (broadcast : Broadcast Thread Recipient) (thread : Thread)
    (recipients : List Recipient) : Broadcast Thread Recipient :=
  { broadcast with
    claimed := true, left := update broadcast.left thread (some recipients) }

def leave (broadcast : Broadcast Thread Recipient) (thread : Thread) : Broadcast Thread Recipient :=
  { broadcast with left := update broadcast.left thread none }

theorem left_claim : (before.claim thread recipients).left other =
    if other = thread then some recipients else before.left other :=
  update_apply ..

theorem left_leave : (before.leave thread).left other =
    if other = thread then none else before.left other :=
  update_apply ..

theorem Once.claim (once : before.Once) (fresh : before.claimed = false)
    (nodup : recipients.Nodup) (everybody : ∀ recipient, recipient ∈ recipients) :
    (before.claim thread recipients).Once := by
  have isLeft : ∀ other rest, (before.claim thread recipients).left other = some rest →
      other = thread ∧ rest = recipients := by
    intro _ _
    rw [left_claim, once.fresh_left fresh]
    split_ifs with same
    · rintro ⟨⟩
      exact ⟨same, rfl⟩
    · rintro ⟨⟩
  exact {
    fresh_sent := nofun
    fresh_left := nofun
    single := by grind [left_claim, once.fresh_left fresh]
    nodup := fun other rest holds => (isLeft other rest holds).2 ▸ nodup
    unsent := fun _ _ _ someone _ => once.fresh_sent fresh someone
    covered := fun other rest holds someone =>
      .inl ((isLeft other rest holds).2 ▸ everybody someone)
    sent_le_one := once.sent_le_one }

theorem Once.leave (once : before.Once) : (before.leave thread).Once := by
  have wasLeft : ∀ other rest, (before.leave thread).left other = some rest →
      before.left other = some rest := by
    intro _ _ isLeft
    rw [left_leave] at isLeft
    split_ifs at isLeft
    exact isLeft
  exact {
    fresh_sent := once.fresh_sent
    fresh_left := by
      intro fresh _
      rw [left_leave, once.fresh_left fresh, ite_self]
    single := by grind [left_leave, once.single]
    nodup := fun other rest isLeft => once.nodup other rest (wasLeft other rest isLeft)
    unsent := fun other rest isLeft => once.unsent other rest (wasLeft other rest isLeft)
    covered := fun other rest isLeft => once.covered other rest (wasLeft other rest isLeft)
    sent_le_one := once.sent_le_one }

variable [DecidableEq Recipient]

def write (broadcast : Broadcast Thread Recipient) (thread : Thread) (recipient : Recipient)
    (rest : List Recipient) : Broadcast Thread Recipient :=
  { broadcast with
    sent := update broadcast.sent recipient (broadcast.sent recipient + 1),
    left := update broadcast.left thread (some rest) }

theorem left_write : (before.write thread recipient rest).left other =
    if other = thread then some rest else before.left other :=
  update_apply ..

theorem sent_write {someone : Recipient} : (before.write thread recipient rest).sent someone =
    if someone = recipient then before.sent recipient + 1 else before.sent someone :=
  update_apply ..

theorem Once.write (once : before.Once) (isLeft : before.left thread = some (recipient :: rest)) :
    (before.write thread recipient rest).Once := by
  have unsent := once.unsent thread _ isLeft
  have nodup := once.nodup thread _ isLeft
  have covered := once.covered thread _ isLeft
  have atMostOne := once.sent_le_one
  have claimed : before.claimed ≠ false := by
    intro fresh
    cases (once.fresh_left fresh thread).symm.trans isLeft
  have others : ∀ other ≠ thread, before.left other = none := fun other => once.left_of_ne isLeft
  exact {
    fresh_sent := fun fresh => absurd fresh claimed
    fresh_left := fun fresh => absurd fresh claimed
    single := by grind [left_write]
    nodup := by grind [left_write]
    unsent := by grind [left_write, sent_write]
    covered := by grind [left_write, sent_write]
    sent_le_one := by grind [sent_write] }

inductive Step (before : Broadcast Thread Recipient) : Broadcast Thread Recipient → Prop
  | same : Step before before
  | claims (thread : Thread) (recipients : List Recipient)
      (fresh : before.claimed = false) (nodup : recipients.Nodup)
      (everybody : ∀ recipient, recipient ∈ recipients) :
      Step before (before.claim thread recipients)
  | writes (thread : Thread) (recipient : Recipient) (rest : List Recipient)
      (isLeft : before.left thread = some (recipient :: rest)) :
      Step before (before.write thread recipient rest)
  | leaves (thread : Thread) : Step before (before.leave thread)

theorem Once.step (once : before.Once) (step : before.Step after) : after.Once := by
  cases step with
  | same => exact once
  | claims _ _ fresh nodup everybody => exact once.claim fresh nodup everybody
  | writes _ _ _ isLeft => exact once.write isLeft
  | leaves => exact once.leave

end Broadcast

end DeepNps
