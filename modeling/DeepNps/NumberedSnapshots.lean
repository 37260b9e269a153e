import Mathlib.Data.List.Basic

/-!
# Snapshots handed on outside of a lock

A numbered snapshot is taken with each change and handed on later, in any order; one that
finds a newer number is dropped.  Then the last one handed on is of the final value.
-/

namespace DeepNps

open List

/-- The last number, the snapshots of calls that wait for the second lock, the one of the
call that has it and has found its number to be the last one, and the snapshot handed on
last. -/
structure NumberedSnapshots (Value : Type) where
  seq : Nat
  pending : List (Nat × Value)
  writing : Option (Nat × Value)
  stored : Option Value

namespace NumberedSnapshots

variable {Value : Type} {snapshots next : NumberedSnapshots Value} {value : Value}

def take (snapshots : NumberedSnapshots Value) (value : Value) : NumberedSnapshots Value :=
  { snapshots with
    seq := snapshots.seq + 1
    pending := (snapshots.seq + 1, value) :: snapshots.pending }

/-- A call that waits gets the second lock and compares its number. -/
def check (snapshots : NumberedSnapshots Value) (index : Nat) : Option (NumberedSnapshots Value) :=
  if snapshots.writing.isSome then none
  else
    snapshots.pending[index]?.map fun entry =>
      { snapshots with
        pending := snapshots.pending.eraseIdx index
        writing := if entry.1 < snapshots.seq then none else some entry }

def store (snapshots : NumberedSnapshots Value) : Option (NumberedSnapshots Value) :=
  snapshots.writing.map fun entry => { snapshots with writing := none, stored := some entry.2 }

/-- The last snapshot is one of the value. -/
structure Current (value : Value) (snapshots : NumberedSnapshots Value) : Prop where
  pending_le : ∀ entry ∈ snapshots.pending,
    entry.1 ≤ snapshots.seq ∧ (entry.1 = snapshots.seq → entry.2 = value)
  writing_le : ∀ entry ∈ snapshots.writing,
    entry.1 ≤ snapshots.seq ∧ (entry.1 = snapshots.seq → entry.2 = value)
  newest : (∃ entry ∈ snapshots.pending, entry.1 = snapshots.seq) ∨
    (∃ entry ∈ snapshots.writing, entry.1 = snapshots.seq) ∨
    (snapshots.writing = none ∧ snapshots.stored = some value)

section

variable (current : snapshots.Current value)

include current

theorem Current.take (changed : Value) : (snapshots.take changed).Current changed := by
  refine ⟨fun entry isEntry => ?_, fun entry isEntry => ?_, .inl ⟨_, mem_cons_self, rfl⟩⟩
  · rcases mem_cons.mp isEntry with rfl | isOld
    · exact ⟨Nat.le_refl _, fun _ => rfl⟩
    · have bounded := (current.pending_le entry isOld).1
      change entry.1 ≤ snapshots.seq + 1 ∧ (entry.1 = snapshots.seq + 1 → entry.2 = changed)
      omega
  · have bounded := (current.writing_le entry isEntry).1
    change entry.1 ≤ snapshots.seq + 1 ∧ (entry.1 = snapshots.seq + 1 → entry.2 = changed)
    omega

theorem Current.check {index : Nat} (checked : snapshots.check index = some next) :
    next.Current value := by
  rw [NumberedSnapshots.check] at checked
  split_ifs at checked with isFree
  obtain ⟨entry, isEntry, rfl⟩ := Option.map_eq_some_iff.mp checked
  have notWriting : snapshots.writing = none := by simpa using isFree
  have entry_le := current.pending_le entry (mem_of_getElem? isEntry)
  refine ⟨fun other isOther => current.pending_le other (mem_of_mem_eraseIdx isOther), ?_, ?_⟩
  · dsimp only
    split_ifs with isOld
    · nofun
    · rintro _ ⟨⟩
      exact entry_le
  · dsimp only
    split_ifs with isOld
    · rcases current.newest with ⟨newest, isNewest, numberEq⟩ | ⟨newest, isWriting, -⟩ | stored
      · refine .inl ⟨newest, ?_, numberEq⟩
        obtain ⟨place, isPlace⟩ := getElem?_of_mem isNewest
        refine mem_eraseIdx_iff_getElem?.mpr ⟨place, ?_, isPlace⟩
        rintro rfl
        rw [isEntry] at isPlace
        obtain rfl := Option.some.inj isPlace
        omega
      · rw [notWriting] at isWriting
        cases isWriting
      · exact .inr (.inr ⟨rfl, stored.2⟩)
    · exact .inr (.inl ⟨entry, rfl, by omega⟩)

theorem Current.store (storedNext : snapshots.store = some next) : next.Current value := by
  obtain ⟨entry, isWriting, rfl⟩ := Option.map_eq_some_iff.mp storedNext
  have entry_le := current.writing_le entry isWriting
  refine ⟨current.pending_le, nofun, ?_⟩
  by_cases isNewest : entry.1 = snapshots.seq
  · exact .inr (.inr ⟨rfl, congrArg some (entry_le.2 isNewest)⟩)
  · rcases current.newest with inPending | ⟨newest, isEntry, numberEq⟩ | ⟨notWriting, -⟩
    · exact .inl inPending
    · rw [isWriting] at isEntry
      obtain rfl := Option.some.inj isEntry
      exact absurd numberEq isNewest
    · rw [notWriting] at isWriting
      cases isWriting

theorem Current.stored_eq (noneWaits : snapshots.pending = [])
    (noneWrites : snapshots.writing = none) : snapshots.stored = some value := by
  rcases current.newest with ⟨entry, isEntry, -⟩ | ⟨entry, isEntry, -⟩ | ⟨-, stored⟩
  · rw [noneWaits] at isEntry
    cases isEntry
  · rw [noneWrites] at isEntry
    cases isEntry
  · exact stored

end

end NumberedSnapshots

end DeepNps
