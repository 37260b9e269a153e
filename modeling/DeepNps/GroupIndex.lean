import Mathlib.Data.Finset.Image
import Mathlib.Data.List.Sort

/-!
# Group indexes

A map from each group to its members, represented by the set of its pairs.
-/

namespace DeepNps

structure GroupIndex (Group Member : Type) where
  pairs : Finset (Group × Member)
  deriving DecidableEq

namespace GroupIndex

variable {Group Member : Type} [DecidableEq Group] [DecidableEq Member]

def empty : GroupIndex Group Member where
  pairs := ∅

def add (index : GroupIndex Group Member) (group : Group) (member : Member) :
    GroupIndex Group Member where
  pairs := insert (group, member) index.pairs

def remove (index : GroupIndex Group Member) (group : Group) (member : Member) :
    GroupIndex Group Member where
  pairs := index.pairs.erase (group, member)

def removeMember (index : GroupIndex Group Member) (member : Member) : GroupIndex Group Member where
  pairs := index.pairs.filter fun pair => pair.2 ≠ member

def members (index : GroupIndex Group Member) (group : Group) : Finset Member :=
  (index.pairs.filter fun pair => pair.1 = group).image Prod.snd

variable {index : GroupIndex Group Member} {group group' : Group} {member member' : Member}

theorem mem_members : member ∈ index.members group ↔ (group, member) ∈ index.pairs := by
  simp [members]

@[simp]
theorem mem_members_empty : member ∉ (empty : GroupIndex Group Member).members group := by
  simp [mem_members, empty]

@[simp]
theorem mem_members_add :
    member ∈ (index.add group' member').members group ↔
      (group = group' ∧ member = member') ∨ member ∈ index.members group := by
  simp [mem_members, add]

@[simp]
theorem mem_members_remove :
    member ∈ (index.remove group' member').members group ↔
      ¬ (group = group' ∧ member = member') ∧ member ∈ index.members group := by
  simp [mem_members, remove]

@[simp]
theorem mem_members_removeMember :
    member ∈ (index.removeMember member').members group ↔
      member ∈ index.members group ∧ member ≠ member' := by
  simp [mem_members, removeMember]

end GroupIndex

section Ascending

variable {Member : Type} [LinearOrder Member]

def ascending (members : Finset Member) : List Member :=
  Quotient.liftOn members.1 (List.insertionSort (· ≤ ·)) fun first second perm => by
    refine List.Perm.eq_of_pairwise' (List.pairwise_insertionSort _ _)
      (List.pairwise_insertionSort _ _) ?_
    apply ((List.perm_insertionSort _ first).trans perm).trans
    exact (List.perm_insertionSort _ second).symm

@[simp]
theorem mem_ascending {members : Finset Member} {member : Member} :
    member ∈ ascending members ↔ member ∈ members := by
  obtain ⟨list, _⟩ := members
  induction list using Quotient.inductionOn with
  | h list => exact (List.perm_insertionSort _ list).mem_iff

theorem nodup_ascending (members : Finset Member) : (ascending members).Nodup := by
  obtain ⟨list, nodup⟩ := members
  induction list using Quotient.inductionOn with
  | h list => exact (List.perm_insertionSort _ list).nodup_iff.mpr nodup

end Ascending

end DeepNps
