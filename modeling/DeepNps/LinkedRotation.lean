import Mathlib.Data.List.Nodup

/-!
# Intrusive doubly linked lists

The nodes of an intrusive list carry their own neighbour pointers; `Lists` says which
sequence such a structure stands for.
-/

namespace DeepNps

/-- End pointers and neighbour pointers of a doubly linked list of keys. -/
structure Rotation (Key : Type*) where
  head : Option Key
  tail : Option Key
  prev : Key → Option Key
  next : Key → Option Key

open Rotation List

namespace Rotation

variable {Key : Type*}

def empty : Rotation Key where
  head := none
  tail := none
  prev := fun _ => none
  next := fun _ => none

section Operations

variable [DecidableEq Key]

def append (links : Rotation Key) (key : Key) : Rotation Key where
  head := match links.tail with
    | some _ => links.head
    | none => some key
  tail := some key
  prev := Function.update links.prev key links.tail
  next := match links.tail with
    | some last => Function.update (Function.update links.next key none) last (some key)
    | none => Function.update links.next key none

def detach (links : Rotation Key) (key : Key) : Rotation Key where
  head := match links.prev key with
    | some _ => links.head
    | none => links.next key
  tail := match links.next key with
    | some _ => links.tail
    | none => links.prev key
  prev := Function.update
    (match links.next key with
      | some after => Function.update links.prev after (links.prev key)
      | none => links.prev) key none
  next := Function.update
    (match links.prev key with
      | some before => Function.update links.next before (links.next key)
      | none => links.next) key none

end Operations

/-- The ends are those of `keys`, and the pointers of a member lead to its neighbours. -/
structure Lists (links : Rotation Key) (keys : List Key) : Prop where
  nodup : keys.Nodup
  head_eq : links.head = keys.head?
  tail_eq : links.tail = keys.getLast?
  linked : ∀ before key after, keys = before ++ key :: after →
    links.prev key = before.getLast? ∧ links.next key = after.head?

theorem empty_lists : (empty : Rotation Key).Lists [] where
  nodup := nodup_nil
  head_eq := rfl
  tail_eq := rfl
  linked := by simp

variable {keys before : List Key}

private theorem eq_append_of_getLast? {last : Key} (lastEq : keys.getLast? = some last) :
    ∃ front, keys = front ++ [last] := by
  refine ⟨keys.dropLast, ?_⟩
  exact (dropLast_append_getLast? last lastEq).symm

private theorem rest_nil_of_last {rest : List Key} {key : Key}
    (nodup : (before ++ key :: rest).Nodup) (isLast : (before ++ key :: rest).getLast? = some key) :
    rest = [] := by
  cases rest with
  | nil => rfl
  | cons other others =>
    have lastEq : (before ++ key :: other :: others).getLast? = (other :: others).getLast? := by
      simp [getLast?_append, getLast?_cons]
    have inRest : key ∈ other :: others := mem_of_getLast? (lastEq ▸ isLast)
    exact absurd inRest (nodup_cons.mp (nodup_append.mp nodup).2.1).1

private theorem split_snoc {after : List Key} {key fresh : Key}
    (split : keys ++ [fresh] = before ++ key :: after) :
    (after = [] ∧ before = keys ∧ key = fresh) ∨
      ∃ rest, after = rest ++ [fresh] ∧ keys = before ++ key :: rest := by
  rcases eq_nil_or_concat after with rfl | ⟨rest, last, rfl⟩
  · left
    obtain ⟨same, sameKey⟩ := append_inj' split rfl
    simp only [cons.injEq, and_true] at sameKey
    exact ⟨rfl, same.symm, sameKey.symm⟩
  · right
    have regrouped : keys ++ [fresh] = (before ++ key :: rest) ++ [last] := by
      simpa using split
    obtain ⟨same, sameLast⟩ := append_inj' regrouped rfl
    simp only [cons.injEq, and_true] at sameLast
    exact ⟨rest, by simp [sameLast], same⟩

section Operations

variable [DecidableEq Key] {links : Rotation Key}

theorem Lists.append {keys : List Key} {fresh : Key} (lists : links.Lists keys)
    (absent : fresh ∉ keys) : (links.append fresh).Lists (keys ++ [fresh]) := by
  cases tailEq : keys.getLast? with
  | none =>
    have isEmpty : keys = [] := getLast?_eq_none_iff.mp tailEq
    subst isEmpty
    have noTail : links.tail = none := lists.tail_eq
    refine ⟨by simp, by simp [Rotation.append, noTail], by simp [Rotation.append], ?_⟩
    intro _ _ _ split
    obtain ⟨rfl, rfl, rfl⟩ | ⟨rest, -, impossible⟩ := split_snoc split
    · simp [Rotation.append, noTail]
    · simp at impossible
  | some last =>
    have someTail : links.tail = some last := lists.tail_eq.trans tailEq
    obtain ⟨_, keysEq⟩ := eq_append_of_getLast? tailEq
    have lastMem : last ∈ keys := by simp [keysEq]
    refine ⟨?_, ?_, by simp [Rotation.append], ?_⟩
    · rw [nodup_append]
      exact ⟨lists.nodup, by simp, by
        rintro key keyMem _ (_ | _) rfl
        · exact absent keyMem
        · contradiction⟩
    · simp [Rotation.append, someTail, lists.head_eq, keysEq]
    · intro before key _ split
      obtain ⟨rfl, rfl, rfl⟩ | ⟨rest, rfl, keysSplit⟩ := split_snoc split
      · have different : key ≠ last := fun same => absent (same ▸ lastMem)
        simp [Rotation.append, someTail, tailEq, different]
      · have keyMem : key ∈ keys := by simp [keysSplit]
        have notFresh : key ≠ fresh := fun same => absent (same ▸ keyMem)
        obtain ⟨prevEq, nextEq⟩ := lists.linked before key rest keysSplit
        by_cases isLast : key = last
        · -- the old tail is the only member whose forward pointer moves
          have restNil : rest = [] := rest_nil_of_last (keysSplit ▸ lists.nodup)
            (by rw [← keysSplit, tailEq, isLast])
          subst restNil isLast
          simp [Rotation.append, someTail, notFresh, prevEq]
        · have headEq : (rest ++ [fresh]).head? = rest.head? := by
            cases rest with
            | nil =>
              have := tailEq
              rw [keysSplit] at this
              simp at this
              exact absurd this isLast
            | cons => rfl
          rw [headEq]
          simp [Rotation.append, someTail, notFresh, isLast, prevEq, nextEq]

theorem Lists.detach_head {key : Key} {back : List Key} (lists : links.Lists (key :: back)) :
    (links.detach key).Lists back := by
  obtain ⟨prevEq, nextEq⟩ := lists.linked [] key back rfl
  obtain ⟨keyNotBack, backNodup⟩ := nodup_cons.mp lists.nodup
  refine ⟨backNodup, by simp [detach, prevEq, nextEq], ?_, ?_⟩
  · cases back with
    | nil => simp [detach, prevEq, nextEq]
    | cons => simp [detach, nextEq, lists.tail_eq, getLast?_cons]
  · intro before member after split
    have memberNe : member ≠ key := fun same => keyNotBack (by simp [split, same])
    obtain ⟨memberPrev, memberNext⟩ := lists.linked (key :: before) member after (by simp [split])
    refine ⟨?_, by simpa [detach, memberNe, prevEq] using memberNext⟩
    -- only the first of the members left gets a new predecessor
    cases before with
    | nil => simp [detach, memberNe, prevEq, nextEq, split]
    | cons first others =>
      have firstNe : member ≠ first := by
        intro same
        rw [split, same] at backNodup
        simp at backNodup
      simp only [detach, Function.update_of_ne memberNe, nextEq, split, cons_append,
        head?_cons, Function.update_of_ne firstNe, memberPrev]
      simp [getLast?_cons]

end Operations

end Rotation

end DeepNps
