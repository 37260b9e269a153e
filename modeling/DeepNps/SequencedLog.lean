import Mathlib.Data.List.DropRight
import Mathlib.Data.List.Pairwise

/-!
# Lists in the order of a number

Cuts of a list of numbered entries that meet are joined, and reading from a bounded window
loses nothing if the window goes back far enough.
-/

namespace DeepNps.Sequenced

open List

variable {Entry : Type} (number : Entry → Int)

def Ordered (entries : List Entry) : Prop :=
  entries.Pairwise fun earlier later => number earlier < number later

def between (low high : Int) (entries : List Entry) : List Entry :=
  entries.filter fun entry => low < number entry ∧ number entry ≤ high

def above (low : Int) (entries : List Entry) : List Entry :=
  entries.filter fun entry => low < number entry

variable {number} {entries : List Entry} {low mid high : Int}

theorem between_self : between number low low entries = [] := by
  refine filter_eq_nil_iff.mpr fun entry _ => ?_
  simp only [decide_eq_true_eq]
  omega

theorem between_eq_above (bounded : ∀ entry ∈ entries, number entry ≤ high) :
    between number low high entries = above number low entries := by
  refine filter_congr fun entry isEntry => ?_
  simp [bounded entry isEntry]

theorem above_eq_self (isAbove : ∀ entry ∈ entries, low < number entry) :
    above number low entries = entries :=
  filter_eq_self.mpr fun entry isEntry => by simpa using isAbove entry isEntry

theorem filter_append_filter (ordered : Ordered number entries) (mid : Int) :
    (entries.filter fun entry => number entry ≤ mid) ++ above number mid entries = entries := by
  induction entries with
  | nil => rfl
  | cons entry entries ih =>
    obtain ⟨first, ordered⟩ := pairwise_cons.mp ordered
    by_cases isLow : number entry ≤ mid
    · have notAbove : ¬ mid < number entry := Int.not_lt.mpr isLow
      rw [filter_cons_of_pos (by simpa using isLow), above,
        filter_cons_of_neg (by simpa using notAbove), cons_append]
      exact congrArg _ (ih ordered)
    · have allAbove : ∀ other ∈ entry :: entries, mid < number other := by
        intro other isOther
        rcases mem_cons.mp isOther with rfl | isRest
        · exact Int.not_le.mp isLow
        · exact Int.lt_trans (Int.not_le.mp isLow) (first other isRest)
      have noneLow : (entry :: entries).filter (fun entry => number entry ≤ mid) = [] := by
        refine filter_eq_nil_iff.mpr fun other isOther => ?_
        simpa using allAbove other isOther
      rw [noneLow, nil_append, above_eq_self allAbove]

theorem between_append_between (ordered : Ordered number entries) (lowMid : low ≤ mid)
    (midHigh : mid ≤ high) :
    between number low mid entries ++ between number mid high entries =
      between number low high entries := by
  have whole := congrArg (between number low high) (filter_append_filter ordered mid)
  rw [← whole, between, between, between, above, filter_append, filter_filter, filter_filter]
  congr 1
  · refine filter_congr fun entry _ => ?_
    rw [← Bool.decide_and, decide_eq_decide]
    omega
  · refine filter_congr fun entry _ => ?_
    rw [← Bool.decide_and, decide_eq_decide]
    omega

theorem between_append {added : List Entry}
    (outside : ∀ entry ∈ added, ¬ (low < number entry ∧ number entry ≤ high)) :
    between number low high (entries ++ added) = between number low high entries := by
  have none : between number low high added = [] :=
    filter_eq_nil_iff.mpr fun entry isEntry => by simpa using outside entry isEntry
  rw [between] at none ⊢
  rw [filter_append, none, append_nil, between]

theorem dropWhile_eq_above (ordered : Ordered number entries) :
    entries.dropWhile (fun entry => number entry ≤ low) = above number low entries := by
  induction entries with
  | nil => rfl
  | cons entry _ ih =>
    obtain ⟨first, rest⟩ := pairwise_cons.mp ordered
    by_cases isLow : number entry ≤ low
    · have notAbove : ¬ low < number entry := Int.not_lt.mpr isLow
      rw [dropWhile_cons_of_pos (by simpa using isLow), ih rest, above, above,
        filter_cons_of_neg (by simpa using notAbove)]
    · rw [dropWhile_cons_of_neg (by simpa using isLow)]
      refine (filter_eq_self.mpr fun other isOther => ?_).symm
      rcases mem_cons.mp isOther with rfl | isRest
      · simpa using isLow
      · simpa using Int.lt_trans (Int.not_le.mp isLow) (first other isRest)

theorem take_above_eq_between (ordered : Ordered number entries) {count : Nat} {last : Entry}
    (isLast : ((above number low entries).take count).getLast? = some last) :
    (above number low entries).take count = between number low (number last) entries := by
  have cut : between number low (number last) entries =
      (above number low entries).filter fun entry => number entry ≤ number last := by
    rw [above, filter_filter, between]
    refine filter_congr fun entry _ => ?_
    rw [← Bool.decide_and, decide_eq_decide]
    exact and_comm
  obtain ⟨front, isTaken⟩ := getLast?_eq_some_iff.mp isLast
  have aboveOrdered : Ordered number (above number low entries) := ordered.filter _
  rw [← take_append_drop count (above number low entries), isTaken] at aboveOrdered
  obtain ⟨takenOrdered, -, beforeRest⟩ := pairwise_append.mp aboveOrdered
  obtain ⟨-, -, beforeLast⟩ := pairwise_append.mp takenOrdered
  rw [cut]
  conv_rhs => rw [← take_append_drop count (above number low entries), isTaken]
  have allTaken : (front ++ [last]).filter (fun entry => number entry ≤ number last) =
      front ++ [last] := by
    refine filter_eq_self.mpr fun entry isEntry => ?_
    rcases mem_append.mp isEntry with isFront | isEnd
    · simpa using Int.le_of_lt (beforeLast entry isFront last (mem_singleton.mpr rfl))
    · simp [mem_singleton.mp isEnd]
  have noneLeft : ((above number low entries).drop count).filter
      (fun entry => number entry ≤ number last) = [] := by
    refine filter_eq_nil_iff.mpr fun entry isEntry => ?_
    simpa using beforeRest last (by simp) entry isEntry
  rw [filter_append, allTaken, noneLeft, append_nil, isTaken]

/-! ## Bounded windows -/

section Windows

variable {count wider : Nat}

theorem rtake_rtake (narrower : count ≤ wider) :
    (entries.rtake wider).rtake count = entries.rtake count := by
  rw [rtake_eq_reverse_take_reverse, rtake_eq_reverse_take_reverse,
    rtake_eq_reverse_take_reverse, reverse_reverse, take_take,
    Nat.min_eq_left narrower]

theorem rtake_rtake_concat (positive : 0 < count) (entry : Entry) :
    (entries.rtake count ++ [entry]).rtake count = (entries ++ [entry]).rtake count := by
  obtain ⟨count, rfl⟩ := Nat.exists_eq_succ_of_ne_zero (Nat.ne_of_gt positive)
  rw [rtake_concat_succ, rtake_concat_succ, rtake_rtake (Nat.le_succ count)]

theorem eq_nil_of_rtake (positive : 0 < count) (isNil : entries.rtake count = []) :
    entries = [] := by
  rw [rtake, drop_eq_nil_iff] at isNil
  apply eq_nil_of_length_eq_zero
  omega

theorem above_rtake (ordered : Ordered number entries) {first : Entry}
    (isFirst : (entries.rtake count).head? = some first) (reaches : number first ≤ low + 1) :
    above number low (entries.rtake count) = above number low entries := by
  have split : entries.rdrop count ++ entries.rtake count = entries := take_append_drop _ _
  have noneLost : above number low (entries.rdrop count) = [] := by
    refine filter_eq_nil_iff.mpr fun entry isEntry => ?_
    rw [← split] at ordered
    have before := (pairwise_append.mp ordered).2.2 entry isEntry first (mem_of_mem_head? isFirst)
    have notAbove : ¬ low < number entry := by omega
    simpa using notAbove
  conv_rhs => rw [← split, above, filter_append]
  rw [above] at noneLost
  rw [noneLost, nil_append, above]

end Windows

end DeepNps.Sequenced
