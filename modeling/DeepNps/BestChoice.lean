import Mathlib.Data.Prod.Lex

/-!
# Choosing the best item of a list

A loop keeps one item of a list, replaced by items that beat it.  If beating respects a
rank it ends with an item of the highest one, whatever the order if ranks differ.
-/

namespace DeepNps.BestChoice

open List

variable {Item : Type} (beats : Item → Item → Bool)

def challenge (kept : Option Item) (item : Item) : Option Item :=
  match kept with
  | none => some item
  | some kept => if beats item kept then some item else some kept

def choose (items : List Item) : Option Item := items.foldl (challenge beats) none

variable {beats} in
theorem mem_of_foldl_challenge {kept : Option Item} {items : List Item} {best : Item}
    (chosen : items.foldl (challenge beats) kept = some best) :
    kept = some best ∨ best ∈ items := by
  induction items generalizing kept with
  | nil => exact .inl chosen
  | cons _ _ ih =>
    rcases ih chosen with challenged | isMember
    · cases kept with
      | none => exact .inr (Option.some.inj challenged ▸ mem_cons_self)
      | some =>
        rw [challenge] at challenged
        split_ifs at challenged
        · exact .inr (Option.some.inj challenged ▸ mem_cons_self)
        · exact .inl challenged
    · exact .inr (mem_cons_of_mem _ isMember)

variable {beats} in
theorem mem_of_choose {items : List Item} {best : Item}
    (chosen : choose beats items = some best) : best ∈ items := by
  rcases mem_of_foldl_challenge chosen with isNone | isMember
  · cases isNone
  · exact isMember

theorem isSome_challenge (kept : Option Item) (item : Item) :
    (challenge beats kept item).isSome = true := by
  cases kept with
  | none => rfl
  | some =>
    rw [challenge]
    split_ifs <;> rfl

theorem isSome_foldl_challenge {kept : Option Item} (isKept : kept.isSome = true)
    (items : List Item) : (items.foldl (challenge beats) kept).isSome = true := by
  induction items generalizing kept with
  | nil => exact isKept
  | cons item _ ih => exact ih (isSome_challenge beats kept item)

theorem choose_eq_none_iff {items : List Item} : choose beats items = none ↔ items = [] := by
  constructor
  · intro isNone
    cases items with
    | nil => rfl
    | cons item items =>
      have isSome := isSome_foldl_challenge beats (isSome_challenge beats none item) items
      rw [show items.foldl (challenge beats) (challenge beats none item) = none from isNone]
        at isSome
      cases isSome
  · rintro rfl
    rfl

variable {beats} in
/-- An item that beats all before it and that none after it beats is chosen. -/
theorem choose_append_cons {front back : List Item} {best : Item}
    (beaten : ∀ item ∈ front, item = best ∨ beats best item = true)
    (unbeaten : ∀ item ∈ back, item = best ∨ beats item best = false) :
    choose beats (front ++ best :: back) = some best := by
  have taken : challenge beats (choose beats front) best = some best := by
    cases isKept : choose beats front with
    | none => rfl
    | some kept =>
      rcases beaten kept (mem_of_choose isKept) with rfl | isBeaten
      · exact ite_self _
      · exact if_pos isBeaten
  rw [choose, foldl_append, foldl_cons, ← choose, taken]
  clear taken
  induction back with
  | nil => rfl
  | cons item back ih =>
    have stays : challenge beats (some best) item = some best := by
      rcases unbeaten item mem_cons_self with rfl | isUnbeaten
      · exact ite_self _
      · exact if_neg (Bool.eq_false_iff.mp isUnbeaten)
    rw [foldl_cons, stays]
    exact ih fun other isOther => unbeaten other (mem_cons_of_mem _ isOther)

variable {beats} in
/-- An item that beats all others, and that none of them beats, is chosen. -/
theorem choose_of_unbeaten {items : List Item} {best : Item} (isItem : best ∈ items)
    (unbeaten : ∀ item ∈ items, item = best ∨ beats best item = true ∧ beats item best = false) :
    choose beats items = some best := by
  obtain ⟨front, back, rfl⟩ := append_of_mem isItem
  apply choose_append_cons
  · intro item isFront
    exact (unbeaten item (by simp [isFront])).imp_right And.left
  · intro item isBack
    exact (unbeaten item (by simp [isBack])).imp_right And.right

/-- Beating agrees with a rank on the items that satisfy a condition. -/
structure Ranked {Rank : Type} [LinearOrder Rank] (rank : Item → Rank) (within : Item → Prop) :
    Prop where
  beaten : ∀ item kept, within item → within kept → beats item kept = true → rank kept ≤ rank item
  unbeaten : ∀ item kept, within item → within kept → beats item kept = false →
    rank item ≤ rank kept

variable {beats} {Rank : Type} [LinearOrder Rank] {rank : Item → Rank} {within : Item → Prop}

section

variable (ranked : Ranked beats rank within)

include ranked

theorem Ranked.challenge {kept item : Item} (keptWithin : within kept) (itemWithin : within item) :
    ∃ next, challenge beats (some kept) item = some next ∧ (next = kept ∨ next = item) ∧
      rank kept ≤ rank next ∧ rank item ≤ rank next := by
  cases isBeaten : beats item kept with
  | true =>
    exact ⟨item, by simp [BestChoice.challenge, isBeaten], .inr rfl,
      ranked.beaten item kept itemWithin keptWithin isBeaten, le_rfl⟩
  | false =>
    exact ⟨kept, by simp [BestChoice.challenge, isBeaten], .inl rfl, le_rfl,
      ranked.unbeaten item kept itemWithin keptWithin isBeaten⟩

theorem Ranked.foldl_challenge {kept : Item} {items : List Item} (keptWithin : within kept)
    (itemsWithin : ∀ item ∈ items, within item) :
    ∃ best, items.foldl (BestChoice.challenge beats) (some kept) = some best ∧
      (best = kept ∨ best ∈ items) ∧ rank kept ≤ rank best ∧
      ∀ item ∈ items, rank item ≤ rank best := by
  induction items generalizing kept with
  | nil => exact ⟨kept, rfl, .inl rfl, le_rfl, by simp⟩
  | cons item _ ih =>
    have itemWithin := itemsWithin item mem_cons_self
    obtain ⟨next, nextEq, isOne, keptLe, itemLe⟩ := ranked.challenge keptWithin itemWithin
    have nextWithin : within next := by
      rcases isOne with rfl | rfl
      · exact keptWithin
      · exact itemWithin
    obtain ⟨best, bestEq, isBest, nextLe, restLe⟩ :=
      ih nextWithin fun other isMember => itemsWithin other (mem_cons_of_mem _ isMember)
    refine ⟨best, by rw [foldl_cons, nextEq, bestEq], ?_, le_trans keptLe nextLe, ?_⟩
    · rcases isBest with rfl | isMember
      · rcases isOne with rfl | rfl
        · exact .inl rfl
        · exact .inr mem_cons_self
      · exact .inr (mem_cons_of_mem _ isMember)
    · intro other isMember
      rcases mem_cons.mp isMember with rfl | isRest
      · exact le_trans itemLe nextLe
      · exact restLe other isRest

/-- The loop chooses an item of the highest rank. -/
theorem Ranked.choose_spec {items : List Item} (itemsWithin : ∀ item ∈ items, within item)
    (nonempty : items ≠ []) :
    ∃ best ∈ items, choose beats items = some best ∧ ∀ item ∈ items, rank item ≤ rank best := by
  cases items with
  | nil => exact absurd rfl nonempty
  | cons first =>
    obtain ⟨best, bestEq, isBest, firstLe, restLe⟩ := ranked.foldl_challenge
      (itemsWithin first mem_cons_self)
      fun other isMember => itemsWithin other (mem_cons_of_mem _ isMember)
    refine ⟨best, mem_cons.mpr isBest, bestEq, ?_⟩
    intro item isMember
    rcases mem_cons.mp isMember with rfl | isRest
    · exact firstLe
    · exact restLe item isRest

theorem Ranked.le_of_choose {items : List Item} {best : Item}
    (itemsWithin : ∀ item ∈ items, within item) (chosen : choose beats items = some best) :
    ∀ item ∈ items, rank item ≤ rank best := by
  obtain ⟨_, -, isBest, highest⟩ :=
    ranked.choose_spec itemsWithin (ne_nil_of_mem (mem_of_choose chosen))
  obtain rfl := Option.some.inj (isBest.symm.trans chosen)
  exact highest

/-- Without ties at the highest rank the choice depends on the members of the list only. -/
theorem Ranked.choose_eq {first second : List Item} (itemsWithin : ∀ item ∈ first, within item)
    (untied : ∀ item ∈ first, ∀ other ∈ first, (∀ kept ∈ first, rank kept ≤ rank item) →
      rank item = rank other → item = other)
    (sameMembers : ∀ item, item ∈ first ↔ item ∈ second) :
    choose beats first = choose beats second := by
  by_cases isEmpty : first = []
  · subst isEmpty
    cases second with
    | nil => rfl
    | cons item => exact absurd ((sameMembers item).mpr mem_cons_self) (by simp)
  · have secondWithin : ∀ item ∈ second, within item := fun item isMember =>
      itemsWithin item ((sameMembers item).mpr isMember)
    obtain ⟨best, isBest, bestEq, bestLe⟩ := ranked.choose_spec itemsWithin isEmpty
    have secondNonempty : second ≠ [] := by
      rintro rfl
      exact absurd ((sameMembers best).mp isBest) (by simp)
    obtain ⟨other, isOther, otherEq, otherLe⟩ := ranked.choose_spec secondWithin secondNonempty
    have otherFirst := (sameMembers other).mpr isOther
    have sameRank : rank best = rank other :=
      le_antisymm (otherLe best ((sameMembers best).mp isBest)) (bestLe other otherFirst)
    rw [bestEq, otherEq, untied best isBest other otherFirst bestLe sameRank]

end

theorem toLex_lt_iff {First Second : Type} [LinearOrder First] [LT Second]
    {first other : First} {second next : Second} :
    toLex (other, next) < toLex (first, second) ↔
      if first ≠ other then other < first else next < second := by
  rw [Prod.Lex.toLex_lt_toLex]
  split_ifs with differs
  · constructor
    · rintro (less | ⟨same, -⟩)
      · exact less
      · exact absurd same.symm differs
    · exact .inl
  · obtain rfl := not_not.mp differs
    simp

end DeepNps.BestChoice
