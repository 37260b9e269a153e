import Mathlib.Logic.Function.Basic

/-!
# Unique indexes of a table

An index leads from a code to the key of the record that has it.  It stays exact when a
record is erased or inserted together with its code, or rewritten without a change of it.
-/

namespace DeepNps.UniqueIndex

open Function Option

variable {Key Record Code : Type} (code : Record → Option Code)

def Exact (get : Key → Option Record) (index : Code → Option Key) : Prop :=
  ∀ wanted key, index wanted = some key ↔
    ∃ record, get key = some record ∧ code record = some wanted

variable {code} {get : Key → Option Record} {index : Code → Option Key}

theorem exact_empty : Exact code (fun _ : Key => none) fun _ => none := by
  simp [Exact]

theorem Exact.eq_none (exact : Exact code get index) {wanted : Code}
    (absent : ∀ key record, get key = some record → code record ≠ some wanted) :
    index wanted = none := by
  refine eq_none_iff_forall_ne_some.mpr fun key leads => ?_
  obtain ⟨record, found, hasCode⟩ := (exact wanted key).mp leads
  exact absent key record found hasCode

variable [DecidableEq Key] {key : Key} {old new : Record}

theorem Exact.of_code_none (exact : Exact code get index)
    (noCode : ∀ record, get key = some record → code record = none) {value : Option Record}
    (valueNoCode : ∀ record, value = some record → code record = none) :
    Exact code (update get key value) index := by
  intro wanted other
  rw [exact wanted other]
  by_cases isKey : other = key
  · subst isKey
    rw [update_self]
    constructor
    · rintro ⟨record, found, hasCode⟩
      rw [noCode record found] at hasCode
      cases hasCode
    · rintro ⟨record, isValue, hasCode⟩
      rw [valueNoCode record isValue] at hasCode
      cases hasCode
  · rw [update_of_ne isKey]

theorem Exact.rewrite (exact : Exact code get index) (found : get key = some old)
    (sameCode : code new = code old) : Exact code (update get key (some new)) index := by
  intro wanted other
  rw [exact wanted other]
  by_cases isKey : other = key
  · subst isKey
    simp [found, sameCode]
  · rw [update_of_ne isKey]

variable [DecidableEq Code]

theorem Exact.erase (exact : Exact code get index) {oldCode : Code} (found : get key = some old)
    (hasCode : code old = some oldCode) :
    Exact code (update get key none) (update index oldCode none) := by
  have leads := (exact oldCode key).mpr ⟨old, found, hasCode⟩
  intro wanted other
  by_cases isCode : wanted = oldCode
  · subst isCode
    rw [update_self]
    constructor
    · intro isNone
      cases isNone
    · rintro ⟨record, otherFound, otherCode⟩
      by_cases isKey : other = key
      · subst isKey
        rw [update_self] at otherFound
        cases otherFound
      · rw [update_of_ne isKey] at otherFound
        have otherLeads := (exact wanted other).mpr ⟨record, otherFound, otherCode⟩
        exact absurd (some.inj (otherLeads.symm.trans leads)) isKey
  · rw [update_of_ne isCode, exact wanted other]
    by_cases isKey : other = key
    · subst isKey
      rw [update_self, found]
      constructor
      · rintro ⟨record, isOld, recordCode⟩
        cases isOld
        exact absurd (some.inj (recordCode.symm.trans hasCode)) isCode
      · rintro ⟨record, isNone, -⟩
        cases isNone
    · rw [update_of_ne isKey]

theorem Exact.insert (exact : Exact code get index) {newCode : Code} (absent : get key = none)
    (hasCode : code new = some newCode) (free : index newCode = none) :
    Exact code (update get key (some new)) (update index newCode (some key)) := by
  intro wanted other
  by_cases isKey : other = key
  · subst isKey
    rw [update_self]
    by_cases isCode : wanted = newCode
    · subst isCode
      simp [hasCode]
    · rw [update_of_ne isCode, exact wanted other, absent]
      constructor
      · rintro ⟨record, isNone, -⟩
        cases isNone
      · rintro ⟨record, isNew, recordCode⟩
        cases isNew
        exact absurd (some.inj (recordCode.symm.trans hasCode)) isCode
  · rw [update_of_ne isKey]
    by_cases isCode : wanted = newCode
    · subst isCode
      rw [update_self, ← exact wanted other, free]
      constructor
      · intro isKeyEq
        exact absurd (some.inj isKeyEq).symm isKey
      · intro isNone
        cases isNone
    · rw [update_of_ne isCode, exact wanted other]

theorem Exact.replace (exact : Exact code get index) {oldCode newCode : Code}
    (found : get key = some old) (hasCode : code old = some oldCode)
    (newHasCode : code new = some newCode)
    (free : update index oldCode none newCode = none) :
    Exact code (update get key (some new))
      (update (update index oldCode none) newCode (some key)) := by
  have erased := exact.erase found hasCode
  have inserted := erased.insert (update_self ..) newHasCode free
  rwa [update_idem] at inserted

end DeepNps.UniqueIndex
