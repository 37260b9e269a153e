import Mathlib.Data.List.Basic
import Mathlib.Order.Basic

/-!
# Caches that forget

A cache forgets a key after its time to live, so two admissions of one key are more than
a lifetime apart.
-/

namespace DeepNps.ExpiringCache

variable {Key : Type*}

abbrev Cache (Key : Type*) : Type _ := Key → Option Int

def empty : Cache Key := fun _ => none

def purge (cache : Cache Key) (expireBefore : Int) : Cache Key :=
  fun key => (cache key).filter fun stored => ¬ stored < expireBefore

/-- Purge, then store the key unless it is still remembered. -/
def register [DecidableEq Key] (ttl now : Int) (key : Key) (cache : Cache Key) : Bool × Cache Key :=
  let live := purge cache (now - ttl)
  if (live key).isSome then (false, live)
  else (true, Function.update live key (some now))

/-- Each admission is still remembered or older than a lifetime when the cache was last used. -/
def Remembers (ttl : Int) (cache : Cache Key) (latest : Int) (admitted : List (Key × Int)) : Prop :=
  ∀ key stored, (key, stored) ∈ admitted →
    (∃ entry, cache key = some entry ∧ stored ≤ entry) ∨ stored + ttl < latest

section Rules

variable {ttl latest now : Int} {cache : Cache Key} {admitted : List (Key × Int)}

theorem remembers_nil : Remembers ttl cache latest [] :=
  fun _ _ isMember => absurd isMember List.not_mem_nil

theorem Remembers.mono {fewer : List (Key × Int)} (remembers : Remembers ttl cache latest admitted)
    (sub : fewer ⊆ admitted) : Remembers ttl cache latest fewer :=
  fun key stored isMember => remembers key stored (sub isMember)

section

variable (remembers : Remembers ttl cache latest admitted)

include remembers

theorem Remembers.wait (later : latest ≤ now) : Remembers ttl cache now admitted := by
  intro key stored isMember
  rcases remembers key stored isMember with kept | expired
  · exact Or.inl kept
  · exact Or.inr (by omega)

theorem Remembers.purge (later : latest ≤ now) :
    Remembers ttl (purge cache (now - ttl)) now admitted := by
  intro key stored isMember
  rcases remembers key stored isMember with ⟨entry, isStored, older⟩ | expired
  · by_cases fresh : now - ttl ≤ entry
    · refine Or.inl ⟨entry, ?_, older⟩
      rw [ExpiringCache.purge, isStored, Option.filter_some,
        if_pos (decide_eq_true (Int.not_lt.mpr fresh))]
    · exact Or.inr (by omega)
  · exact Or.inr (by omega)

theorem Remembers.expired {key : Key} {stored : Int} (isForgotten : cache key = none)
    (isMember : (key, stored) ∈ admitted) : stored + ttl < latest := by
  rcases remembers key stored isMember with ⟨entry, isStored, _⟩ | expired
  · rw [isForgotten] at isStored
    cases isStored
  · exact expired

end

variable [DecidableEq Key]

section

variable (remembers : Remembers ttl cache latest admitted)

include remembers

theorem Remembers.insert {key : Key} (isForgotten : cache key = none) (stored : Int) :
    Remembers ttl (Function.update cache key (some stored)) latest ((key, stored) :: admitted) := by
  intro other earlier isMember
  rcases List.mem_cons.mp isMember with isNew | isMember
  · cases isNew
    exact Or.inl ⟨stored, Function.update_self .., Int.le_refl stored⟩
  · rcases remembers other earlier isMember with ⟨entry, isStored, older⟩ | expired
    · have differs : other ≠ key := by
        rintro rfl
        rw [isForgotten] at isStored
        cases isStored
      exact Or.inl ⟨entry, by rw [Function.update_of_ne differs, isStored], older⟩
    · exact Or.inr expired

theorem Remembers.gap (later : latest ≤ now) {key : Key}
    (isAdmitted : (register ttl now key cache).1 = true) {stored : Int}
    (isMember : (key, stored) ∈ admitted) : stored + ttl < now := by
  cases isStored : ExpiringCache.purge cache (now - ttl) key with
  | none => exact (remembers.purge later).expired isStored isMember
  | some => simp [ExpiringCache.register, isStored] at isAdmitted

theorem Remembers.register (later : latest ≤ now) (key : Key) :
    Remembers ttl (register ttl now key cache).2 now
      (if (register ttl now key cache).1 then (key, now) :: admitted else admitted) := by
  have purged := remembers.purge later
  simp only [ExpiringCache.register]
  by_cases present : (ExpiringCache.purge cache (now - ttl) key).isSome
  · simpa [present] using purged
  · have isForgotten := Option.not_isSome_iff_eq_none.mp present
    simpa [present] using purged.insert isForgotten now

end

end Rules

end DeepNps.ExpiringCache
