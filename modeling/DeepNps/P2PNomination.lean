import DeepNps.P2PCandidateRuns

/-!
# Nomination in runs of a candidate manager

The nominated key, the flag of the pair and its state agree as long as no success is
counted for the nominated pair and nothing is nominated after the confirmation.
-/

namespace DeepNps.P2P

/-- Which states the nominated pair may be in is left open. -/
structure PairCoherent (fits : CandidateState → Prop) (nominatedKey confirmedKey : String)
    (pair : CandidatePair) : Prop where
  flagged : pair.nominated = true ↔ pair.key = nominatedKey
  nominee : pair.key = nominatedKey → fits pair.state
  settled : pair.key = confirmedKey → pair.state = .confirmed

/-- States for a nominated pair: the one it gets, and not the one of a closed pair. -/
structure Nominable (fits : CandidateState → Prop) : Prop where
  nominated : fits .nominated
  closed : ¬ fits .closed

theorem nominable_eq_nominated : Nominable (· = .nominated) := ⟨rfl, by decide⟩

theorem nominable_ne_closed : Nominable (· ≠ .closed) := ⟨by decide, fun differs => differs rfl⟩

namespace PairCoherent

variable {fits : CandidateState → Prop} {nominatedKey confirmedKey : String}
  {pair other : CandidatePair}

theorem not_nominated (coherent : PairCoherent fits nominatedKey confirmedKey pair)
    (otherKey : pair.key ≠ nominatedKey) : pair.nominated = false := by
  rw [← Bool.not_eq_true, coherent.flagged]
  exact otherKey

theorem of_other (unflagged : pair.nominated = false) (notNominated : pair.key ≠ nominatedKey)
    (notConfirmed : pair.key ≠ confirmedKey) :
    PairCoherent fits nominatedKey confirmedKey pair where
  flagged := by
    rw [unflagged]
    exact iff_of_false Bool.false_ne_true notNominated
  nominee := fun isKey => absurd isKey notNominated
  settled := fun isKey => absurd isKey notConfirmed

theorem congr (coherent : PairCoherent fits nominatedKey confirmedKey pair)
    (sameKey : other.key = pair.key) (sameFlag : other.nominated = pair.nominated)
    (sameState : other.state = pair.state) : PairCoherent fits nominatedKey confirmedKey other where
  flagged := by
    rw [sameKey, sameFlag]
    exact coherent.flagged
  nominee := by
    rw [sameKey, sameState]
    exact coherent.nominee
  settled := by
    rw [sameKey, sameState]
    exact coherent.settled

end PairCoherent

open Table

theorem key_ne {pair : CandidatePair} {key : String} (isEmpty : key = "") : pair.key ≠ key := by
  rw [isEmpty]
  exact key_ne_empty

namespace CandidateManager

/-- The three records of the nomination agree, and there is none after the confirmation. -/
structure NominationCoherent (fits : CandidateState → Prop) (manager : CandidateManager) :
    Prop where
  pairs : ∀ pair ∈ manager.candidates.records,
    PairCoherent fits manager.nominatedKey manager.confirmedKey pair
  kept : manager.nominatedKey ≠ "" → (manager.candidates.get manager.nominatedKey).isSome = true
  exclusive : manager.confirmedKey ≠ "" → manager.nominatedKey = ""

variable {fits : CandidateState → Prop} {manager next : CandidateManager} {pair : CandidatePair}
  {localAddr remoteAddr : String} {now : Int} {priority : CandidatePriority}

namespace NominationCoherent

theorem new (rendezvousRemote : String) :
    NominationCoherent fits (newCandidateManager rendezvousRemote) where
  pairs := by
    intro _ isPair
    exact absurd isPair not_mem_empty
  kept := fun isSome => absurd rfl isSome
  exclusive := fun _ => rfl

section

variable (coherent : manager.NominationCoherent fits)

include coherent

theorem put (agrees : PairCoherent fits manager.nominatedKey manager.confirmedKey pair) :
    (manager.put pair).NominationCoherent fits where
  pairs := by
    intro other isOther
    rcases mem_store.mp isOther with rfl | ⟨isOld, -⟩
    · exact agrees
    · exact coherent.pairs other isOld
  kept := fun isNominated => isSome_get_store (coherent.kept isNominated)
  exclusive := coherent.exclusive

theorem updateCandidateRemoteLocked :
    (manager.updateCandidateRemoteLocked remoteAddr).NominationCoherent fits := by
  rw [CandidateManager.updateCandidateRemoteLocked]
  split_ifs
  · exact ⟨coherent.pairs, coherent.kept, coherent.exclusive⟩
  · exact coherent

theorem pairs_pairAt (sound : manager.ConfirmationSound) :
    PairCoherent fits manager.nominatedKey manager.confirmedKey
      (manager.pairAt now localAddr remoteAddr) := by
  rw [pairAt]
  cases found : manager.candidates.get (candidateKey localAddr remoteAddr) with
  | some pair => exact coherent.pairs pair (mem_of_get found)
  | none =>
    have absent {key : String} (isSome : (manager.candidates.get key).isSome = true) :
        candidateKey localAddr remoteAddr ≠ key := by
      rintro rfl
      rw [found] at isSome
      cases isSome
    apply PairCoherent.of_other
    · rfl
    · intro isKey
      exact absent (coherent.kept (isKey ▸ key_ne_empty)) isKey
    · intro isKey
      exact absent (sound.kept (isKey ▸ key_ne_empty)) isKey

theorem observe (nominable : Nominable fits) (sound : manager.ConfirmationSound) :
    (manager.observe now localAddr remoteAddr priority).2.NominationCoherent fits := by
  rw [CandidateManager.observe]
  cases found : manager.candidates.get (candidateKey localAddr remoteAddr) with
  | some pair =>
    have agrees := coherent.pairs pair (mem_of_get found)
    apply coherent.put
    split_ifs with reopens
    · -- a closed pair is not the nominated one
      have otherKey : pair.key ≠ manager.nominatedKey := by
        intro isKey
        have fitsClosed := agrees.nominee isKey
        rw [reopens.1] at fitsClosed
        exact nominable.closed fitsClosed
      apply PairCoherent.of_other
      · rw [nominated_applyCandidatePriority]
        rfl
      · rw [key_applyCandidatePriority]
        exact otherKey
      · exact key_ne reopens.2
    · exact agrees.congr key_applyCandidatePriority nominated_applyCandidatePriority
        state_applyCandidatePriority
  | none =>
    have agrees : PairCoherent fits manager.nominatedKey manager.confirmedKey
        (manager.pairAt now localAddr remoteAddr) := coherent.pairs_pairAt sound
    rw [pairAt, found] at agrees
    apply updateCandidateRemoteLocked
    apply coherent.put
    exact agrees.congr key_applyCandidatePriority nominated_applyCandidatePriority
      state_applyCandidatePriority

theorem succeed (nominable : Nominable fits)
    (agrees : PairCoherent fits manager.nominatedKey manager.confirmedKey pair)
    (flags : manager.FlagsConfirmed pair)
    (allowed : pair.key = manager.nominatedKey → fits .succeeded) :
    (manager.succeed now remoteAddr pair).2.NominationCoherent fits := by
  rw [CandidateManager.succeed]
  split_ifs with isConfirmed isClosed noneConfirmed
  · have isKey : pair.key = manager.confirmedKey := by
      rcases isConfirmed with flagged | isKey
      · exact flags.mp flagged
      · exact isKey.symm
    have noneNominated := coherent.exclusive (isKey ▸ key_ne_empty)
    apply coherent.put
    refine ⟨agrees.flagged, ?_, fun _ => rfl⟩
    rw [noneNominated]
    exact fun isEmpty => absurd isEmpty key_ne_empty
  · have otherKey : pair.key ≠ manager.nominatedKey := by
      intro isKey
      exact nominable.closed (isClosed ▸ agrees.nominee isKey)
    apply updateCandidateRemoteLocked
    apply coherent.put
    exact PairCoherent.of_other rfl otherKey (key_ne noneConfirmed)
  · exact coherent.put agrees
  · apply updateCandidateRemoteLocked
    apply coherent.put
    exact ⟨agrees.flagged, allowed, fun isKey => absurd (.inr isKey.symm) isConfirmed⟩

theorem markSucceeded (nominable : Nominable fits) (sound : manager.ConfirmationSound)
    (allowed : candidateKey localAddr remoteAddr = manager.nominatedKey → fits .succeeded) :
    (manager.markSucceededWithPriority now localAddr remoteAddr priority).2.NominationCoherent
      fits := by
  apply coherent.succeed nominable
  · exact (coherent.pairs_pairAt sound).congr key_applyCandidatePriority
      nominated_applyCandidatePriority state_applyCandidatePriority
  · rw [FlagsConfirmed, confirmed_applyCandidatePriority, key_applyCandidatePriority]
    exact sound.flags_pairAt
  · rw [key_applyCandidatePriority, key_seenAt, key_pairAt]
    exact allowed

end

theorem nominate (nominable : Nominable fits) (noneConfirmed : manager.confirmedKey = "")
    (unflagged : ∀ other ∈ manager.candidates.records, other.key ≠ pair.key →
      other.nominated = false) :
    (manager.nominate pair remoteAddr).2.NominationCoherent fits := by
  apply updateCandidateRemoteLocked
  constructor
  · intro other isOther
    have notConfirmed : other.key ≠ manager.confirmedKey := key_ne noneConfirmed
    rcases mem_store.mp isOther with rfl | ⟨isOld, otherKey⟩
    · exact ⟨iff_of_true rfl rfl, fun _ => nominable.nominated,
        fun isKey => absurd isKey notConfirmed⟩
    · exact PairCoherent.of_other (unflagged other isOld otherKey) otherKey notConfirmed
  · intro _
    rw [CandidateManager.setNominatedKey, CandidateManager.put, get_store, if_pos rfl]
    rfl
  · intro isConfirmed
    exact absurd noneConfirmed isConfirmed

section

variable (coherent : manager.NominationCoherent fits)

include coherent

theorem unflagged (noneNominated : manager.nominatedKey = "")
    (isPair : pair ∈ manager.candidates.records) : pair.nominated = false :=
  (coherent.pairs pair isPair).not_nominated (key_ne noneNominated)

theorem tryNominate (nominable : Nominable fits)
    (allowed : manager.confirmedKey = "" ∨
      manager.candidates.get (candidateKey localAddr remoteAddr) = none) :
    (manager.tryNominate now localAddr remoteAddr).2.2.NominationCoherent fits := by
  rw [CandidateManager.tryNominate]
  cases found : manager.candidates.get (candidateKey localAddr remoteAddr) with
  | none => exact coherent
  | some pair =>
    have noneConfirmed : manager.confirmedKey = "" := by
      rcases allowed with noneConfirmed | absent
      · exact noneConfirmed
      · rw [found] at absent
        cases absent
    dsimp only
    split_ifs with hasNominated
    · have agrees := coherent.pairs pair (mem_of_get found)
      exact coherent.put (agrees.congr rfl rfl rfl)
    · apply nominate nominable noneConfirmed
      intro _ isOther _
      exact coherent.unflagged (not_not.mp hasNominated) isOther

theorem revertNomination (isNominated : manager.nominatedKey ≠ "") :
    manager.revertNomination.confirmedKey = manager.confirmedKey ∧
      ∀ other ∈ manager.revertNomination.candidates.records, other.nominated = false := by
  obtain ⟨_, found⟩ := Option.isSome_iff_exists.mp (coherent.kept isNominated)
  rw [CandidateManager.revertNomination, found]
  refine ⟨rfl, ?_⟩
  intro other isOther
  rcases mem_store.mp isOther with rfl | ⟨isOld, otherKey⟩
  · rfl
  · apply (coherent.pairs other isOld).not_nominated
    rw [← key_of_get found]
    exact otherKey

theorem adopt (nominable : Nominable fits)
    (agrees : PairCoherent fits manager.nominatedKey manager.confirmedKey pair) :
    (manager.adopt remoteAddr pair).2.2.NominationCoherent fits := by
  have puts := coherent.put agrees
  rw [CandidateManager.adopt]
  dsimp only
  split_ifs with isConfirmed isOther isNominated hasNominated
  · exact puts
  · exact puts
  · apply puts.put
    exact ⟨iff_of_true rfl isNominated.symm, fun _ => nominable.nominated,
      fun isKey => absurd (.inr isKey.symm) isConfirmed⟩
  all_goals
    have noneConfirmed : (manager.put pair).confirmedKey = "" := by
      by_contra isSome
      exact isOther ⟨isSome, (not_or.mp isConfirmed).2⟩
  · obtain ⟨sameKey, unflagged⟩ := puts.revertNomination hasNominated
    apply nominate nominable (sameKey.trans noneConfirmed)
    intro other isPair _
    exact unflagged other isPair
  · apply nominate nominable noneConfirmed
    intro _ isPair _
    exact puts.unflagged (not_not.mp hasNominated) isPair

theorem adoptNomination (nominable : Nominable fits) (sound : manager.ConfirmationSound) :
    (manager.adoptNomination now localAddr remoteAddr).2.2.NominationCoherent fits := by
  apply coherent.adopt nominable
  exact (coherent.pairs_pairAt sound).congr rfl rfl rfl

theorem tryNominateBest (nominable : Nominable fits)
    (allowed : manager.confirmedKey = "" ∨
      ∀ pair ∈ manager.candidates.records, pair.canBeNominated now = false) :
    (manager.tryNominateBest now).2.2.NominationCoherent fits := by
  rw [CandidateManager.tryNominateBest]
  split_ifs with hasNominated
  · exact coherent
  · split
    next => exact coherent
    next best chosen =>
      have isMember := List.mem_filter.mp (BestChoice.mem_of_choose chosen)
      have noneConfirmed : manager.confirmedKey = "" := by
        rcases allowed with noneConfirmed | noneEligible
        · exact noneConfirmed
        · have isEligible := isMember.2
          rw [noneEligible best isMember.1] at isEligible
          cases isEligible
      apply nominate nominable noneConfirmed
      intro _ isOther _
      exact coherent.unflagged (not_not.mp hasNominated) isOther

end

theorem settle (sound : manager.ConfirmationSound) (noneConfirmed : manager.confirmedKey = "")
    (unflagged : pair.nominated = false) (isConfirmed : pair.state = .confirmed) :
    (manager.settle pair remoteAddr).NominationCoherent fits where
  pairs := by
    intro _ isOther
    obtain ⟨old, isOld, rfl⟩ := List.mem_map.mp isOther
    rw [closeOther]
    rcases mem_store.mp isOld with rfl | ⟨isOld, otherKey⟩
    · rw [if_pos (.inl rfl)]
      exact ⟨by simp [unflagged, CandidateManager.settle], fun isKey => absurd isKey key_ne_empty,
        fun _ => isConfirmed⟩
    · have notConfirmed : ¬ old.confirmed = true := by
        intro oldConfirmed
        exact key_ne_empty (((sound.flagged old isOld).mp oldConfirmed).trans noneConfirmed)
      rw [if_neg (not_or.mpr ⟨otherKey, notConfirmed⟩)]
      exact PairCoherent.of_other rfl key_ne_empty otherKey
  kept := fun isNominated => absurd rfl isNominated
  exclusive := fun _ => rfl

section

variable (coherent : manager.NominationCoherent fits)

include coherent

theorem confirm (sound : manager.ConfirmationSound) :
    (manager.confirm now localAddr remoteAddr).2.NominationCoherent fits := by
  obtain unchanged | ⟨pair, -, -, noneConfirmed, confirms⟩ :=
    confirm_cases manager now localAddr remoteAddr
  · rw [unchanged]
    exact coherent
  · rw [confirms]
    exact settle sound noneConfirmed rfl rfl

theorem withdraw {change : CandidatePair → CandidatePair}
    (keepsKey : ∀ pair, (change pair).key = pair.key)
    (unflags : ∀ pair, (change pair).nominated = false) :
    (manager.withdraw localAddr remoteAddr change).2.NominationCoherent fits := by
  rw [CandidateManager.withdraw]
  dsimp only
  split_ifs with isGuarded
  · exact coherent
  · push Not at isGuarded
    obtain ⟨isNominated, isKey, noneConfirmed⟩ := isGuarded
    obtain ⟨pair, found⟩ := Option.isSome_iff_exists.mp (coherent.kept isNominated)
    rw [← isKey, found]
    refine ⟨?_, fun isSome => absurd rfl isSome, fun _ => rfl⟩
    intro other isOther
    have notConfirmed : other.key ≠ manager.confirmedKey := key_ne noneConfirmed
    rcases mem_store.mp isOther with rfl | ⟨isOld, otherKey⟩
    · exact PairCoherent.of_other (unflags pair) key_ne_empty notConfirmed
    · rw [keepsKey, key_of_get found] at otherKey
      exact PairCoherent.of_other ((coherent.pairs other isOld).not_nominated otherKey)
        key_ne_empty notConfirmed

theorem pruneStale {maxAge : Int} (sound : manager.ConfirmationSound) :
    (manager.pruneStale now maxAge).2.NominationCoherent fits := by
  rw [CandidateManager.pruneStale]
  split_ifs
  · exact coherent
  · refine ⟨?_, ?_, coherent.exclusive⟩
    · intro _ isPair
      obtain ⟨old, isOld, rfl⟩ := List.mem_map.mp isPair
      have agrees := coherent.pairs old isOld
      rw [prunePair]
      split_ifs with isPruned
      · simp only [prunes, Bool.and_eq_true, Bool.not_eq_true', Bool.or_eq_false_iff] at isPruned
        obtain ⟨⟨⟨notConfirmed, notNominated⟩, -⟩, -⟩ := isPruned
        refine PairCoherent.of_other ?_ ?_ ?_
        · exact notNominated
        · intro isKey
          rw [agrees.flagged.mpr isKey] at notNominated
          cases notNominated
        · intro isKey
          rw [(sound.flagged old isOld).mpr isKey] at notConfirmed
          cases notConfirmed
      · exact agrees
    · intro isNominated
      rw [get_modify, Option.isSome_map]
      exact coherent.kept isNominated

theorem cleanupClosed {maxAge : Int} (nominable : Nominable fits) :
    (manager.cleanupClosed now maxAge).2.NominationCoherent fits := by
  rw [CandidateManager.cleanupClosed]
  split_ifs
  · exact coherent
  · refine ⟨?_, ?_, coherent.exclusive⟩
    · intro pair isPair
      exact coherent.pairs pair (mem_filter.mp isPair).1
    · intro isNominated
      obtain ⟨pair, found⟩ := Option.isSome_iff_exists.mp (coherent.kept isNominated)
      have fitsState := (coherent.pairs pair (mem_of_get found)).nominee (key_of_get found)
      have notClosed : pair.state ≠ .closed := by
        intro isClosed
        exact nominable.closed (isClosed ▸ fitsState)
      dsimp only
      rw [get_filter, found]
      simp [cleans, notClosed]

end

end NominationCoherent

/-- No success is counted for the nominated pair, and no pair can be nominated once one is
confirmed. -/
def KeepsNomination (manager : CandidateManager) : CandidateEvent → Prop
  | .markSucceeded _ localAddr remoteAddr _ =>
      candidateKey localAddr remoteAddr ≠ manager.nominatedKey
  | .tryNominate _ localAddr remoteAddr =>
      manager.confirmedKey = "" ∨ manager.candidates.get (candidateKey localAddr remoteAddr) = none
  | .tryNominateBest now =>
      manager.confirmedKey = "" ∨
        ∀ pair ∈ manager.candidates.records, pair.canBeNominated now = false
  | _ => True

instance decidableKeepsNomination (manager : CandidateManager) :
    (event : CandidateEvent) → Decidable (manager.KeepsNomination event)
  | .markSucceeded _ localAddr remoteAddr _ =>
      inferInstanceAs (Decidable (candidateKey localAddr remoteAddr ≠ manager.nominatedKey))
  | .tryNominate _ localAddr remoteAddr =>
      inferInstanceAs (Decidable (manager.confirmedKey = "" ∨
        manager.candidates.get (candidateKey localAddr remoteAddr) = none))
  | .tryNominateBest now =>
      inferInstanceAs (Decidable (manager.confirmedKey = "" ∨
        ∀ pair ∈ manager.candidates.records, pair.canBeNominated now = false))
  | .observe .. | .adoptNomination .. | .confirm .. | .backoffNomination ..
  | .releaseNomination .. | .pruneStale .. | .cleanupClosed .. => .isTrue trivial

theorem NominationCoherent.perform {event : CandidateEvent}
    (coherent : manager.NominationCoherent (· = .nominated)) (sound : manager.ConfirmationSound)
    (allowed : manager.KeepsNomination event) :
    (manager.perform event).NominationCoherent (· = .nominated) := by
  have nominable := nominable_eq_nominated
  cases event with
  | observe => exact coherent.observe nominable sound
  | markSucceeded =>
    apply coherent.markSucceeded nominable sound
    intro isKey
    exact absurd isKey allowed
  | tryNominate => exact coherent.tryNominate nominable allowed
  | adoptNomination => exact coherent.adoptNomination nominable sound
  | tryNominateBest => exact coherent.tryNominateBest nominable allowed
  | confirm => exact coherent.confirm sound
  | backoffNomination
  | releaseNomination => exact coherent.withdraw (fun _ => rfl) (fun _ => rfl)
  | pruneStale => exact coherent.pruneStale sound
  | cleanupClosed => exact coherent.cleanupClosed nominable

/-- Under the condition the nominated key, the flags and the states agree, and a confirmed pair
keeps its state and has no nomination beside it. -/
theorem nomination_coherent {rendezvousRemote : String} {events : List CandidateEvent}
    (meets : Runs.Meets step KeepsNomination (newCandidateManager rendezvousRemote) events)
    (reaches : Runs.execute step (newCandidateManager rendezvousRemote) events = some manager) :
    (manager.nominatedKey = "" ↔ ∀ pair ∈ manager.candidates.records, pair.nominated = false) ∧
    (manager.nominatedKey ≠ "" →
      ∃ nominee, manager.candidates.get manager.nominatedKey = some nominee ∧
        nominee.state = .nominated ∧
        ∀ pair ∈ manager.candidates.records, pair.nominated = true ↔ pair = nominee) ∧
    (manager.confirmedKey ≠ "" →
      manager.nominatedKey = "" ∧
      (∀ pair ∈ manager.candidates.records, pair.nominated = false) ∧
      ∃ pair, manager.candidates.get manager.confirmedKey = some pair ∧
        pair.confirmed = true ∧ pair.state = .confirmed) := by
  have preserved : ∀ (manager : CandidateManager) (event : CandidateEvent)
      (next : CandidateManager),
      manager.NominationCoherent (· = .nominated) ∧ manager.ConfirmationSound →
      manager.KeepsNomination event → manager.step event = some next →
      next.NominationCoherent (· = .nominated) ∧ next.ConfirmationSound := by
    rintro manager event next ⟨coherent, sound⟩ allowed stepEq
    refine ⟨?_, sound.step stepEq⟩
    cases stepEq
    exact coherent.perform sound allowed
  obtain ⟨coherent, sound⟩ := Runs.invariant_of_meets _ preserved
    ⟨.new rendezvousRemote, .new rendezvousRemote⟩ meets reaches
  refine ⟨⟨?_, ?_⟩, ?_, ?_⟩
  · intro noneNominated _ isPair
    exact coherent.unflagged noneNominated isPair
  · intro unflagged
    by_contra isNominated
    obtain ⟨nominee, found⟩ := Option.isSome_iff_exists.mp (coherent.kept isNominated)
    have isPair := mem_of_get found
    have isFlagged := (coherent.pairs nominee isPair).flagged.mpr (key_of_get found)
    rw [unflagged nominee isPair] at isFlagged
    cases isFlagged
  · intro isNominated
    obtain ⟨nominee, found⟩ := Option.isSome_iff_exists.mp (coherent.kept isNominated)
    have isNominee := mem_of_get found
    have isKey := key_of_get found
    refine ⟨nominee, found, (coherent.pairs nominee isNominee).nominee isKey, ?_⟩
    intro pair isPair
    rw [(coherent.pairs pair isPair).flagged, ← isKey]
    constructor
    · intro sameKey
      exact eq_of_key_eq isPair isNominee sameKey
    · rintro rfl
      rfl
  · intro isConfirmed
    have noneNominated := coherent.exclusive isConfirmed
    obtain ⟨pair, found, flagged⟩ := sound.exists_confirmed isConfirmed
    have isState := (coherent.pairs pair (mem_of_get found)).settled (key_of_get found)
    exact ⟨noneNominated, fun other isOther => coherent.unflagged noneNominated isOther, pair,
      found, flagged, isState⟩

def renominating : List CandidateEvent :=
  [.markSucceeded 1 "a:1" "b:1" ⟨2, ""⟩, .markSucceeded 2 "a:1" "b:2" ⟨1, ""⟩,
    .tryNominateBest 3, .backoffNomination 4 "a:1" "b:1" 10, .tryNominateBest 5,
    .confirm 6 "a:1" "b:2", .markSucceeded 7 "a:1" "b:2" ⟨1, ""⟩, .tryNominateBest 8]

theorem nomination_coherent_renominating :
    ∃ manager, Runs.execute step (newCandidateManager "b:1") renominating = some manager ∧
      manager.confirmedKey = "a:1->b:2" ∧ manager.nominatedKey = "" ∧
      ∃ pair, manager.candidates.get manager.confirmedKey = some pair ∧
        pair.confirmed = true ∧ pair.state = .confirmed := by
  have meets : Runs.Meets step KeepsNomination (newCandidateManager "b:1") renominating := by
    decide +kernel
  have reaches := execute_step (newCandidateManager "b:1") renominating
  obtain ⟨noneNominated, -, isConfirmed⟩ :=
    (nomination_coherent meets reaches).2.2 (by decide +kernel)
  exact ⟨_, reaches, by decide +kernel, noneNominated, isConfirmed⟩

/-- A late success takes the state of the nominated pair; after the confirmation pairs are
nominated. -/
theorem nomination_incoherent :
    ((Runs.execute step (newCandidateManager "b:1")
      [.markSucceeded 1 "a:1" "b:1" ⟨2, ""⟩, .tryNominateBest 2,
        .markSucceeded 3 "a:1" "b:1" ⟨2, ""⟩]).map fun manager =>
          (manager.nominatedKey, manager.nominatedPair.map fun pair =>
            (pair.nominated, pair.state))) =
        some ("a:1->b:1", some (true, .succeeded)) ∧
    ((Runs.execute step (newCandidateManager "b:1")
      (confirming ++ [.markSucceeded 4 "a:2" "b:2" ⟨1, ""⟩, .tryNominateBest 5])).map
        fun manager => (manager.confirmedKey, manager.nominatedKey)) =
        some ("a:1->b:1", "a:2->b:2") ∧
    ((Runs.execute step (newCandidateManager "b:1")
      (confirming ++ [.tryNominate 4 "a:1" "b:1"])).map fun manager =>
        (manager.confirmedKey, manager.nominatedPair.map fun pair =>
          (pair.confirmed, pair.state))) =
        some ("a:1->b:1", some (true, .nominated)) := by
  refine ⟨?_, ?_, ?_⟩ <;> decide +kernel

end CandidateManager

end DeepNps.P2P
