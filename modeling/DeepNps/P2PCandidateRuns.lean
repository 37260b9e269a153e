import DeepNps.P2PCandidate

/-!
# Confirmation in every run of a candidate manager

One pair is confirmed at most, it is the one that was nominated, and it stays.
-/

namespace DeepNps.P2P

/-- The operations of a `CandidateManager`, each with the time at which it runs. -/
inductive CandidateEvent
  | observe (now : Int) (localAddr remoteAddr : String) (priority : CandidatePriority)
  | markSucceeded (now : Int) (localAddr remoteAddr : String) (priority : CandidatePriority)
  | tryNominate (now : Int) (localAddr remoteAddr : String)
  | adoptNomination (now : Int) (localAddr remoteAddr : String)
  | tryNominateBest (now : Int)
  | confirm (now : Int) (localAddr remoteAddr : String)
  | backoffNomination (now : Int) (localAddr remoteAddr : String) (cooldown : Int)
  | releaseNomination (now : Int) (localAddr remoteAddr : String)
  | pruneStale (now maxAge : Int)
  | cleanupClosed (now maxAge : Int)

section Pairs

variable {pair : CandidatePair} {priority : CandidatePriority}

@[simp]
theorem key_applyCandidatePriority : (applyCandidatePriority pair priority).key = pair.key := by
  rw [applyCandidatePriority]
  split_ifs <;> rfl

@[simp]
theorem state_applyCandidatePriority :
    (applyCandidatePriority pair priority).state = pair.state := by
  rw [applyCandidatePriority]
  split_ifs <;> rfl

@[simp]
theorem nominated_applyCandidatePriority :
    (applyCandidatePriority pair priority).nominated = pair.nominated := by
  rw [applyCandidatePriority]
  split_ifs <;> rfl

@[simp]
theorem confirmed_applyCandidatePriority :
    (applyCandidatePriority pair priority).confirmed = pair.confirmed := by
  rw [applyCandidatePriority]
  split_ifs <;> rfl

@[simp]
theorem key_seenAt {now : Int} : (pair.seenAt now).key = pair.key := rfl

@[simp]
theorem key_ne_empty : pair.key ≠ "" := candidateKey_ne_empty

end Pairs

open Table

namespace CandidateManager

def perform (manager : CandidateManager) : CandidateEvent → CandidateManager
  | .observe now localAddr remoteAddr priority =>
      (manager.observe now localAddr remoteAddr priority).2
  | .markSucceeded now localAddr remoteAddr priority =>
      (manager.markSucceededWithPriority now localAddr remoteAddr priority).2
  | .tryNominate now localAddr remoteAddr => (manager.tryNominate now localAddr remoteAddr).2.2
  | .adoptNomination now localAddr remoteAddr =>
      (manager.adoptNomination now localAddr remoteAddr).2.2
  | .tryNominateBest now => (manager.tryNominateBest now).2.2
  | .confirm now localAddr remoteAddr => (manager.confirm now localAddr remoteAddr).2
  | .backoffNomination now localAddr remoteAddr cooldown =>
      (manager.backoffNomination now localAddr remoteAddr cooldown).2
  | .releaseNomination now localAddr remoteAddr =>
      (manager.releaseNomination now localAddr remoteAddr).2
  | .pruneStale now maxAge => (manager.pruneStale now maxAge).2
  | .cleanupClosed now maxAge => (manager.cleanupClosed now maxAge).2

def step (manager : CandidateManager) (event : CandidateEvent) : Option CandidateManager :=
  some (manager.perform event)

theorem execute_step (manager : CandidateManager) (events : List CandidateEvent) :
    Runs.execute step manager events = some (events.foldl perform manager) := by
  induction events generalizing manager with
  | nil => rfl
  | cons event _ ih => exact ih (manager.perform event)

def FlagsConfirmed (manager : CandidateManager) (pair : CandidatePair) : Prop :=
  pair.confirmed = true ↔ pair.key = manager.confirmedKey

/-- The confirmed flag is carried by the pair at the confirmed key, which is there. -/
structure ConfirmationSound (manager : CandidateManager) : Prop where
  flagged : ∀ pair ∈ manager.candidates.records, manager.FlagsConfirmed pair
  kept : manager.confirmedKey ≠ "" → (manager.candidates.get manager.confirmedKey).isSome = true

/-- What every operation but `confirm` does about the confirmation. -/
structure KeepsConfirmation (manager next : CandidateManager) : Prop where
  key : next.confirmedKey = manager.confirmedKey
  remote : next.confirmedRemote = manager.confirmedRemote
  sound : next.ConfirmationSound

variable {manager middle next : CandidateManager} {pair : CandidatePair}
  {localAddr remoteAddr : String} {now : Int} {priority : CandidatePriority}

theorem ConfirmationSound.new (rendezvousRemote : String) :
    (newCandidateManager rendezvousRemote).ConfirmationSound where
  flagged := by
    intro _ isPair
    exact absurd isPair not_mem_empty
  kept := fun isSome => absurd rfl isSome

theorem KeepsConfirmation.trans (first : KeepsConfirmation manager middle)
    (second : KeepsConfirmation middle next) : KeepsConfirmation manager next where
  key := second.key.trans first.key
  remote := second.remote.trans first.remote
  sound := second.sound

theorem KeepsConfirmation.flags (keeps : KeepsConfirmation manager next)
    (flags : manager.FlagsConfirmed pair) : next.FlagsConfirmed pair := by
  rw [FlagsConfirmed, keeps.key]
  exact flags

theorem confirmed_prunePair {maxAge : Int} :
    (prunePair now maxAge pair).confirmed = pair.confirmed := by
  rw [prunePair]
  split_ifs <;> rfl

theorem key_pairAt : (manager.pairAt now localAddr remoteAddr).key =
    candidateKey localAddr remoteAddr := by
  rw [pairAt]
  cases found : manager.candidates.get (candidateKey localAddr remoteAddr) with
  | some => exact key_of_get found
  | none => rfl

namespace ConfirmationSound

section

variable (sound : manager.ConfirmationSound)

include sound

theorem flags_of_get {key : String} (found : manager.candidates.get key = some pair) :
    manager.FlagsConfirmed pair :=
  sound.flagged pair (mem_of_get found)

theorem flags_pairAt : manager.FlagsConfirmed (manager.pairAt now localAddr remoteAddr) := by
  rw [FlagsConfirmed, key_pairAt, pairAt]
  cases found : manager.candidates.get (candidateKey localAddr remoteAddr) with
  | some =>
    rw [← key_of_get found]
    exact sound.flags_of_get found
  | none =>
    constructor
    · intro isConfirmed
      cases isConfirmed
    · intro isKey
      have isSome := sound.kept (isKey ▸ candidateKey_ne_empty)
      rw [← isKey, found] at isSome
      cases isSome

theorem keeps : KeepsConfirmation manager manager := ⟨rfl, rfl, sound⟩

theorem put (flags : manager.FlagsConfirmed pair) :
    KeepsConfirmation manager (manager.put pair) where
  key := rfl
  remote := rfl
  sound := by
    constructor
    · intro other isOther
      rcases mem_store.mp isOther with rfl | ⟨isOld, -⟩
      · exact flags
      · exact sound.flagged other isOld
    · intro isConfirmed
      exact isSome_get_store (sound.kept isConfirmed)

theorem setNominatedKey (nominatedKey : String) :
    KeepsConfirmation manager (manager.setNominatedKey nominatedKey) :=
  ⟨rfl, rfl, sound.flagged, sound.kept⟩

theorem updateCandidateRemoteLocked :
    KeepsConfirmation manager (manager.updateCandidateRemoteLocked remoteAddr) := by
  rw [CandidateManager.updateCandidateRemoteLocked]
  split_ifs
  · exact ⟨rfl, rfl, sound.flagged, sound.kept⟩
  · exact sound.keeps

theorem put_update (flags : manager.FlagsConfirmed pair) :
    KeepsConfirmation manager ((manager.put pair).updateCandidateRemoteLocked remoteAddr) :=
  (sound.put flags).trans (sound.put flags).sound.updateCandidateRemoteLocked

end

theorem flags_of_none (noneConfirmed : manager.confirmedKey = "")
    (unflagged : pair.confirmed = false) : manager.FlagsConfirmed pair := by
  rw [FlagsConfirmed, noneConfirmed, unflagged]
  simp

section

variable (sound : manager.ConfirmationSound)

include sound

theorem observe :
    KeepsConfirmation manager (manager.observe now localAddr remoteAddr priority).2 := by
  rw [CandidateManager.observe]
  cases found : manager.candidates.get (candidateKey localAddr remoteAddr) with
  | some =>
    have kept := sound.flags_of_get found
    apply sound.put
    rw [FlagsConfirmed, confirmed_applyCandidatePriority, key_applyCandidatePriority]
    split_ifs with reopens
    · exact flags_of_none reopens.2 rfl
    · exact kept
  | none =>
    apply sound.put_update
    have flags : manager.FlagsConfirmed (manager.pairAt now localAddr remoteAddr) :=
      sound.flags_pairAt
    rw [pairAt, found] at flags
    rw [FlagsConfirmed, confirmed_applyCandidatePriority, key_applyCandidatePriority]
    exact flags

theorem succeed (flags : manager.FlagsConfirmed pair) :
    KeepsConfirmation manager (manager.succeed now remoteAddr pair).2 := by
  rw [CandidateManager.succeed]
  split_ifs with isConfirmed isClosed noneConfirmed
  · exact sound.put flags
  · exact sound.put_update (flags_of_none noneConfirmed rfl)
  · exact sound.put flags
  · exact sound.put_update flags

theorem markSucceeded : KeepsConfirmation manager
    (manager.markSucceededWithPriority now localAddr remoteAddr priority).2 := by
  apply sound.succeed
  rw [FlagsConfirmed, confirmed_applyCandidatePriority, key_applyCandidatePriority]
  exact sound.flags_pairAt

theorem nominate (flags : manager.FlagsConfirmed pair) :
    KeepsConfirmation manager (manager.nominate pair remoteAddr).2 := by
  have puts : KeepsConfirmation manager (manager.put pair.markNominated) := sound.put flags
  have sets := puts.trans (puts.sound.setNominatedKey pair.key)
  exact sets.trans sets.sound.updateCandidateRemoteLocked

theorem tryNominate :
    KeepsConfirmation manager (manager.tryNominate now localAddr remoteAddr).2.2 := by
  rw [CandidateManager.tryNominate]
  cases found : manager.candidates.get (candidateKey localAddr remoteAddr) with
  | none => exact sound.keeps
  | some pair =>
    have kept := sound.flags_of_get found
    have flags : manager.FlagsConfirmed (pair.seenAt now) := kept
    dsimp only
    split_ifs
    · exact sound.put flags
    · exact sound.nominate flags

theorem revertNomination : KeepsConfirmation manager manager.revertNomination := by
  rw [CandidateManager.revertNomination]
  cases found : manager.candidates.get manager.nominatedKey with
  | none => exact sound.keeps
  | some =>
    have kept := sound.flags_of_get found
    exact sound.put kept

theorem adopt (flags : manager.FlagsConfirmed pair) :
    KeepsConfirmation manager (manager.adopt remoteAddr pair).2.2 := by
  have puts := sound.put flags
  rw [CandidateManager.adopt]
  dsimp only
  split_ifs with isConfirmed isOther isNominated hasNominated
  · exact puts
  · exact puts
  · have flagsNominated : (manager.put pair).FlagsConfirmed pair.markNominated := flags
    exact puts.trans (puts.sound.put flagsNominated)
  · have reverts := puts.trans puts.sound.revertNomination
    exact reverts.trans (reverts.sound.nominate (reverts.flags flags))
  · exact puts.trans (puts.sound.nominate flags)

theorem adoptNomination :
    KeepsConfirmation manager (manager.adoptNomination now localAddr remoteAddr).2.2 := by
  apply sound.adopt
  exact sound.flags_pairAt

theorem tryNominateBest : KeepsConfirmation manager (manager.tryNominateBest now).2.2 := by
  rw [CandidateManager.tryNominateBest]
  split_ifs
  · exact sound.keeps
  · split
    next => exact sound.keeps
    next best chosen =>
      have isPair := (List.mem_filter.mp (BestChoice.mem_of_choose chosen)).1
      have flags : manager.FlagsConfirmed (best.seenAt now) := sound.flagged best isPair
      exact sound.nominate flags

theorem withdraw {change : CandidatePair → CandidatePair}
    (keepsKey : ∀ pair, (change pair).key = pair.key)
    (keepsFlag : ∀ pair, (change pair).confirmed = pair.confirmed) :
    KeepsConfirmation manager (manager.withdraw localAddr remoteAddr change).2 := by
  rw [CandidateManager.withdraw]
  dsimp only
  split_ifs
  · exact sound.keeps
  · cases found : manager.candidates.get (candidateKey localAddr remoteAddr) with
    | none => exact sound.setNominatedKey ""
    | some pair =>
      have puts : KeepsConfirmation manager (manager.put (change pair)) := by
        apply sound.put
        rw [FlagsConfirmed, keepsKey, keepsFlag]
        exact sound.flags_of_get found
      exact puts.trans (puts.sound.setNominatedKey "")

theorem pruneStale {maxAge : Int} :
    KeepsConfirmation manager (manager.pruneStale now maxAge).2 := by
  rw [CandidateManager.pruneStale]
  split_ifs
  · exact sound.keeps
  · refine ⟨rfl, rfl, ?_, ?_⟩
    · intro _ isPair
      obtain ⟨old, isOld, rfl⟩ := List.mem_map.mp isPair
      rw [FlagsConfirmed, key_prunePair, confirmed_prunePair]
      exact sound.flagged old isOld
    · intro isConfirmed
      rw [get_modify, Option.isSome_map]
      exact sound.kept isConfirmed

theorem cleanupClosed {maxAge : Int} :
    KeepsConfirmation manager (manager.cleanupClosed now maxAge).2 := by
  rw [CandidateManager.cleanupClosed]
  split_ifs
  · exact sound.keeps
  · refine ⟨rfl, rfl, ?_, ?_⟩
    · intro pair isPair
      exact sound.flagged pair (mem_filter.mp isPair).1
    · intro isConfirmed
      obtain ⟨_, found⟩ := Option.isSome_iff_exists.mp (sound.kept isConfirmed)
      have isFlagged := (sound.flags_of_get found).mpr (key_of_get found)
      dsimp only
      rw [get_filter, found]
      simp [cleans, isFlagged]

end

end ConfirmationSound

theorem confirm_cases (manager : CandidateManager) (now : Int) (localAddr remoteAddr : String) :
    manager.confirm now localAddr remoteAddr = (none, manager) ∨
      ∃ pair, manager.candidates.get (candidateKey localAddr remoteAddr) = some pair ∧
        manager.nominatedKey = candidateKey localAddr remoteAddr ∧
        manager.confirmedKey = "" ∧
        manager.confirm now localAddr remoteAddr =
          (some (pair.seenAt now).markConfirmed,
            manager.settle (pair.seenAt now).markConfirmed remoteAddr) := by
  rw [confirm]
  cases found : manager.candidates.get (candidateKey localAddr remoteAddr) with
  | none => exact .inl rfl
  | some pair =>
    dsimp only
    split_ifs with isConfirmed isUnnominated isOther
    · exact .inl rfl
    · exact .inl rfl
    · exact .inl rfl
    · refine .inr ⟨pair, rfl, ?_, ?_, rfl⟩
      · exact not_not.mp (not_or.mp isUnnominated).2
      · by_contra isSome
        exact isOther ⟨isSome, (not_or.mp isConfirmed).2⟩

theorem confirmed_closeOther {key : String} : (closeOther key pair).confirmed = pair.confirmed := by
  rw [closeOther]
  split_ifs <;> rfl

theorem ConfirmationSound.settle (sound : manager.ConfirmationSound)
    (noneConfirmed : manager.confirmedKey = "") (isConfirmed : pair.confirmed = true) :
    (manager.settle pair remoteAddr).ConfirmationSound where
  flagged := by
    intro _ isOther
    obtain ⟨old, isOld, rfl⟩ := List.mem_map.mp isOther
    rw [FlagsConfirmed, key_closeOther, confirmed_closeOther]
    rcases mem_store.mp isOld with rfl | ⟨isOld, otherKey⟩
    · exact iff_of_true isConfirmed rfl
    · refine iff_of_false ?_ otherKey
      intro oldConfirmed
      exact key_ne_empty (((sound.flagged old isOld).mp oldConfirmed).trans noneConfirmed)
  kept := by
    intro _
    rw [CandidateManager.settle, get_modify, get_store, if_pos rfl]
    rfl

theorem ConfirmationSound.perform (sound : manager.ConfirmationSound) (event : CandidateEvent) :
    KeepsConfirmation manager (manager.perform event) ∨
      ((∃ now localAddr remoteAddr, event = .confirm now localAddr remoteAddr) ∧
        manager.confirmedKey = "" ∧
        (manager.perform event).confirmedKey = manager.nominatedKey ∧
        (manager.perform event).ConfirmationSound) := by
  cases event with
  | observe => exact .inl sound.observe
  | markSucceeded => exact .inl sound.markSucceeded
  | tryNominate => exact .inl sound.tryNominate
  | adoptNomination => exact .inl sound.adoptNomination
  | tryNominateBest => exact .inl sound.tryNominateBest
  | confirm now localAddr remoteAddr =>
    rw [CandidateManager.perform]
    obtain unchanged | ⟨pair, found, isNominated, noneConfirmed, confirms⟩ :=
      confirm_cases manager now localAddr remoteAddr
    · rw [unchanged]
      exact .inl sound.keeps
    · have isKey : pair.key = manager.nominatedKey := (key_of_get found).trans isNominated.symm
      rw [confirms]
      exact .inr ⟨⟨now, localAddr, remoteAddr, rfl⟩, noneConfirmed, isKey,
        sound.settle noneConfirmed rfl⟩
  | backoffNomination
  | releaseNomination => exact .inl (sound.withdraw (fun _ => rfl) (fun _ => rfl))
  | pruneStale => exact .inl sound.pruneStale
  | cleanupClosed => exact .inl sound.cleanupClosed

theorem ConfirmationSound.step {event : CandidateEvent} (sound : manager.ConfirmationSound)
    (stepEq : manager.step event = some next) : next.ConfirmationSound := by
  cases stepEq
  rcases sound.perform event with keeps | ⟨-, -, -, soundNext⟩
  · exact keeps.sound
  · exact soundNext

theorem ConfirmationSound.lasts (sound : manager.ConfirmationSound)
    (isConfirmed : manager.confirmedKey ≠ "") {events : List CandidateEvent}
    (reaches : Runs.execute CandidateManager.step manager events = some next) :
    KeepsConfirmation manager next := by
  refine Runs.invariant_of_execute (KeepsConfirmation manager) ?_ sound.keeps reaches
  intro _ event _ keeps stepEq
  cases stepEq
  rcases keeps.sound.perform event with keepsNext | ⟨-, noneConfirmed, -⟩
  · exact keeps.trans keepsNext
  · exact absurd (keeps.key.symm.trans noneConfirmed) isConfirmed

theorem ConfirmationSound.exists_confirmed (sound : manager.ConfirmationSound)
    (isConfirmed : manager.confirmedKey ≠ "") :
    ∃ pair, manager.candidates.get manager.confirmedKey = some pair ∧ pair.confirmed = true := by
  obtain ⟨pair, found⟩ := Option.isSome_iff_exists.mp (sound.kept isConfirmed)
  exact ⟨pair, found, (sound.flags_of_get found).mpr (key_of_get found)⟩

/-- One pair is confirmed at most, it stays, and it was the nomination when it was confirmed. -/
theorem confirmation_safe {rendezvousRemote : String} {events more : List CandidateEvent}
    {later : CandidateManager}
    (reaches : Runs.execute step (newCandidateManager rendezvousRemote) events = some manager)
    (continues : Runs.execute step manager more = some later) :
    (∀ pair ∈ manager.candidates.records, ∀ other ∈ later.candidates.records,
      pair.confirmed = true → other.confirmed = true → other.key = pair.key) ∧
    (manager.confirmedKey ≠ "" →
      later.confirmedKey = manager.confirmedKey ∧
      later.confirmedRemote = manager.confirmedRemote ∧
      ∃ pair, later.candidates.get manager.confirmedKey = some pair ∧ pair.confirmed = true) ∧
    (∀ event, ∀ pair ∈ (manager.perform event).candidates.records, pair.confirmed = true →
      (∃ old ∈ manager.candidates.records, old.key = pair.key ∧ old.confirmed = true) ∨
      ((∃ now localAddr remoteAddr, event = .confirm now localAddr remoteAddr) ∧
        pair.key = manager.nominatedKey)) ∧
    (∀ now localAddr remoteAddr pair,
      (manager.confirm now localAddr remoteAddr).1 = some pair →
      pair.key = manager.nominatedKey ∧ manager.confirmedKey = "") := by
  have sound : manager.ConfirmationSound :=
    Runs.invariant_of_execute _ (fun _ _ _ sound stepEq => sound.step stepEq)
      (.new rendezvousRemote) reaches
  refine ⟨?_, ?_, ?_, ?_⟩
  · intro pair isPair other isOther isConfirmed otherConfirmed
    have isKey := (sound.flagged pair isPair).mp isConfirmed
    have keeps := sound.lasts (isKey ▸ key_ne_empty) continues
    rw [(keeps.sound.flagged other isOther).mp otherConfirmed, keeps.key, isKey]
  · intro isConfirmed
    have keeps := sound.lasts isConfirmed continues
    refine ⟨keeps.key, keeps.remote, ?_⟩
    have kept := keeps.sound.exists_confirmed (keeps.key ▸ isConfirmed)
    rwa [keeps.key] at kept
  · intro event pair isPair isConfirmed
    rcases sound.perform event with keeps | ⟨isConfirm, -, isNominated, soundNext⟩
    · have isKey := (keeps.sound.flagged pair isPair).mp isConfirmed
      rw [keeps.key] at isKey
      obtain ⟨old, found, oldConfirmed⟩ := sound.exists_confirmed (isKey ▸ key_ne_empty)
      exact .inl ⟨old, mem_of_get found, (key_of_get found).trans isKey.symm, oldConfirmed⟩
    · exact .inr ⟨isConfirm, ((soundNext.flagged pair isPair).mp isConfirmed).trans isNominated⟩
  · intro now localAddr remoteAddr _ confirms
    obtain unchanged | ⟨old, found, isNominated, noneConfirmed, confirmEq⟩ :=
      confirm_cases manager now localAddr remoteAddr
    · rw [unchanged] at confirms
      cases confirms
    · rw [confirmEq] at confirms
      cases confirms
      exact ⟨(key_of_get found).trans isNominated.symm, noneConfirmed⟩

def confirming : List CandidateEvent :=
  [.markSucceeded 1 "a:1" "b:1" ⟨2, ""⟩, .tryNominateBest 2, .confirm 3 "a:1" "b:1"]

def lateSuccesses : List CandidateEvent :=
  [.markSucceeded 4 "a:1" "b:1" ⟨2, ""⟩, .markSucceeded 5 "a:2" "b:2" ⟨9, ""⟩, .tryNominateBest 6,
    .confirm 7 "a:2" "b:2", .cleanupClosed 8 1]

theorem confirmation_safe_late_success :
    ∃ manager later,
      Runs.execute step (newCandidateManager "b:1") confirming = some manager ∧
      Runs.execute step manager lateSuccesses = some later ∧
      manager.confirmedKey = "a:1->b:1" ∧
      later.confirmedKey = manager.confirmedKey ∧
      later.confirmedRemote = manager.confirmedRemote ∧
      ∃ pair, later.candidates.get manager.confirmedKey = some pair ∧ pair.confirmed = true := by
  have reaches := execute_step (newCandidateManager "b:1") confirming
  have continues :=
    execute_step (confirming.foldl perform (newCandidateManager "b:1")) lateSuccesses
  exact ⟨_, _, reaches, continues, by decide +kernel,
    (confirmation_safe reaches continues).2.1 (by decide +kernel)⟩

end CandidateManager

end DeepNps.P2P
