import DeepNps.P2PSession

/-!
# The steps of a provider

A provider nominates nothing by itself, so a nominated pair stays until it is confirmed
or another proposal is adopted.
-/

namespace DeepNps.P2P

namespace CandidateManager

variable {manager : CandidateManager} {pair : CandidatePair} {localAddr remoteAddr : String}
  {now maxAge : Int} {priority : CandidatePriority}

@[simp]
theorem nominatedKey_updateCandidateRemoteLocked :
    (manager.updateCandidateRemoteLocked remoteAddr).nominatedKey = manager.nominatedKey := by
  rw [updateCandidateRemoteLocked]
  split_ifs <;> rfl

@[simp]
theorem nominatedKey_observe :
    (manager.observe now localAddr remoteAddr priority).2.nominatedKey = manager.nominatedKey := by
  rw [observe]
  cases manager.candidates.get (candidateKey localAddr remoteAddr) with
  | some => rfl
  | none => exact nominatedKey_updateCandidateRemoteLocked

@[simp]
theorem nominatedKey_markSucceeded :
    (manager.markSucceededWithPriority now localAddr remoteAddr priority).2.nominatedKey =
      manager.nominatedKey := by
  rw [markSucceededWithPriority, succeed]
  split_ifs
  · rfl
  · exact nominatedKey_updateCandidateRemoteLocked
  · rfl
  · exact nominatedKey_updateCandidateRemoteLocked

@[simp]
theorem nominatedKey_pruneStale :
    (manager.pruneStale now maxAge).2.nominatedKey = manager.nominatedKey := by
  rw [pruneStale]
  split_ifs <;> rfl

@[simp]
theorem nominatedKey_cleanupClosed :
    (manager.cleanupClosed now maxAge).2.nominatedKey = manager.nominatedKey := by
  rw [cleanupClosed]
  split_ifs <;> rfl

theorem nominatedKey_nominate : (manager.nominate pair remoteAddr).2.nominatedKey = pair.key :=
  nominatedKey_updateCandidateRemoteLocked

theorem NominationCoherent.adoptNomination_refused {fits : CandidateState → Prop}
    (coherent : manager.NominationCoherent fits) (sound : manager.ConfirmationSound)
    (refused : (manager.adoptNomination now localAddr remoteAddr).2.1 = false) :
    (manager.adoptNomination now localAddr remoteAddr).1.nominated = false := by
  have agrees : PairCoherent fits manager.nominatedKey manager.confirmedKey
      ((manager.pairAt now localAddr remoteAddr).seenAt now) :=
    (coherent.pairs_pairAt sound).congr rfl rfl rfl
  have flags : manager.FlagsConfirmed ((manager.pairAt now localAddr remoteAddr).seenAt now) :=
    sound.flags_pairAt
  rw [CandidateManager.adoptNomination] at refused ⊢
  generalize (manager.pairAt now localAddr remoteAddr).seenAt now = pair at agrees flags refused ⊢
  have unflagged (isSome : manager.confirmedKey ≠ "") : pair.nominated = false := by
    apply agrees.not_nominated
    rw [coherent.exclusive isSome]
    exact key_ne_empty
  rw [CandidateManager.adopt] at refused ⊢
  dsimp only at refused ⊢
  split_ifs at refused ⊢ with isConfirmed isOther
  · apply unflagged
    rcases isConfirmed with flagged | sameKey
    · rw [← flags.mp flagged]
      exact key_ne_empty
    · rw [show manager.confirmedKey = pair.key from sameKey]
      exact key_ne_empty
  · exact unflagged isOther.1

theorem ConfirmationSound.adoptNomination_eq (sound : manager.ConfirmationSound)
    (noneConfirmed : manager.confirmedKey = "") :
    (manager.adoptNomination now localAddr remoteAddr).2.2.nominatedKey =
      candidateKey localAddr remoteAddr := by
  have isKey : ((manager.pairAt now localAddr remoteAddr).seenAt now).key =
      candidateKey localAddr remoteAddr := by
    rw [key_seenAt, key_pairAt]
  have flags : manager.FlagsConfirmed ((manager.pairAt now localAddr remoteAddr).seenAt now) :=
    sound.flags_pairAt
  rw [CandidateManager.adoptNomination, ← isKey]
  generalize (manager.pairAt now localAddr remoteAddr).seenAt now = pair at flags
  rw [CandidateManager.adopt]
  dsimp only
  split_ifs with isConfirmed isOther isNominated
  · have sameKey : pair.key = manager.confirmedKey := by
      rcases isConfirmed with flagged | sameKey
      · exact flags.mp flagged
      · exact sameKey.symm
    exact absurd (sameKey.trans noneConfirmed) key_ne_empty
  · exact absurd noneConfirmed isOther.1
  · exact isNominated
  · exact nominatedKey_nominate
  · exact nominatedKey_nominate

end CandidateManager

def Stage.ofProvider : Stage → Bool
  | .idle | .success .. | .proposal .. | .adopting .. | .accepting .. | .acceptLoop ..
  | .acceptMatch .. | .acceptResend .. | .ready .. | .confirmReady .. | .nominateBest => true
  | _ => false

/-- Whether a packet handler is half-way.  The retry loops and the nominations run in
goroutines of their own. -/
def Stage.handling : Stage → Bool
  | .success .. | .proposal .. | .adopting .. | .accepting .. | .accept .. | .confirmAccept ..
  | .clearConfirmed .. | .sendReady .. | .ready .. | .confirmReady .. => true
  | _ => false

/-- Between the receipt of a proposal and its adoption. -/
def Stage.pending : Stage → Bool
  | .proposal .. | .adopting .. => true
  | _ => false

namespace RuntimeSession

structure ProviderSound (session : RuntimeSession) : Prop where
  role : session.role = .provider
  confirmation : session.cm.ConfirmationSound
  nomination : session.cm.NominationCoherent (· ≠ .closed)

/-- The session after a step that has nothing to do with proposals. -/
structure KeepsProposal (session next : RuntimeSession) : Prop where
  sound : next.ProviderSound
  inbound : next.inboundProposal = session.inboundProposal
  confirmed : next.cm.confirmedKey = "" → session.cm.confirmedKey = ""
  nominated : next.cm.confirmedKey = "" → next.cm.nominatedKey = session.cm.nominatedKey

variable {session next : RuntimeSession} {now : Int} {addresses : Addresses} {epoch : Nat}
  {plan : PunchPlan} {proceeds : Bool} {packet : UDPPacket} {priority : CandidatePriority}
  {stage : Stage}

namespace ProviderSound

section

variable (sound : session.ProviderSound)

include sound

theorem keeps : KeepsProposal session session := ⟨sound, rfl, id, fun _ => rfl⟩

theorem setManager {cm : CandidateManager}
    (keeps : CandidateManager.KeepsConfirmation session.cm cm)
    (nomination : cm.NominationCoherent (· ≠ .closed))
    (sameKey : cm.nominatedKey = session.cm.nominatedKey) :
    KeepsProposal session (session.setManager cm) where
  sound := ⟨sound.role, keeps.sound, nomination⟩
  inbound := rfl
  confirmed := by
    intro noneConfirmed
    exact keeps.key.symm.trans noneConfirmed
  nominated := fun _ => sameKey

theorem observe :
    KeepsProposal session (session.setManager
      (session.cm.observe now addresses.localAddr addresses.remoteAddr priority).2) :=
  sound.setManager sound.confirmation.observe
    (sound.nomination.observe nominable_ne_closed sound.confirmation)
    CandidateManager.nominatedKey_observe

theorem markSucceeded :
    KeepsProposal session (session.setManager
      (session.cm.markSucceededWithPriority now addresses.localAddr addresses.remoteAddr
        priority).2) := by
  apply sound.setManager sound.confirmation.markSucceeded
  · exact sound.nomination.markSucceeded nominable_ne_closed sound.confirmation fun _ => by decide
  · exact CandidateManager.nominatedKey_markSucceeded

theorem pruneStale {maxAge : Int} :
    KeepsProposal session (session.setManager (session.cm.pruneStale now maxAge).2) :=
  sound.setManager sound.confirmation.pruneStale (sound.nomination.pruneStale sound.confirmation)
    CandidateManager.nominatedKey_pruneStale

theorem cleanupClosed {maxAge : Int} :
    KeepsProposal session (session.setManager (session.cm.cleanupClosed now maxAge).2) :=
  sound.setManager sound.confirmation.cleanupClosed
    (sound.nomination.cleanupClosed nominable_ne_closed)
    CandidateManager.nominatedKey_cleanupClosed

theorem confirm : KeepsProposal session (session.confirm now addresses epoch stage).1 := by
  obtain unchanged | ⟨pair, noneConfirmed, -, isState, unflagged, isConfirmed, confirms⟩ :=
    session.confirm_cases now addresses epoch stage
  · rw [unchanged]
    exact sound.keeps
  · rw [confirms]
    refine ⟨⟨sound.role, ?_, ?_⟩, rfl, ?_, ?_⟩
    · exact sound.confirmation.settle noneConfirmed isConfirmed
    · exact CandidateManager.NominationCoherent.settle sound.confirmation noneConfirmed unflagged
        isState
    · intro isEmpty
      exact absurd isEmpty key_ne_empty
    · intro isEmpty
      exact absurd isEmpty key_ne_empty

theorem adoptNomination :
    (session.setManager (session.cm.adoptNomination now addresses.localAddr
      addresses.remoteAddr).2.2).ProviderSound where
  role := sound.role
  confirmation := sound.confirmation.adoptNomination.sound
  nomination := sound.nomination.adoptNomination nominable_ne_closed sound.confirmation

theorem adoptProposal_cases (now : Int) (addresses : Addresses) (epoch : Nat) :
    ∃ cm, cm = (session.cm.adoptNomination now addresses.localAddr addresses.remoteAddr).2.2 ∧
      (session.adoptProposal now addresses epoch =
          ((session.setManager cm).noteAdoption addresses epoch, .accepting addresses epoch) ∨
        session.adoptProposal now addresses epoch = (session.setManager cm, .idle)) := by
  have unflagged :
      (session.cm.adoptNomination now addresses.localAddr addresses.remoteAddr).2.1 = false →
      (session.cm.adoptNomination now addresses.localAddr addresses.remoteAddr).1.nominated =
        false :=
    sound.nomination.adoptNomination_refused sound.confirmation
  rw [RuntimeSession.adoptProposal]
  generalize session.cm.adoptNomination now addresses.localAddr addresses.remoteAddr = outcome
    at unflagged ⊢
  obtain ⟨pair, adopted, cm⟩ := outcome
  refine ⟨cm, rfl, ?_⟩
  cases adopted with
  | true => exact .inl rfl
  | false =>
    have notNominated : pair.nominated = false := unflagged rfl
    simp [notNominated]

theorem dispatch (packet : UDPPacket) (addresses : Addresses) (priority : CandidatePriority) :
    ((session.dispatch packet addresses priority).1 = session ∧
        (session.dispatch packet addresses priority).2.pending = false ∧
        (session.dispatch packet addresses priority).2.ofProvider = true) ∨
      ∃ epoch, 0 < epoch ∧ session.dispatch packet addresses priority =
        (session.noteReceived addresses epoch, .proposal addresses epoch) := by
  rw [RuntimeSession.dispatch]
  generalize effectiveNominationEpoch packet = epoch
  cases packet.type with
  | probe | punch | succ => exact .inl ⟨rfl, rfl, rfl⟩
  | proposal =>
    dsimp only
    split_ifs with isGuarded
    · exact .inl ⟨rfl, rfl, rfl⟩
    · exact .inr ⟨epoch, Nat.pos_of_ne_zero (not_or.mp isGuarded).2, rfl⟩
  | accept =>
    dsimp only
    split_ifs with isGuarded
    · exact .inl ⟨rfl, rfl, rfl⟩
    · rw [sound.role] at isGuarded
      exact absurd (by decide) isGuarded
  | ready =>
    dsimp only
    split_ifs
    · exact .inl ⟨rfl, rfl, rfl⟩
    · exact .inl ⟨rfl, rfl, rfl⟩

theorem write {type : PacketType} : KeepsProposal session (session.write type epoch) :=
  ⟨⟨sound.role, sound.confirmation, sound.nomination⟩, rfl, id, fun _ => rfl⟩

theorem advance (plan : PunchPlan) (now : Int) (proceeds : Bool) (fits : stage.ofProvider = true)
    (quiet : stage.pending = false) :
    KeepsProposal session (session.advance plan now proceeds stage).1 ∧
      (session.advance plan now proceeds stage).1.history.received = session.history.received ∧
      (session.advance plan now proceeds stage).2.pending = false ∧
      (session.advance plan now proceeds stage).2.ofProvider = true := by
  cases stage with
  | idle => exact ⟨sound.keeps, rfl, rfl, rfl⟩
  | success => exact ⟨sound.markSucceeded, rfl, rfl, rfl⟩
  | accepting | acceptResend =>
    cases proceeds with
    | true => exact ⟨sound.write, rfl, rfl, rfl⟩
    | false => exact ⟨sound.keeps, rfl, rfl, rfl⟩
  | acceptLoop | acceptMatch | ready =>
    refine ⟨sound.keeps, rfl, ?_, ?_⟩ <;> rw [RuntimeSession.advance] <;> split_ifs <;> rfl
  | confirmReady =>
    refine ⟨sound.confirm, ?_⟩
    rw [RuntimeSession.advance, RuntimeSession.confirm]
    split <;> exact ⟨rfl, rfl, rfl⟩
  | nominateBest =>
    rw [RuntimeSession.advance, nominateBestCandidate, sound.role, if_pos (by decide)]
    exact ⟨sound.keeps, rfl, rfl, rfl⟩
  | proposal | adopting => cases quiet
  | _ => cases fits

end

end ProviderSound

end RuntimeSession

end DeepNps.P2P
