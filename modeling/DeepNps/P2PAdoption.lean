import DeepNps.P2PProvider
import DeepNps.P2PVisitor

/-!
# The epochs of a provider

A provider adopts an epoch with one pair only, and confirms it with that pair after the
visitor has confirmed it.
-/

namespace DeepNps.P2P

/-- What a provider's thread relies on. -/
def Stage.ProviderSound (confirmed : Nat → Prop) (history : History) : Stage → Prop
  | .idle | .success .. | .nominateBest => True
  | .proposal _ epoch => 0 < epoch
  | .adopting addresses epoch => (addresses.key, epoch) ∈ history.stored
  | .accepting addresses epoch | .acceptLoop addresses epoch | .acceptMatch addresses epoch
  | .acceptResend addresses epoch => (addresses.key, epoch) ∈ history.adoptions
  | .ready _ epoch => confirmed epoch
  | .confirmReady addresses epoch => (addresses.key, epoch) ∈ history.stored ∧ confirmed epoch
  | _ => False

theorem Stage.ProviderSound.mono {confirmed more : Nat → Prop} {history next : History}
    {stage : Stage} (sound : stage.ProviderSound confirmed history)
    (confirms : ∀ epoch, confirmed epoch → more epoch) (grows : history.Grows next) :
    stage.ProviderSound more next := by
  cases stage with
  | adopting => exact grows.stored sound
  | accepting | acceptLoop | acceptMatch
  | acceptResend => exact grows.adoptions sound
  | ready _ epoch => exact confirms epoch sound
  | confirmReady _ epoch => exact ⟨grows.stored sound.1, confirms epoch sound.2⟩
  | _ => exact sound

open List.Subset List

namespace RuntimeSession

/-- An epoch is adopted with one pair, and confirmed with it after the visitor has confirmed
it. -/
structure ProviderAgrees (confirmed : Nat → Prop) (session : RuntimeSession) : Prop where
  sound : session.ProviderSound
  stored : ∀ proposal ∈ session.history.stored,
    0 < proposal.2 ∧ proposal.2 ≤ session.inboundProposal.epoch
  unique : ∀ proposal ∈ session.history.stored, ∀ other ∈ session.history.stored,
    proposal.2 = other.2 → proposal = other
  inbound : session.inboundProposal.epoch ≠ 0 →
    (session.inboundProposal.key, session.inboundProposal.epoch) ∈ session.history.stored
  initial : session.inboundProposal.key = "" → session.inboundProposal.epoch = 0
  adoptions : session.history.adoptions ⊆ session.history.stored
  confirmations : ∀ entry ∈ session.history.confirmations,
    entry.1 ≠ "" ∧ session.cm.confirmedKey = entry.1 ∧ entry ∈ session.history.adoptions ∧
      confirmed entry.2
  noted : session.cm.confirmedKey ≠ "" →
    ∃ epoch, (session.cm.confirmedKey, epoch) ∈ session.history.confirmations
  accept : ∀ epoch, ⟨.accept, epoch⟩ ∈ session.sent → HasEpoch session.history.adoptions epoch

variable {confirmed more : Nat → Prop} {session : RuntimeSession} {now : Int}
  {addresses : Addresses} {epoch : Nat} {stage : Stage}

namespace ProviderAgrees

theorem new {rendezvousRemote : String} :
    (new .provider rendezvousRemote).ProviderAgrees confirmed where
  sound := ⟨rfl, .new rendezvousRemote, .new rendezvousRemote⟩
  stored := by
    intro _ isStored
    cases isStored
  unique := by
    intro _ isStored
    cases isStored
  inbound := fun isSome => absurd rfl isSome
  initial := fun _ => rfl
  adoptions := refl _
  confirmations := by
    intro _ isConfirmed
    cases isConfirmed
  noted := fun isSome => absurd rfl isSome
  accept := by
    intro _ isSent
    cases isSent

section

variable (agrees : session.ProviderAgrees confirmed)

include agrees

theorem mono (confirms : ∀ epoch, confirmed epoch → more epoch) : session.ProviderAgrees more :=
  { agrees with
    confirmations := by
      intro entry isConfirmed
      obtain ⟨isSome, isKey, isAdopted, isConfirmed⟩ := agrees.confirmations entry isConfirmed
      exact ⟨isSome, isKey, isAdopted, confirms _ isConfirmed⟩ }

theorem setManager {cm : CandidateManager} (sound : (session.setManager cm).ProviderSound)
    (sameKey : cm.confirmedKey = session.cm.confirmedKey) :
    (session.setManager cm).ProviderAgrees confirmed :=
  { agrees with
    sound := sound
    confirmations := by
      intro entry isConfirmed
      obtain ⟨isSome, isKey, rest⟩ := agrees.confirmations entry isConfirmed
      exact ⟨isSome, sameKey.trans isKey, rest⟩
    noted := by
      rw [show (session.setManager cm).cm.confirmedKey = session.cm.confirmedKey from sameKey]
      exact agrees.noted }

theorem write (isAdopted : (addresses.key, epoch) ∈ session.history.adoptions) :
    (session.write .accept epoch).ProviderAgrees confirmed :=
  { agrees with
    sound := agrees.sound.write.sound
    accept := by
      intro sentEpoch isSent
      rcases mem_cons.mp isSent with isNew | isOld
      · cases isNew
        exact ⟨addresses.key, isAdopted⟩
      · exact agrees.accept sentEpoch isOld }

theorem noteReceived : (session.noteReceived addresses epoch).ProviderAgrees confirmed :=
  { agrees with
    sound := ⟨agrees.sound.role, agrees.sound.confirmation, agrees.sound.nomination⟩ }

theorem setInboundProposal (isPositive : 0 < epoch)
    (isNewer : session.inboundProposal.epoch ≤ epoch)
    (isSame : session.inboundProposal.epoch = epoch → session.inboundProposal.key = addresses.key) :
    (session.setInboundProposal addresses epoch).ProviderAgrees confirmed :=
  { agrees with
    sound := ⟨agrees.sound.role, agrees.sound.confirmation, agrees.sound.nomination⟩
    stored := by
      intro proposal isStored
      rcases mem_cons.mp isStored with rfl | isOld
      · exact ⟨isPositive, le_rfl⟩
      · obtain ⟨oldPositive, isOlder⟩ := agrees.stored proposal isOld
        exact ⟨oldPositive, le_trans isOlder isNewer⟩
    unique := by
      have isNew (other : String × Nat) (isOld : other ∈ session.history.stored)
          (sameEpoch : other.2 = epoch) : other = (addresses.key, epoch) := by
        have isOlder := (agrees.stored other isOld).2
        have same : session.inboundProposal.epoch = epoch := by omega
        have isInbound := agrees.inbound (by omega)
        rw [agrees.unique other isOld _ isInbound (sameEpoch.trans same.symm), same, isSame same]
      intro proposal isStored other isOther sameEpoch
      rcases mem_cons.mp isStored with rfl | isOld
      · rcases mem_cons.mp isOther with rfl | otherOld
        · rfl
        · exact (isNew other otherOld sameEpoch.symm).symm
      · rcases mem_cons.mp isOther with rfl | otherOld
        · exact isNew proposal isOld sameEpoch
        · exact agrees.unique proposal isOld other otherOld sameEpoch
    inbound := fun _ => mem_cons_self
    initial := fun isEmpty => absurd isEmpty candidateKey_ne_empty
    adoptions := List.Subset.trans agrees.adoptions (subset_cons_self ..) }

theorem noteAdoption (isStored : (addresses.key, epoch) ∈ session.history.stored) :
    (session.noteAdoption addresses epoch).ProviderAgrees confirmed :=
  { agrees with
    sound := ⟨agrees.sound.role, agrees.sound.confirmation, agrees.sound.nomination⟩
    adoptions := cons_subset.mpr ⟨isStored, agrees.adoptions⟩
    confirmations := by
      intro entry isConfirmed
      obtain ⟨isSome, isKey, isAdopted, rest⟩ := agrees.confirmations entry isConfirmed
      exact ⟨isSome, isKey, mem_cons_of_mem _ isAdopted, rest⟩
    accept := by
      intro sentEpoch isSent
      exact (agrees.accept sentEpoch isSent).mono (subset_cons_self ..) }

theorem noteConfirmation {pair : CandidatePair}
    (sound : ((session.setManager (session.cm.settle pair
      addresses.remoteAddr)).noteConfirmation addresses epoch).ProviderSound)
    (noneConfirmed : session.cm.confirmedKey = "") (isKey : pair.key = addresses.key)
    (isAdopted : (addresses.key, epoch) ∈ session.history.adoptions)
    (isConfirmed : confirmed epoch) :
    ((session.setManager (session.cm.settle pair addresses.remoteAddr)).noteConfirmation addresses
      epoch).ProviderAgrees confirmed :=
  { agrees with
    sound := sound
    confirmations := by
      intro entry isEntry
      rcases mem_cons.mp isEntry with rfl | isOld
      · exact ⟨candidateKey_ne_empty, isKey, isAdopted, isConfirmed⟩
      · obtain ⟨isSome, sameKey, -⟩ := agrees.confirmations entry isOld
        exact absurd (sameKey.symm.trans noneConfirmed) isSome
    noted := by
      intro _
      refine ⟨epoch, ?_⟩
      rw [show ((session.setManager (session.cm.settle pair addresses.remoteAddr)).noteConfirmation
        addresses epoch).cm.confirmedKey = addresses.key from isKey]
      exact mem_cons_self }

end

/-- What a step of a provider establishes. -/
structure Outcome (confirmed : Nat → Prop) (session : RuntimeSession)
    (outcome : RuntimeSession × Stage) : Prop where
  agrees : outcome.1.ProviderAgrees confirmed
  stage : outcome.2.ProviderSound confirmed outcome.1.history
  grows : session.history.Grows outcome.1.history

section

variable (agrees : session.ProviderAgrees confirmed)

include agrees

theorem stays (stageSound : stage.ProviderSound confirmed session.history) :
    Outcome confirmed session (session, stage) :=
  ⟨agrees, stageSound, .refl⟩

theorem storeProposal (isPositive : 0 < epoch) :
    Outcome confirmed session (session.storeProposal addresses epoch) := by
  rw [RuntimeSession.storeProposal]
  split_ifs with isOlder isOther
  · exact agrees.stays trivial
  · exact agrees.stays trivial
  · refine ⟨?_, mem_cons_self, subset_cons_self .., refl _, refl _, refl _⟩
    apply agrees.setInboundProposal isPositive (not_lt.mp isOlder)
    intro sameEpoch
    by_contra otherKey
    refine isOther ⟨sameEpoch, ?_, otherKey⟩
    intro isEmpty
    have isZero := agrees.initial isEmpty
    omega

theorem adoptProposal (isStored : (addresses.key, epoch) ∈ session.history.stored) :
    Outcome confirmed session (session.adoptProposal now addresses epoch) := by
  have sets : (session.setManager (session.cm.adoptNomination now addresses.localAddr
      addresses.remoteAddr).2.2).ProviderAgrees confirmed :=
    agrees.setManager agrees.sound.adoptNomination agrees.sound.confirmation.adoptNomination.key
  obtain ⟨cm, rfl, adopts | refuses⟩ := agrees.sound.adoptProposal_cases now addresses epoch
  · rw [adopts]
    exact ⟨sets.noteAdoption isStored, mem_cons_self, refl _, subset_cons_self .., refl _, refl _⟩
  · rw [refuses]
    exact ⟨sets, trivial, .refl⟩

theorem advance (plan : PunchPlan) (now : Int) (proceeds : Bool)
    (accepted : ∀ epoch, confirmed epoch → HasEpoch session.history.adoptions epoch)
    (stageSound : stage.ProviderSound confirmed session.history) :
    Outcome confirmed session (session.advance plan now proceeds stage) := by
  cases stage with
  | idle => exact agrees.stays trivial
  | success =>
    exact ⟨agrees.setManager agrees.sound.markSucceeded.sound
      agrees.sound.confirmation.markSucceeded.key, trivial, .refl⟩
  | proposal => exact agrees.storeProposal stageSound
  | adopting => exact agrees.adoptProposal stageSound
  | accepting =>
    cases proceeds with
    | true => exact ⟨agrees.write stageSound, stageSound, .refl⟩
    | false => exact agrees.stays stageSound
  | acceptLoop | acceptMatch =>
    rw [RuntimeSession.advance]
    split_ifs
    · exact agrees.stays stageSound
    · exact agrees.stays trivial
  | acceptResend =>
    cases proceeds with
    | true => exact ⟨agrees.write stageSound, stageSound, .refl⟩
    | false => exact agrees.stays trivial
  | ready =>
    rw [RuntimeSession.advance]
    split_ifs with isMatch
    · refine agrees.stays ⟨?_, stageSound⟩
      rw [matchesInboundProposal] at isMatch
      split_ifs at isMatch with isZero
      obtain ⟨sameKey, sameEpoch⟩ := of_decide_eq_true isMatch
      rw [← sameKey, ← sameEpoch]
      apply agrees.inbound
      rw [sameEpoch]
      exact isZero
    · exact agrees.stays trivial
  | confirmReady addresses epoch =>
    obtain ⟨isStored, isConfirmed⟩ := stageSound
    have sound : (session.confirm now addresses epoch .idle).1.ProviderSound :=
      agrees.sound.confirm.sound
    rw [RuntimeSession.advance]
    obtain unchanged | ⟨pair, noneConfirmed, isKey, -, -, -, confirms⟩ :=
      session.confirm_cases now addresses epoch .idle
    · rw [unchanged]
      exact agrees.stays trivial
    · rw [confirms] at sound ⊢
      refine ⟨?_, trivial, refl _, refl _, refl _, subset_cons_self ..⟩
      refine agrees.noteConfirmation sound noneConfirmed isKey ?_ isConfirmed
      -- one pair was stored under the epoch, so that it is the one adopted
      obtain ⟨_, isAdopted⟩ := accepted epoch isConfirmed
      rw [agrees.unique _ isStored _ (agrees.adoptions isAdopted) rfl]
      exact isAdopted
  | nominateBest =>
    rw [RuntimeSession.advance, nominateBestCandidate, agrees.sound.role, if_pos (by decide)]
    exact agrees.stays trivial
  | _ => exact stageSound.elim

theorem dispatch (packet : UDPPacket) (addresses : Addresses) (priority : CandidatePriority)
    (isConfirmed : packet.type = .ready → confirmed (effectiveNominationEpoch packet)) :
    Outcome confirmed session (session.dispatch packet addresses priority) := by
  rw [RuntimeSession.dispatch]
  cases isType : packet.type with
  | probe | punch | succ => exact agrees.stays trivial
  | proposal =>
    dsimp only
    split_ifs with isGuarded
    · exact agrees.stays trivial
    · exact ⟨agrees.noteReceived, Nat.pos_of_ne_zero (not_or.mp isGuarded).2,
        refl _, refl _, refl _, refl _⟩
  | accept =>
    dsimp only
    split_ifs with isGuarded
    · exact agrees.stays trivial
    · rw [agrees.sound.role] at isGuarded
      exact absurd (by decide) isGuarded
  | ready =>
    dsimp only
    split_ifs
    · exact agrees.stays trivial
    · exact agrees.stays (isConfirmed isType)

theorem receive {packet : UDPPacket} {priority : CandidatePriority}
    (isConfirmed : packet.type = .ready → confirmed (effectiveNominationEpoch packet)) :
    Outcome confirmed session (session.receive now packet addresses priority) := by
  have observes : (session.setManager (session.cm.observe now addresses.localAddr
      addresses.remoteAddr ⟨0, ""⟩).2).ProviderAgrees confirmed :=
    agrees.setManager agrees.sound.observe.sound agrees.sound.confirmation.observe.key
  have outcome := observes.dispatch packet addresses priority isConfirmed
  exact ⟨outcome.agrees, outcome.stage, outcome.grows⟩

end

end ProviderAgrees

end RuntimeSession

end DeepNps.P2P
