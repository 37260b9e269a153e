import DeepNps.P2PSession

/-!
# The steps of a visitor

A visitor confirms at most one pair, under an epoch that it nominated the pair under and
that the provider has accepted.
-/

namespace DeepNps.P2P

open List.Subset

def HasEpoch (entries : List (String × Nat)) (epoch : Nat) : Prop := ∃ key, (key, epoch) ∈ entries

theorem HasEpoch.mono {entries more : List (String × Nat)} {epoch : Nat}
    (grows : entries ⊆ more) (hasEpoch : HasEpoch entries epoch) : HasEpoch more epoch := by
  obtain ⟨key, isEntry⟩ := hasEpoch
  exact ⟨key, grows isEntry⟩

structure History.Grows (history next : History) : Prop where
  stored : history.stored ⊆ next.stored
  adoptions : history.adoptions ⊆ next.adoptions
  nominations : history.nominations ⊆ next.nominations
  confirmations : history.confirmations ⊆ next.confirmations

theorem History.Grows.refl {history : History} : history.Grows history :=
  ⟨List.Subset.refl _, List.Subset.refl _, List.Subset.refl _, List.Subset.refl _⟩

/-- What a visitor's thread relies on. -/
def Stage.VisitorSound (accepted : Nat → Prop) (history : History) : Stage → Prop
  | .accept _ epoch => accepted epoch
  | .confirmAccept addresses epoch =>
      0 < epoch ∧ (addresses.key, epoch) ∈ history.nominations ∧ accepted epoch
  | .clearConfirmed addresses epoch | .sendReady addresses epoch =>
      (addresses.key, epoch) ∈ history.confirmations
  | .proposal .. | .adopting .. | .accepting .. | .acceptLoop .. | .acceptMatch ..
  | .acceptResend .. | .ready .. | .confirmReady .. => False
  | _ => True

theorem Stage.VisitorSound.mono {accepted more : Nat → Prop} {history next : History}
    {stage : Stage} (sound : stage.VisitorSound accepted history)
    (accepts : ∀ epoch, accepted epoch → more epoch) (grows : history.Grows next) :
    stage.VisitorSound more next := by
  cases stage with
  | accept _ epoch => exact accepts epoch sound
  | confirmAccept _ epoch => exact ⟨sound.1, grows.nominations sound.2.1, accepts epoch sound.2.2⟩
  | clearConfirmed | sendReady => exact grows.confirmations sound
  | _ => exact sound

namespace RuntimeSession

structure VisitorSound (accepted : Nat → Prop) (session : RuntimeSession) : Prop where
  role : session.role = .visitor
  confirmation : session.cm.ConfirmationSound
  outbound : session.outboundNomination.key ≠ "" →
    (session.outboundNomination.key, session.outboundNomination.epoch) ∈ session.history.nominations
  confirmations : ∀ confirmed ∈ session.history.confirmations,
    confirmed.1 ≠ "" ∧ session.cm.confirmedKey = confirmed.1 ∧ 0 < confirmed.2 ∧
      confirmed ∈ session.history.nominations ∧ accepted confirmed.2
  single : ∀ confirmed ∈ session.history.confirmations,
    ∀ other ∈ session.history.confirmations, other = confirmed
  noted : session.cm.confirmedKey ≠ "" →
    ∃ epoch, (session.cm.confirmedKey, epoch) ∈ session.history.confirmations
  ready : ∀ epoch, ⟨.ready, epoch⟩ ∈ session.sent → HasEpoch session.history.confirmations epoch

variable {accepted more : Nat → Prop} {session : RuntimeSession} {now : Int}
  {addresses : Addresses} {epoch : Nat} {stage : Stage}

namespace VisitorSound

theorem new {rendezvousRemote : String} :
    (new .visitor rendezvousRemote).VisitorSound accepted where
  role := rfl
  confirmation := .new rendezvousRemote
  outbound := fun isSome => absurd rfl isSome
  confirmations := by
    intro _ isConfirmed
    cases isConfirmed
  single := by
    intro _ isConfirmed
    cases isConfirmed
  noted := fun isSome => absurd rfl isSome
  ready := by
    intro _ isSent
    cases isSent

section

variable (sound : session.VisitorSound accepted)

include sound

theorem mono (accepts : ∀ epoch, accepted epoch → more epoch) : session.VisitorSound more :=
  { sound with
    confirmations := by
      intro confirmed isConfirmed
      obtain ⟨isSome, isKey, isPositive, isNominated, isAccepted⟩ :=
        sound.confirmations confirmed isConfirmed
      exact ⟨isSome, isKey, isPositive, isNominated, accepts _ isAccepted⟩ }

theorem confirmations_eq_nil (noneConfirmed : session.cm.confirmedKey = "") :
    session.history.confirmations = [] := by
  rw [List.eq_nil_iff_forall_not_mem]
  intro confirmed isConfirmed
  obtain ⟨isSome, isKey, -⟩ := sound.confirmations confirmed isConfirmed
  exact isSome (isKey.symm.trans noneConfirmed)

theorem setManager {cm : CandidateManager}
    (keeps : CandidateManager.KeepsConfirmation session.cm cm) :
    (session.setManager cm).VisitorSound accepted :=
  { sound with
    confirmation := keeps.sound
    confirmations := by
      intro confirmed isConfirmed
      obtain ⟨isSome, isKey, rest⟩ := sound.confirmations confirmed isConfirmed
      exact ⟨isSome, keeps.key.trans isKey, rest⟩
    noted := by
      rw [show (session.setManager cm).cm.confirmedKey = session.cm.confirmedKey from keeps.key]
      exact sound.noted }

theorem write {type : PacketType}
    (isConfirmed : type = .ready → HasEpoch session.history.confirmations epoch) :
    (session.write type epoch).VisitorSound accepted :=
  { sound with
    ready := by
      intro sentEpoch isSent
      rcases List.mem_cons.mp isSent with isNew | isOld
      · cases isNew
        exact isConfirmed rfl
      · exact sound.ready sentEpoch isOld }

theorem clearOutboundNomination :
    (session.clearOutboundNomination addresses epoch).VisitorSound accepted := by
  rw [RuntimeSession.clearOutboundNomination]
  split_ifs
  · exact sound
  · exact ⟨sound.role, sound.confirmation, fun isSome => absurd rfl isSome, sound.confirmations,
      sound.single, sound.noted, sound.ready⟩

theorem setOutboundNomination :
    (session.setOutboundNomination now addresses epoch).VisitorSound accepted :=
  { sound with
    outbound := fun _ => List.mem_cons_self
    confirmations := by
      intro confirmed isConfirmed
      obtain ⟨isSome, isKey, isPositive, isNominated, isAccepted⟩ :=
        sound.confirmations confirmed isConfirmed
      exact ⟨isSome, isKey, isPositive, List.mem_cons_of_mem _ isNominated, isAccepted⟩ }

theorem noteConfirmation {pair : CandidatePair} (noneConfirmed : session.cm.confirmedKey = "")
    (isKey : pair.key = addresses.key) (isConfirmed : pair.confirmed = true)
    (isPositive : 0 < epoch) (isNominated : (addresses.key, epoch) ∈ session.history.nominations)
    (isAccepted : accepted epoch) :
    ((session.setManager (session.cm.settle pair addresses.remoteAddr)).noteConfirmation addresses
      epoch).VisitorSound accepted := by
  have isFirst := sound.confirmations_eq_nil noneConfirmed
  have isOnly : ∀ confirmed ∈ (addresses.key, epoch) :: session.history.confirmations,
      confirmed = (addresses.key, epoch) := by
    rw [isFirst]
    exact fun _ => List.mem_singleton.mp
  refine ⟨sound.role, sound.confirmation.settle noneConfirmed isConfirmed, sound.outbound, ?_, ?_,
    ?_, ?_⟩
  · intro confirmed isOne
    rw [isOnly confirmed isOne]
    exact ⟨candidateKey_ne_empty, isKey, isPositive, isNominated, isAccepted⟩
  · intro confirmed isOne other isOther
    rw [isOnly confirmed isOne, isOnly other isOther]
  · intro _
    refine ⟨epoch, ?_⟩
    rw [show ((session.setManager (session.cm.settle pair addresses.remoteAddr)).noteConfirmation
      addresses epoch).cm.confirmedKey = addresses.key from isKey]
    exact List.mem_cons_self
  · intro sentEpoch isSent
    exact (sound.ready sentEpoch isSent).mono (List.subset_cons_self ..)

end

/-- What a step of a visitor establishes. -/
structure Outcome (accepted : Nat → Prop) (session : RuntimeSession)
    (outcome : RuntimeSession × Stage) : Prop where
  sound : outcome.1.VisitorSound accepted
  stage : outcome.2.VisitorSound accepted outcome.1.history
  grows : session.history.Grows outcome.1.history

section

variable (sound : session.VisitorSound accepted)

include sound

theorem stays (stageSound : stage.VisitorSound accepted session.history) :
    Outcome accepted session (session, stage) :=
  ⟨sound, stageSound, .refl⟩

theorem manages {cm : CandidateManager} (keeps : CandidateManager.KeepsConfirmation session.cm cm)
    (stageSound : stage.VisitorSound accepted session.history) :
    Outcome accepted session (session.setManager cm, stage) :=
  ⟨sound.setManager keeps, stageSound, .refl⟩

theorem clears (stageSound : stage.VisitorSound accepted session.history) :
    Outcome accepted session (session.clearOutboundNomination addresses epoch, stage) := by
  have sameHistory :
      (session.clearOutboundNomination addresses epoch).history = session.history := by
    rw [RuntimeSession.clearOutboundNomination]
    split_ifs <;> rfl
  refine ⟨sound.clearOutboundNomination, ?_, ?_⟩
  · rw [sameHistory]
    exact stageSound
  · rw [sameHistory]
    exact .refl

theorem nominateBestCandidate : Outcome accepted session (session.nominateBestCandidate now) := by
  have keeps : CandidateManager.KeepsConfirmation session.cm
      (session.cm.tryNominateBest now).2.2 := sound.confirmation.tryNominateBest
  rw [RuntimeSession.nominateBestCandidate]
  split_ifs
  · exact sound.stays trivial
  · generalize session.cm.tryNominateBest now = outcome at keeps ⊢
    obtain ⟨found, nominated, _⟩ := outcome
    cases found with
    | none => exact sound.manages keeps trivial
    | some =>
      cases nominated with
      | true | false => exact sound.manages keeps trivial

theorem advance (plan : PunchPlan) (now : Int) (proceeds : Bool)
    (stageSound : stage.VisitorSound accepted session.history) :
    Outcome accepted session (session.advance plan now proceeds stage) := by
  cases stage with
  | idle => exact sound.stays trivial
  | success => exact sound.manages sound.confirmation.markSucceeded trivial
  | accept =>
    rw [RuntimeSession.advance]
    split_ifs with isMatch
    · rw [matchesOutboundNomination] at isMatch
      split_ifs at isMatch with isZero
      obtain ⟨sameKey, sameEpoch⟩ := of_decide_eq_true isMatch
      refine sound.stays ⟨Nat.pos_of_ne_zero isZero, ?_, stageSound⟩
      rw [← sameKey, ← sameEpoch]
      apply sound.outbound
      rw [sameKey]
      exact candidateKey_ne_empty
    · exact sound.stays trivial
  | confirmAccept addresses epoch =>
    obtain ⟨isPositive, isNominated, isAccepted⟩ := stageSound
    rw [RuntimeSession.advance]
    obtain unchanged | ⟨pair, noneConfirmed, isKey, -, -, isConfirmed, confirms⟩ :=
      session.confirm_cases now addresses epoch (.clearConfirmed addresses epoch)
    · rw [unchanged]
      exact sound.stays trivial
    · rw [confirms]
      refine ⟨?_, List.mem_cons_self, ?_⟩
      · exact sound.noteConfirmation noneConfirmed isKey isConfirmed isPositive isNominated
          isAccepted
      · exact ⟨refl _, refl _, refl _, List.subset_cons_self ..⟩
  | clearConfirmed => exact sound.clears stageSound
  | sendReady addresses =>
    cases proceeds with
    | true => exact ⟨sound.write fun _ => ⟨addresses.key, stageSound⟩, stageSound, .refl⟩
    | false => exact sound.stays trivial
  | nominateBest => exact sound.nominateBestCandidate
  | numbering =>
    cases proceeds with
    | true =>
      exact ⟨⟨sound.role, sound.confirmation, sound.outbound, sound.confirmations,
        sound.single, sound.noted, sound.ready⟩, trivial, .refl⟩
    | false => exact sound.stays trivial
  | nominating =>
    exact ⟨sound.setOutboundNomination, trivial, refl _, refl _, List.subset_cons_self .., refl _⟩
  | proposing | nominationResend =>
    cases proceeds with
    | true =>
      refine ⟨sound.write ?_, trivial, .refl⟩
      intro isReady
      cases isReady
    | false => exact sound.stays trivial
  | withdrawing | clearing => exact sound.clears trivial
  | releasing | backingOff =>
    exact sound.manages (sound.confirmation.withdraw (fun _ => rfl) (fun _ => rfl)) trivial
  | nominationLoop | nominationMatch
  | nominationTimer | renominating =>
    rw [RuntimeSession.advance]
    split_ifs <;> exact sound.stays trivial
  | _ => exact stageSound.elim

theorem dispatch (packet : UDPPacket) (addresses : Addresses) (priority : CandidatePriority)
    (isAccepted : packet.type = .accept → accepted (effectiveNominationEpoch packet)) :
    Outcome accepted session (session.dispatch packet addresses priority) := by
  rw [RuntimeSession.dispatch]
  cases isType : packet.type with
  | probe | punch | succ => exact sound.stays trivial
  | proposal =>
    dsimp only
    split_ifs with isGuarded
    · exact sound.stays trivial
    · rw [sound.role] at isGuarded
      exact absurd (.inl (by decide)) isGuarded
  | accept =>
    dsimp only
    split_ifs
    · exact sound.stays trivial
    · exact sound.stays (isAccepted isType)
  | ready =>
    dsimp only
    split_ifs with isGuarded
    · exact sound.stays trivial
    · rw [sound.role] at isGuarded
      exact absurd (by decide) isGuarded

theorem receive {packet : UDPPacket} {priority : CandidatePriority}
    (isAccepted : packet.type = .accept → accepted (effectiveNominationEpoch packet)) :
    Outcome accepted session (session.receive now packet addresses priority) := by
  have observes : (session.setManager (session.cm.observe now addresses.localAddr
      addresses.remoteAddr ⟨0, ""⟩).2).VisitorSound accepted :=
    sound.setManager sound.confirmation.observe
  have outcome := observes.dispatch packet addresses priority isAccepted
  exact ⟨outcome.sound, outcome.stage, outcome.grows⟩

end

end VisitorSound

end RuntimeSession

end DeepNps.P2P
