import DeepNps.P2PProvider

/-!
# The proposal of a provider

A provider writes a proposal down as the inbound proposal and as the nomination, and two
handlers can pass each other in between.
-/

namespace DeepNps.P2P.Process

open List

/-- The proposal and the nomination agree, up to what the threads are about to do. -/
structure ProposalCoherent (process : Process) : Prop where
  sound : process.session.ProviderSound
  inbound : (process.session.inboundProposal.key = "" ∧ process.session.inboundProposal.epoch = 0) ∨
    (process.session.inboundProposal.key, process.session.inboundProposal.epoch) ∈
      process.session.history.received
  positive : ∀ received ∈ process.session.history.received, received.1 ≠ "" ∧ 0 < received.2
  stages : ∀ thread, (process.threads thread).ofProvider = true
  received : ∀ received ∈ process.session.history.received,
    received.2 ≤ process.session.inboundProposal.epoch ∨
      ∃ thread addresses, process.threads thread = .proposal addresses received.2
  proposals : ∀ thread addresses epoch, process.threads thread = .proposal addresses epoch →
    (addresses.key, epoch) ∈ process.session.history.received
  adopting : ∀ thread addresses epoch, process.threads thread = .adopting addresses epoch →
    addresses.key = process.session.inboundProposal.key
  nominated : process.session.cm.confirmedKey = "" →
    (∃ thread addresses epoch, process.threads thread = .adopting addresses epoch) ∨
      process.session.cm.nominatedKey = process.session.inboundProposal.key

variable {process next : Process} {session : RuntimeSession} {thread : Nat} {stage : Stage}
  {plan : PunchPlan} {now : Int} {proceeds : Bool} {addresses : Addresses} {epoch : Nat}

namespace ProposalCoherent

theorem new (rendezvousRemote : String) :
    (Process.new .provider rendezvousRemote).ProposalCoherent where
  sound := ⟨rfl, .new rendezvousRemote, .new rendezvousRemote⟩
  inbound := .inl ⟨rfl, rfl⟩
  positive := by
    intro _ isReceived
    cases isReceived
  stages := fun _ => rfl
  received := by
    intro _ isReceived
    cases isReceived
  proposals := by
    intro _ _ _ isProposal
    cases isProposal
  adopting := by
    intro _ _ _ isAdopting
    cases isAdopting
  nominated := fun _ => .inr rfl

section

variable (coherent : process.ProposalCoherent)

include coherent

theorem of_step (sound : session.ProviderSound)
    (fits : stage.ofProvider = true)
    (inbound : session.inboundProposal = process.session.inboundProposal ∨
      (session.inboundProposal.key, session.inboundProposal.epoch) ∈ session.history.received)
    (positive : ∀ received ∈ session.history.received, received.1 ≠ "" ∧ 0 < received.2)
    (grows : process.session.history.received ⊆ session.history.received)
    (received : ∀ received ∈ session.history.received,
      received.2 ≤ session.inboundProposal.epoch ∨
        (∃ addresses, stage = .proposal addresses received.2) ∨
        ∃ other addresses, other ≠ thread ∧ process.threads other = .proposal addresses received.2)
    (proposal : ∀ addresses epoch, stage = .proposal addresses epoch →
      (addresses.key, epoch) ∈ session.history.received)
    (adopting : ∀ addresses epoch, stage = .adopting addresses epoch →
      addresses.key = session.inboundProposal.key)
    (others : ∀ other addresses epoch, other ≠ thread →
      process.threads other = .adopting addresses epoch →
      addresses.key = session.inboundProposal.key)
    (nominated : session.cm.confirmedKey = "" →
      (∃ addresses epoch, stage = .adopting addresses epoch) ∨
        (∃ other addresses epoch, other ≠ thread ∧
          process.threads other = .adopting addresses epoch) ∨
        session.cm.nominatedKey = session.inboundProposal.key) :
    (process.update thread (session, stage)).ProposalCoherent where
  sound := sound
  inbound := by
    rcases inbound with same | isReceived
    · rw [session_update, same]
      rcases coherent.inbound with isInitial | isReceived
      · exact .inl isInitial
      · exact .inr (grows isReceived)
    · exact .inr isReceived
  positive := positive
  stages := by
    intro other
    by_cases same : other = thread
    · subst same
      rw [threads_update_self]
      exact fits
    · rw [threads_update_of_ne same]
      exact coherent.stages other
  received := by
    intro epoch isReceived
    rcases received epoch isReceived with isOld | ⟨addresses, isStage⟩ |
      ⟨other, addresses, differs, isStage⟩
    · exact .inl isOld
    · exact .inr ⟨thread, addresses, threads_update_self.trans isStage⟩
    · exact .inr ⟨other, addresses, (threads_update_of_ne differs).trans isStage⟩
  proposals := by
    intro other addresses epoch isProposal
    by_cases same : other = thread
    · subst same
      rw [threads_update_self] at isProposal
      exact proposal addresses epoch isProposal
    · rw [threads_update_of_ne same] at isProposal
      exact grows (coherent.proposals other addresses epoch isProposal)
  adopting := by
    intro other addresses epoch isAdopting
    by_cases same : other = thread
    · subst same
      rw [threads_update_self] at isAdopting
      exact adopting addresses epoch isAdopting
    · rw [threads_update_of_ne same] at isAdopting
      exact others other addresses epoch same isAdopting
  nominated := by
    intro noneConfirmed
    rcases nominated noneConfirmed with ⟨addresses, epoch, isStage⟩ |
      ⟨other, addresses, epoch, differs, isStage⟩ | agrees
    · exact .inl ⟨thread, addresses, epoch, threads_update_self.trans isStage⟩
    · exact .inl ⟨other, addresses, epoch, (threads_update_of_ne differs).trans isStage⟩
    · exact .inr agrees

theorem received_others
    (handled : ∀ addresses epoch, process.threads thread = .proposal addresses epoch →
      epoch ≤ process.session.inboundProposal.epoch)
    {received : String × Nat} (isReceived : received ∈ process.session.history.received) :
    received.2 ≤ process.session.inboundProposal.epoch ∨
      ∃ other addresses, other ≠ thread ∧
        process.threads other = .proposal addresses received.2 := by
  rcases coherent.received received isReceived with isOld | ⟨other, addresses, isProposal⟩
  · exact .inl isOld
  · by_cases same : other = thread
    · subst same
      exact .inl (handled addresses received.2 isProposal)
    · exact .inr ⟨other, addresses, same, isProposal⟩

theorem nominated_others
    (notAdopting : ∀ addresses epoch, process.threads thread ≠ .adopting addresses epoch)
    (noneConfirmed : process.session.cm.confirmedKey = "") :
    (∃ other addresses epoch, other ≠ thread ∧ process.threads other = .adopting addresses epoch) ∨
      process.session.cm.nominatedKey = process.session.inboundProposal.key := by
  rcases coherent.nominated noneConfirmed with ⟨other, addresses, epoch, isAdopting⟩ | agrees
  · refine .inl ⟨other, addresses, epoch, ?_, isAdopting⟩
    rintro rfl
    exact notAdopting addresses epoch isAdopting
  · exact .inr agrees

theorem settles (sound : session.ProviderSound)
    (sameReceived : session.history.received = process.session.history.received)
    (sameInbound : session.inboundProposal = process.session.inboundProposal)
    (handled : ∀ addresses epoch, process.threads thread = .proposal addresses epoch →
      epoch ≤ process.session.inboundProposal.epoch)
    (nominated : session.cm.confirmedKey = "" →
      (∃ other addresses epoch, other ≠ thread ∧
          process.threads other = .adopting addresses epoch) ∨
        session.cm.nominatedKey = process.session.inboundProposal.key)
    (newQuiet : stage.pending = false) (fits : stage.ofProvider = true) :
    (process.update thread (session, stage)).ProposalCoherent := by
  apply coherent.of_step sound fits (.inl sameInbound)
  · rw [sameReceived]
    exact coherent.positive
  · rw [sameReceived]
    exact List.Subset.refl _
  · intro _ isReceived
    rw [sameReceived] at isReceived
    rw [sameInbound]
    rcases coherent.received_others handled isReceived with isOld | isOther
    · exact .inl isOld
    · exact .inr (.inr isOther)
  · rintro addresses epoch rfl
    cases newQuiet
  · rintro addresses epoch rfl
    cases newQuiet
  · intro other addresses epoch _ isAdopting
    rw [sameInbound]
    exact coherent.adopting other addresses epoch isAdopting
  · intro noneConfirmed
    rw [sameInbound]
    exact .inr (nominated noneConfirmed)

theorem quiet
    (keeps : RuntimeSession.KeepsProposal process.session session)
    (sameReceived : session.history.received = process.session.history.received)
    (handled : ∀ addresses epoch, process.threads thread = .proposal addresses epoch →
      epoch ≤ process.session.inboundProposal.epoch)
    (notAdopting : ∀ addresses epoch, process.threads thread ≠ .adopting addresses epoch)
    (newQuiet : stage.pending = false) (fits : stage.ofProvider = true) :
    (process.update thread (session, stage)).ProposalCoherent := by
  refine coherent.settles keeps.sound sameReceived keeps.inbound handled ?_ newQuiet fits
  intro noneConfirmed
  rw [keeps.nominated noneConfirmed]
  exact coherent.nominated_others notAdopting (keeps.confirmed noneConfirmed)

theorem receive {packet : UDPPacket} {priority : CandidatePriority}
    (isIdle : process.threads thread = .idle) :
    (process.update thread
      (process.session.receive now packet addresses priority)).ProposalCoherent := by
  have observes : process.session.KeepsProposal (process.session.setManager
      (process.session.cm.observe now addresses.localAddr addresses.remoteAddr ⟨0, ""⟩).2) :=
    coherent.sound.observe
  have sameReceived : (process.session.setManager (process.session.cm.observe now
      addresses.localAddr addresses.remoteAddr ⟨0, ""⟩).2).history.received =
        process.session.history.received := rfl
  have handled : ∀ addresses epoch, process.threads thread = .proposal addresses epoch →
      epoch ≤ process.session.inboundProposal.epoch := by
    intro _ _ isProposal
    rw [isIdle] at isProposal
    cases isProposal
  have notAdopting : ∀ addresses epoch, process.threads thread ≠ .adopting addresses epoch := by
    intro _ _ isAdopting
    rw [isIdle] at isAdopting
    cases isAdopting
  rw [RuntimeSession.receive]
  dsimp only
  generalize process.session.setManager _ = observed at observes sameReceived ⊢
  obtain ⟨same, newQuiet, fits⟩ | ⟨epoch, isPositive, dispatched⟩ :=
    observes.sound.dispatch packet addresses priority
  · generalize observed.dispatch packet addresses priority = outcome at same newQuiet fits ⊢
    obtain ⟨_, _⟩ := outcome
    cases same
    exact coherent.quiet observes sameReceived handled notAdopting newQuiet fits
  · have sound : (observed.noteReceived addresses epoch).ProviderSound :=
      ⟨observes.sound.role, observes.sound.confirmation, observes.sound.nomination⟩
    have sameInbound : (observed.noteReceived addresses epoch).inboundProposal =
        process.session.inboundProposal := observes.inbound
    rw [dispatched]
    apply coherent.of_step sound rfl (.inl sameInbound)
    · intro received isReceived
      rcases mem_cons.mp isReceived with rfl | isOld
      · exact ⟨candidateKey_ne_empty, isPositive⟩
      · rw [sameReceived] at isOld
        exact coherent.positive received isOld
    · rw [RuntimeSession.noteReceived, sameReceived]
      exact subset_cons_self ..
    · intro _ isReceived
      rcases mem_cons.mp isReceived with rfl | isOld
      · exact .inr (.inl ⟨addresses, rfl⟩)
      · rw [sameReceived] at isOld
        rw [sameInbound]
        rcases coherent.received_others handled isOld with isOld | isOther
        · exact .inl isOld
        · exact .inr (.inr isOther)
    · intro _ _ isProposal
      cases isProposal
      exact mem_cons_self
    · intro _ _ isAdopting
      cases isAdopting
    · intro other otherAddresses otherEpoch _ isAdopting
      rw [sameInbound]
      exact coherent.adopting other otherAddresses otherEpoch isAdopting
    · intro noneConfirmed
      have sameKey : (observed.noteReceived addresses epoch).cm.nominatedKey =
          process.session.cm.nominatedKey := observes.nominated noneConfirmed
      rw [sameInbound, sameKey]
      exact .inr (coherent.nominated_others notAdopting (observes.confirmed noneConfirmed))

/-- A proposal that is stored takes the place of the one before, which no thread may be
about to adopt. -/
theorem store
    (isProposal : process.threads thread = .proposal addresses epoch)
    (alone : ∀ other otherAddresses otherEpoch,
      process.threads other = .adopting otherAddresses otherEpoch →
      otherAddresses.key = addresses.key) :
    (process.update thread (process.session.storeProposal addresses epoch)).ProposalCoherent := by
  have notAdopting : ∀ otherAddresses otherEpoch,
      process.threads thread ≠ .adopting otherAddresses otherEpoch := by
    intro _ _ isAdopting
    rw [isProposal] at isAdopting
    cases isAdopting
  have handledOf (isOld : epoch ≤ process.session.inboundProposal.epoch) :
      ∀ otherAddresses otherEpoch, process.threads thread = .proposal otherAddresses otherEpoch →
        otherEpoch ≤ process.session.inboundProposal.epoch := by
    intro _ _ isStage
    rw [isProposal] at isStage
    cases isStage
    exact isOld
  rw [RuntimeSession.storeProposal]
  split_ifs with isOlder isOther
  · exact coherent.quiet coherent.sound.keeps rfl (handledOf (le_of_lt isOlder)) notAdopting rfl rfl
  · exact coherent.quiet coherent.sound.keeps rfl (handledOf isOther.1.ge) notAdopting rfl rfl
  · have isReceived := coherent.proposals thread addresses epoch isProposal
    have sound : (process.session.setInboundProposal addresses epoch).ProviderSound :=
      ⟨coherent.sound.role, coherent.sound.confirmation, coherent.sound.nomination⟩
    apply coherent.of_step sound rfl (.inr isReceived) coherent.positive
    · exact List.Subset.refl _
    · intro received isOld
      rcases coherent.received received isOld with isOld | ⟨other, otherAddresses, isStage⟩
      · exact .inl (le_trans isOld (not_lt.mp isOlder))
      · by_cases same : other = thread
        · subst same
          rw [isProposal] at isStage
          cases isStage
          exact .inl le_rfl
        · exact .inr (.inr ⟨other, otherAddresses, same, isStage⟩)
    · intro _ _ isStage
      cases isStage
    · intro _ _ isStage
      cases isStage
      rfl
    · intro other otherAddresses otherEpoch _ isAdopting
      exact alone other otherAddresses otherEpoch isAdopting
    · intro _
      exact .inl ⟨addresses, epoch, rfl⟩

theorem adopt (isAdopting : process.threads thread = .adopting addresses epoch) :
    (process.update thread
      (process.session.adoptProposal now addresses epoch)).ProposalCoherent := by
  have sound : (process.session.setManager (process.session.cm.adoptNomination now
      addresses.localAddr addresses.remoteAddr).2.2).ProviderSound :=
    coherent.sound.adoptNomination
  have nominates (noneConfirmed : (process.session.cm.adoptNomination now addresses.localAddr
      addresses.remoteAddr).2.2.confirmedKey = "") :
      (process.session.cm.adoptNomination now addresses.localAddr
        addresses.remoteAddr).2.2.nominatedKey = addresses.key := by
    apply coherent.sound.confirmation.adoptNomination_eq
    rw [← noneConfirmed]
    exact coherent.sound.confirmation.adoptNomination.key.symm
  have handled : ∀ addresses epoch, process.threads thread = .proposal addresses epoch →
      epoch ≤ process.session.inboundProposal.epoch := by
    intro _ _ isProposal
    rw [isAdopting] at isProposal
    cases isProposal
  have agrees := coherent.adopting thread addresses epoch isAdopting
  obtain ⟨cm, rfl, adopts | refuses⟩ := coherent.sound.adoptProposal_cases now addresses epoch
  · rw [adopts]
    exact coherent.settles ⟨sound.role, sound.confirmation, sound.nomination⟩ rfl rfl handled
      (fun noneConfirmed => .inr ((nominates noneConfirmed).trans agrees)) rfl rfl
  · rw [refuses]
    exact coherent.settles sound rfl rfl handled
      (fun noneConfirmed => .inr ((nominates noneConfirmed).trans agrees)) rfl rfl

end

end ProposalCoherent

/-- A handler stores a proposal only while no other handler is between its store and its
adoption of another pair. -/
def StoresAlone (process : Process) : SessionEvent → Prop
  | .advance thread _ _ =>
      ∀ addresses epoch, process.threads thread = .proposal addresses epoch →
        ∀ other otherAddresses otherEpoch,
          process.threads other = .adopting otherAddresses otherEpoch →
          otherAddresses.key = addresses.key
  | _ => True

section

variable (coherent : process.ProposalCoherent)

include coherent

theorem ProposalCoherent.advance (alone : process.StoresAlone (.advance thread now proceeds)) :
    (process.update thread (process.session.advance plan now proceeds
      (process.threads thread))).ProposalCoherent := by
  have fits := coherent.stages thread
  cases isPending : (process.threads thread).pending with
  | false =>
    obtain ⟨keeps, sameReceived, newQuiet, newFits⟩ :=
      coherent.sound.advance plan now proceeds fits isPending
    apply coherent.quiet keeps sameReceived _ _ newQuiet newFits
    · intro _ _ isStage
      rw [isStage] at isPending
      cases isPending
    · intro _ _ isStage
      rw [isStage] at isPending
      cases isPending
  | true =>
    cases isStage : process.threads thread with
    | proposal addresses epoch =>
      apply coherent.store isStage
      exact alone addresses epoch isStage
    | adopting => exact coherent.adopt isStage
    | _ =>
      rw [isStage] at isPending
      cases isPending

theorem ProposalCoherent.maintain (keeps : RuntimeSession.KeepsProposal process.session session)
    (sameReceived : session.history.received = process.session.history.received) :
    (process.setSession session).ProposalCoherent where
  sound := keeps.sound
  inbound := by
    rw [session_setSession, sameReceived, keeps.inbound]
    exact coherent.inbound
  positive := by
    rw [session_setSession, sameReceived]
    exact coherent.positive
  stages := coherent.stages
  received := by
    intro received isReceived
    rw [session_setSession, sameReceived] at isReceived
    rw [session_setSession, keeps.inbound]
    exact coherent.received received isReceived
  proposals := by
    intro thread addresses epoch isProposal
    rw [session_setSession, sameReceived]
    exact coherent.proposals thread addresses epoch isProposal
  adopting := by
    intro thread addresses epoch isAdopting
    rw [session_setSession, keeps.inbound]
    exact coherent.adopting thread addresses epoch isAdopting
  nominated := by
    intro noneConfirmed
    rw [session_setSession] at noneConfirmed ⊢
    rw [keeps.inbound, keeps.nominated noneConfirmed]
    exact coherent.nominated (keeps.confirmed noneConfirmed)

theorem ProposalCoherent.step {event : SessionEvent} (alone : process.StoresAlone event)
    (stepEq : process.step plan event = some next) : next.ProposalCoherent := by
  cases event with
  | receive =>
    rw [Process.step] at stepEq
    split_ifs at stepEq with isIdle
    cases stepEq
    exact coherent.receive isIdle
  | nominate =>
    rw [Process.step] at stepEq
    split_ifs at stepEq with isIdle
    cases stepEq
    apply coherent.quiet coherent.sound.keeps rfl _ _ rfl rfl
    · intro _ _ isStage
      rw [isIdle] at isStage
      cases isStage
    · intro _ _ isStage
      rw [isIdle] at isStage
      cases isStage
  | advance =>
    cases stepEq
    exact coherent.advance alone
  | pruneStale =>
    cases stepEq
    exact coherent.maintain coherent.sound.pruneStale rfl
  | cleanupClosed =>
    cases stepEq
    exact coherent.maintain coherent.sound.cleanupClosed rfl

theorem ProposalCoherent.settled (settled : ∀ thread, (process.threads thread).handling = false)
    (noneConfirmed : process.session.cm.confirmedKey = "") :
    process.session.cm.nominatedKey = process.session.inboundProposal.key ∧
      ∀ received ∈ process.session.history.received,
        received.2 ≤ process.session.inboundProposal.epoch := by
  constructor
  · rcases coherent.nominated noneConfirmed with ⟨thread, addresses, epoch, isStage⟩ | agrees
    · have isSettled := settled thread
      rw [isStage] at isSettled
      cases isSettled
    · exact agrees
  · intro received isReceived
    rcases coherent.received received isReceived with isOld | ⟨thread, addresses, isStage⟩
    · exact isOld
    · have isSettled := settled thread
      rw [isStage] at isSettled
      cases isSettled

end

/-- Between handlers, and before the confirmation, the nominated pair is that of the stored
proposal, which has the highest epoch received. -/
theorem proposal_coherent {rendezvousRemote : String} {events : List SessionEvent}
    (meets : Runs.Meets (step plan) StoresAlone (new .provider rendezvousRemote) events)
    (reaches : Runs.execute (step plan) (new .provider rendezvousRemote) events = some process)
    (settled : ∀ thread, (process.threads thread).handling = false)
    (noneConfirmed : process.session.cm.hasConfirmed = false) :
    (process.session.history.received = [] → process.session.cm.nominatedPair = none) ∧
    (process.session.history.received ≠ [] →
      process.session.cm.nominatedPair.map CandidatePair.key =
        some process.session.inboundProposal.key ∧
      (process.session.inboundProposal.key, process.session.inboundProposal.epoch) ∈
        process.session.history.received ∧
      ∀ received ∈ process.session.history.received,
        received.2 ≤ process.session.inboundProposal.epoch) := by
  have coherent := Runs.invariant_of_meets ProposalCoherent (fun _ _ _ coherent => coherent.step)
    (.new rendezvousRemote) meets reaches
  obtain ⟨sameKey, isHighest⟩ := coherent.settled settled (by simpa [CandidateManager.hasConfirmed]
    using noneConfirmed)
  constructor
  · intro nothing
    have isInitial : process.session.inboundProposal.key = "" := by
      rcases coherent.inbound with isInitial | isReceived
      · exact isInitial.1
      · rw [nothing] at isReceived
        cases isReceived
    rw [CandidateManager.nominatedPair, sameKey, isInitial, if_pos rfl]
  · intro isSome
    obtain ⟨first, isFirst⟩ := exists_mem_of_ne_nil _ isSome
    have isReceived : (process.session.inboundProposal.key,
        process.session.inboundProposal.epoch) ∈ process.session.history.received := by
      rcases coherent.inbound with ⟨-, isZero⟩ | isReceived
      · have isPositive := (coherent.positive first isFirst).2
        have isOld := isHighest first isFirst
        omega
      · exact isReceived
    refine ⟨?_, isReceived, isHighest⟩
    have isNominated : process.session.cm.nominatedKey ≠ "" := by
      rw [sameKey]
      exact (coherent.positive _ isReceived).1
    obtain ⟨_, found⟩ := Option.isSome_iff_exists.mp (coherent.sound.nomination.kept isNominated)
    rw [CandidateManager.nominatedPair, if_neg isNominated, found, Option.map_some,
      Table.key_of_get found, sameKey]

/-- Two proposals on two sockets, handled one after the other. -/
def proposalsInTurn : List SessionEvent :=
  [.receive 0 1 ⟨.proposal, 1⟩ ⟨"a:1", "b:1"⟩ ⟨0, ""⟩, .advance 0 2 true, .advance 0 3 true,
    .advance 0 4 true, .receive 1 5 ⟨.proposal, 2⟩ ⟨"a:2", "b:2"⟩ ⟨0, ""⟩, .advance 1 6 true,
    .advance 1 7 true, .advance 1 8 true]

theorem proposal_coherent_in_turn :
    ∃ process, Runs.execute (step ⟨0, 0⟩) (new .provider "b:1") proposalsInTurn = some process ∧
      (∀ thread, (process.threads thread).handling = false) ∧
      process.session.inboundProposal = ⟨"a:2->b:2", 2⟩ ∧
      process.session.cm.nominatedPair.map CandidatePair.key =
        some process.session.inboundProposal.key := by
  have meets : Runs.Meets (step ⟨0, 0⟩) StoresAlone (new .provider "b:1") proposalsInTurn := by
    refine ⟨trivial, ?_⟩
    rintro _ ⟨⟩
    -- a thread that stores a proposal finds no other one that adopts
    refine ⟨?_, ?_⟩
    · rintro _ _ _ (_ | other) _ _ ⟨⟩
    rintro _ ⟨⟩
    refine ⟨nofun, ?_⟩
    rintro _ ⟨⟩
    refine ⟨nofun, ?_⟩
    rintro _ ⟨⟩
    refine ⟨trivial, ?_⟩
    rintro _ ⟨⟩
    refine ⟨?_, ?_⟩
    · rintro _ _ _ (_ | _ | other) _ _ ⟨⟩
    rintro _ ⟨⟩
    refine ⟨nofun, ?_⟩
    rintro _ ⟨⟩
    refine ⟨nofun, ?_⟩
    rintro _ _
    trivial
  obtain ⟨process, reaches⟩ : ∃ process,
      Runs.execute (step ⟨0, 0⟩) (new .provider "b:1") proposalsInTurn = some process := ⟨_, rfl⟩
  have evaluated : (Runs.execute (step ⟨0, 0⟩) (new .provider "b:1") proposalsInTurn).map
      (fun process => (process.session.inboundProposal, process.session.cm.hasConfirmed,
        process.session.history.received)) =
      some (⟨"a:2->b:2", 2⟩, false, [("a:2->b:2", 2), ("a:1->b:1", 1)]) := by
    decide +kernel
  have settled : ∀ thread, (process.threads thread).handling = false := by
    cases reaches
    rintro (_ | _ | thread) <;> rfl
  rw [reaches, Option.map_some, Option.some.injEq, Prod.mk.injEq, Prod.mk.injEq] at evaluated
  obtain ⟨isInbound, noneConfirmed, isReceived⟩ := evaluated
  have coherent := proposal_coherent meets reaches settled noneConfirmed
  refine ⟨process, reaches, settled, isInbound, (coherent.2 ?_).1⟩
  rw [isReceived]
  exact cons_ne_nil _ _

/-- The first proposal is adopted only after the second one was stored and adopted. -/
theorem proposal_overtaken :
    ∃ process, Runs.execute (step ⟨0, 0⟩) (new .provider "b:1")
        [.receive 0 1 ⟨.proposal, 1⟩ ⟨"a:1", "b:1"⟩ ⟨0, ""⟩, .advance 0 2 true,
          .receive 1 3 ⟨.proposal, 2⟩ ⟨"a:2", "b:2"⟩ ⟨0, ""⟩, .advance 1 4 true,
          .advance 1 5 true, .advance 0 6 true, .advance 0 7 true, .advance 1 8 true] =
          some process ∧
      (∀ thread, (process.threads thread).handling = false) ∧
      process.session.cm.hasConfirmed = false ∧
      process.session.inboundProposal = ⟨"a:2->b:2", 2⟩ ∧
      process.session.cm.nominatedPair.map CandidatePair.key = some "a:1->b:1" := by
  refine ⟨_, rfl, ?_, by decide +kernel, by decide +kernel, by decide +kernel⟩
  rintro (_ | _ | thread) <;> rfl

end DeepNps.P2P.Process
