import DeepNps.P2PAdoption

/-!
# Agreement of a visitor and a provider

The network keeps every packet that was ever written and delivers them any number of
times, in any order or never, to any socket and with any source address.
-/

namespace DeepNps.P2P

/-- A visitor and a provider, each with the packets that it has written so far. -/
structure Negotiation where
  visitor : Process
  provider : Process

inductive NegotiationEvent
  | visitor (event : SessionEvent)
  | provider (event : SessionEvent)

/-- END, ACCEPT and READY packets were written by the other side.  The packets that only discover
pairs can come from anywhere. -/
def SessionEvent.deliverable (sent : List UDPPacket) : SessionEvent → Bool
  | .receive _ _ packet _ _ =>
      match packet.type with
      | .probe | .punch | .succ => true
      | .proposal | .accept | .ready => packet ∈ sent
  | _ => true

namespace Negotiation

def new (visitorRemote providerRemote : String) : Negotiation where
  visitor := .new .visitor visitorRemote
  provider := .new .provider providerRemote

def step (plan : Role → PunchPlan) (negotiation : Negotiation) :
    NegotiationEvent → Option Negotiation
  | .visitor event =>
      if event.deliverable negotiation.provider.session.sent then
        (negotiation.visitor.step (plan .visitor) event).map fun process =>
          { negotiation with visitor := process }
      else none
  | .provider event =>
      if event.deliverable negotiation.visitor.session.sent then
        (negotiation.provider.step (plan .provider) event).map fun process =>
          { negotiation with provider := process }
      else none

def accepted (negotiation : Negotiation) : Nat → Prop :=
  HasEpoch negotiation.provider.session.history.adoptions

def confirmed (negotiation : Negotiation) : Nat → Prop :=
  HasEpoch negotiation.visitor.session.history.confirmations

/-- Both sessions and all their threads rely on what the other side has done. -/
structure Sound (negotiation : Negotiation) : Prop where
  visitor : negotiation.visitor.session.VisitorSound negotiation.accepted
  visitorThreads : ∀ thread, (negotiation.visitor.threads thread).VisitorSound
    negotiation.accepted negotiation.visitor.session.history
  provider : negotiation.provider.session.ProviderAgrees negotiation.confirmed
  providerThreads : ∀ thread, (negotiation.provider.threads thread).ProviderSound
    negotiation.confirmed negotiation.provider.session.history

variable {negotiation next : Negotiation} {plan : Role → PunchPlan} {process : Process}
  {thread : Nat}

theorem Sound.new (visitorRemote providerRemote : String) :
    (new visitorRemote providerRemote).Sound where
  visitor := .new
  visitorThreads := fun _ => trivial
  provider := .new
  providerThreads := fun _ => trivial

variable {outcome : RuntimeSession × Stage} {packet : UDPPacket}

theorem Sound.visitorStep (sound : negotiation.Sound)
    (steps : RuntimeSession.VisitorSound.Outcome negotiation.accepted
      negotiation.visitor.session outcome) :
    ({ negotiation with visitor := negotiation.visitor.update thread outcome } :
      Negotiation).Sound where
  visitor := steps.sound
  visitorThreads := by
    intro other
    by_cases same : other = thread
    · subst same
      rw [Process.threads_update_self]
      exact steps.stage
    · rw [Process.threads_update_of_ne same]
      exact (sound.visitorThreads other).mono (fun _ isAccepted => isAccepted) steps.grows
  provider := sound.provider.mono fun _ isConfirmed => isConfirmed.mono steps.grows.confirmations
  providerThreads := by
    intro other
    exact (sound.providerThreads other).mono
      (fun _ isConfirmed => isConfirmed.mono steps.grows.confirmations) .refl

theorem Sound.providerStep (sound : negotiation.Sound)
    (steps : RuntimeSession.ProviderAgrees.Outcome negotiation.confirmed
      negotiation.provider.session outcome) :
    ({ negotiation with provider := negotiation.provider.update thread outcome } :
      Negotiation).Sound where
  visitor := sound.visitor.mono fun _ isAccepted => isAccepted.mono steps.grows.adoptions
  visitorThreads := by
    intro other
    exact (sound.visitorThreads other).mono
      (fun _ isAccepted => isAccepted.mono steps.grows.adoptions) .refl
  provider := steps.agrees
  providerThreads := by
    intro other
    by_cases same : other = thread
    · subst same
      rw [Process.threads_update_self]
      exact steps.stage
    · rw [Process.threads_update_of_ne same]
      exact (sound.providerThreads other).mono (fun _ isConfirmed => isConfirmed) steps.grows

theorem effectiveNominationEpoch_of_pos (isPositive : 0 < packet.nominationEpoch) :
    effectiveNominationEpoch packet = packet.nominationEpoch := by
  rw [effectiveNominationEpoch, if_pos (Nat.ne_of_gt isPositive)]

section

variable (sound : negotiation.Sound)

include sound

theorem Sound.accepted_of_sent (isSent : packet ∈ negotiation.provider.session.sent)
    (isAccept : packet.type = .accept) :
    negotiation.accepted (effectiveNominationEpoch packet) := by
  obtain ⟨_, epoch⟩ := packet
  cases isAccept
  obtain ⟨key, isAdopted⟩ := sound.provider.accept epoch isSent
  have isPositive := (sound.provider.stored _ (sound.provider.adoptions isAdopted)).1
  rw [effectiveNominationEpoch_of_pos isPositive]
  exact ⟨key, isAdopted⟩

theorem Sound.confirmed_of_sent (isSent : packet ∈ negotiation.visitor.session.sent)
    (isReady : packet.type = .ready) : negotiation.confirmed (effectiveNominationEpoch packet) := by
  obtain ⟨_, epoch⟩ := packet
  cases isReady
  obtain ⟨key, isConfirmed⟩ := sound.visitor.ready epoch isSent
  have isPositive := (sound.visitor.confirmations _ isConfirmed).2.2.1
  rw [effectiveNominationEpoch_of_pos isPositive]
  exact ⟨key, isConfirmed⟩

theorem Sound.accepted_of_confirmed {epoch : Nat} (isConfirmed : negotiation.confirmed epoch) :
    negotiation.accepted epoch := by
  obtain ⟨_, isEntry⟩ := isConfirmed
  exact (sound.visitor.confirmations _ isEntry).2.2.2.2

theorem Sound.stepVisitor {event : SessionEvent}
    (delivered : event.deliverable negotiation.provider.session.sent = true)
    (stepEq : negotiation.visitor.step (plan .visitor) event = some process) :
    ({ negotiation with visitor := process } : Negotiation).Sound := by
  cases event with
  | receive =>
    rw [Process.step] at stepEq
    split_ifs at stepEq
    cases stepEq
    apply sound.visitorStep
    apply sound.visitor.receive
    intro isAccept
    apply sound.accepted_of_sent _ isAccept
    simpa [SessionEvent.deliverable, isAccept] using delivered
  | nominate =>
    rw [Process.step] at stepEq
    split_ifs at stepEq
    cases stepEq
    exact sound.visitorStep (sound.visitor.stays trivial)
  | advance thread now proceeds =>
    cases stepEq
    apply sound.visitorStep
    exact sound.visitor.advance _ now proceeds (sound.visitorThreads thread)
  | pruneStale =>
    cases stepEq
    exact ⟨sound.visitor.setManager sound.visitor.confirmation.pruneStale, sound.visitorThreads,
      sound.provider, sound.providerThreads⟩
  | cleanupClosed =>
    cases stepEq
    exact ⟨sound.visitor.setManager sound.visitor.confirmation.cleanupClosed,
      sound.visitorThreads, sound.provider, sound.providerThreads⟩

theorem Sound.stepProvider {event : SessionEvent}
    (delivered : event.deliverable negotiation.visitor.session.sent = true)
    (stepEq : negotiation.provider.step (plan .provider) event = some process) :
    ({ negotiation with provider := process } : Negotiation).Sound := by
  cases event with
  | receive =>
    rw [Process.step] at stepEq
    split_ifs at stepEq
    cases stepEq
    apply sound.providerStep
    apply sound.provider.receive
    intro isReady
    apply sound.confirmed_of_sent _ isReady
    simpa [SessionEvent.deliverable, isReady] using delivered
  | nominate =>
    rw [Process.step] at stepEq
    split_ifs at stepEq
    cases stepEq
    exact sound.providerStep (sound.provider.stays trivial)
  | advance thread now proceeds =>
    cases stepEq
    apply sound.providerStep
    exact sound.provider.advance _ now proceeds (fun _ => sound.accepted_of_confirmed)
      (sound.providerThreads thread)
  | pruneStale =>
    cases stepEq
    exact ⟨sound.visitor, sound.visitorThreads,
      sound.provider.setManager sound.provider.sound.pruneStale.sound
        sound.provider.sound.confirmation.pruneStale.key, sound.providerThreads⟩
  | cleanupClosed =>
    cases stepEq
    exact ⟨sound.visitor, sound.visitorThreads,
      sound.provider.setManager sound.provider.sound.cleanupClosed.sound
        sound.provider.sound.confirmation.cleanupClosed.key, sound.providerThreads⟩

theorem Sound.step {event : NegotiationEvent} (stepEq : negotiation.step plan event = some next) :
    next.Sound := by
  cases event with
  | visitor =>
    rw [Negotiation.step] at stepEq
    split_ifs at stepEq with delivered
    obtain ⟨_, stepped, rfl⟩ := Option.map_eq_some_iff.mp stepEq
    exact sound.stepVisitor delivered stepped
  | provider =>
    rw [Negotiation.step] at stepEq
    split_ifs at stepEq with delivered
    obtain ⟨_, stepped, rfl⟩ := Option.map_eq_some_iff.mp stepEq
    exact sound.stepProvider delivered stepped

end

/-- The visitor confirms one epoch at most, the provider what the visitor has confirmed, each with
the pair of its own nomination or adoption. -/
theorem negotiation_agrees {visitorRemote providerRemote : String}
    {events : List NegotiationEvent}
    (reaches : Runs.execute (step plan) (new visitorRemote providerRemote) events =
      some negotiation) :
    (∀ entry ∈ negotiation.visitor.session.history.confirmations,
      ∀ other ∈ negotiation.visitor.session.history.confirmations, other.2 = entry.2) ∧
    (∀ entry ∈ negotiation.provider.session.history.confirmations,
      ∃ key, (key, entry.2) ∈ negotiation.visitor.session.history.confirmations) ∧
    (∀ entry ∈ negotiation.visitor.session.history.confirmations,
      negotiation.visitor.session.cm.confirmedKey = entry.1 ∧
      entry ∈ negotiation.visitor.session.history.nominations) ∧
    (∀ entry ∈ negotiation.provider.session.history.confirmations,
      negotiation.provider.session.cm.confirmedKey = entry.1 ∧
      entry ∈ negotiation.provider.session.history.adoptions ∧
      ∀ other ∈ negotiation.provider.session.history.adoptions, other.2 = entry.2 → other = entry) ∧
    (negotiation.visitor.session.cm.confirmedKey ≠ "" →
      ∃ epoch, (negotiation.visitor.session.cm.confirmedKey, epoch) ∈
        negotiation.visitor.session.history.confirmations) ∧
    (negotiation.provider.session.cm.confirmedKey ≠ "" →
      ∃ epoch, (negotiation.provider.session.cm.confirmedKey, epoch) ∈
        negotiation.provider.session.history.confirmations) := by
  have sound := Runs.invariant_of_execute Sound (fun _ _ _ sound => sound.step)
    (.new visitorRemote providerRemote) reaches
  refine ⟨?_, ?_, ?_, ?_, sound.visitor.noted, sound.provider.noted⟩
  · intro entry isEntry other isOther
    rw [sound.visitor.single entry isEntry other isOther]
  · intro entry isEntry
    exact (sound.provider.confirmations entry isEntry).2.2.2
  · intro entry isEntry
    obtain ⟨-, isKey, -, isNominated, -⟩ := sound.visitor.confirmations entry isEntry
    exact ⟨isKey, isNominated⟩
  · intro entry isEntry
    obtain ⟨-, isKey, isAdopted, -⟩ := sound.provider.confirmations entry isEntry
    refine ⟨isKey, isAdopted, ?_⟩
    intro other isOther sameEpoch
    exact sound.provider.unique other (sound.provider.adoptions isOther) entry
      (sound.provider.adoptions isAdopted) sameEpoch

/-- A pair is nominated, proposed, accepted and confirmed on both sides.  The ACCEPT packet
arrives a second time. -/
def confirmingEvents : List NegotiationEvent :=
  [.visitor (.receive 0 1 ⟨.succ, 0⟩ ⟨"a:1", "b:1"⟩ ⟨1, ""⟩), .visitor (.advance 0 2 true),
    .visitor (.nominate 1), .visitor (.advance 1 3 true), .visitor (.advance 1 4 true),
    .visitor (.advance 1 5 true), .visitor (.advance 1 6 true),
    .provider (.receive 0 7 ⟨.proposal, 1⟩ ⟨"b:1", "a:1"⟩ ⟨0, ""⟩),
    .provider (.advance 0 8 true), .provider (.advance 0 9 true), .provider (.advance 0 10 true),
    .visitor (.receive 2 11 ⟨.accept, 1⟩ ⟨"a:1", "b:1"⟩ ⟨0, ""⟩), .visitor (.advance 2 12 true),
    .visitor (.advance 2 13 true), .visitor (.advance 2 14 true), .visitor (.advance 2 15 true),
    .visitor (.receive 3 16 ⟨.accept, 1⟩ ⟨"a:1", "b:1"⟩ ⟨0, ""⟩), .visitor (.advance 3 17 true),
    .provider (.receive 1 18 ⟨.ready, 1⟩ ⟨"b:1", "a:1"⟩ ⟨0, ""⟩), .provider (.advance 1 19 true),
    .provider (.advance 1 20 true)]

theorem negotiation_agrees_confirming :
    ∃ negotiation,
      Runs.execute (step fun _ => ⟨100, 100⟩) (new "b:1" "a:1") confirmingEvents =
        some negotiation ∧
      negotiation.provider.session.history.confirmations = [("b:1->a:1", 1)] ∧
      ∃ key, (key, 1) ∈ negotiation.visitor.session.history.confirmations := by
  obtain ⟨negotiation, reaches, isConfirmed⟩ : ∃ negotiation,
      Runs.execute (step fun _ => ⟨100, 100⟩) (new "b:1" "a:1") confirmingEvents =
          some negotiation ∧
        negotiation.provider.session.history.confirmations = [("b:1->a:1", 1)] :=
    Runs.exists_of_any (by decide +kernel)
  refine ⟨negotiation, reaches, isConfirmed, ?_⟩
  apply (negotiation_agrees reaches).2.1 ("b:1->a:1", 1)
  rw [isConfirmed]
  exact List.mem_singleton_self _

end Negotiation

end DeepNps.P2P
