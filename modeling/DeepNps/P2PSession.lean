import DeepNps.P2PNomination

/-!
# A P2P session

A visitor nominates pairs under new epochs and proposes them with END packets, a provider
answers with ACCEPT, and with READY both have confirmed.  A step of a thread is one
critical section, or one packet that it writes.
-/

namespace DeepNps.P2P

inductive Role
  | visitor
  | provider
  deriving DecidableEq

structure Addresses where
  localAddr : String
  remoteAddr : String
  deriving DecidableEq

def Addresses.key (addresses : Addresses) : String :=
  candidateKey addresses.localAddr addresses.remoteAddr

/-- The types of packets; `packetTypeEnd` is called a proposal. -/
inductive PacketType
  | probe
  | punch
  | succ
  | proposal
  | accept
  | ready
  deriving DecidableEq

structure UDPPacket where
  type : PacketType
  nominationEpoch : Nat
  deriving DecidableEq

def effectiveNominationEpoch (packet : UDPPacket) : Nat :=
  if packet.nominationEpoch ≠ 0 then packet.nominationEpoch
  else
    match packet.type with
    | .proposal | .accept | .ready => 1
    | .probe | .punch | .succ => 0

structure OutboundNominationState where
  key : String
  epoch : Nat
  startedAt : Int
  deriving DecidableEq

structure InboundProposalState where
  key : String
  epoch : Nat
  deriving DecidableEq

/-- What a session has done so far, as keys with epochs.  The code does not read it. -/
structure History where
  /-- The proposals that were received. -/
  received : List (String × Nat)
  /-- The proposals that were stored. -/
  stored : List (String × Nat)
  /-- The proposals that the candidate manager adopted. -/
  adoptions : List (String × Nat)
  /-- The nominations under their epochs. -/
  nominations : List (String × Nat)
  /-- The confirmations, under the epoch of the packet that led to them. -/
  confirmations : List (String × Nat)
  deriving DecidableEq

structure PunchPlan where
  renominationTimeout : Int
  renominationCooldown : Int

structure RuntimeSession where
  role : Role
  cm : CandidateManager
  outboundNomination : OutboundNominationState
  inboundProposal : InboundProposalState
  /-- Counted modulo the size of a `uint32`. -/
  nextNominationEpoch : Nat
  /-- Every packet that was written. -/
  sent : List UDPPacket
  history : History

inductive Stage
  | idle
  -- `handleSuccessPacket`
  | success (addresses : Addresses) (priority : CandidatePriority)
  -- `handleProposalPacket` and the loop of `startAcceptLoop`
  | proposal (addresses : Addresses) (epoch : Nat)
  | adopting (addresses : Addresses) (epoch : Nat)
  | accepting (addresses : Addresses) (epoch : Nat)
  | acceptLoop (addresses : Addresses) (epoch : Nat)
  | acceptMatch (addresses : Addresses) (epoch : Nat)
  | acceptResend (addresses : Addresses) (epoch : Nat)
  -- `handleAcceptPacket`
  | accept (addresses : Addresses) (epoch : Nat)
  | confirmAccept (addresses : Addresses) (epoch : Nat)
  | clearConfirmed (addresses : Addresses) (epoch : Nat)
  | sendReady (addresses : Addresses) (epoch : Nat)
  -- `handleReadyPacket`
  | ready (addresses : Addresses) (epoch : Nat)
  | confirmReady (addresses : Addresses) (epoch : Nat)
  -- `nominateBestCandidate`
  | nominateBest
  | numbering (addresses : Addresses)
  | nominating (addresses : Addresses) (epoch : Nat)
  | proposing (addresses : Addresses) (epoch : Nat)
  | withdrawing (addresses : Addresses) (epoch : Nat)
  | releasing (addresses : Addresses)
  -- the loop of `startNominationLoopWithEpoch`
  | nominationLoop (addresses : Addresses) (epoch : Nat)
  | nominationMatch (addresses : Addresses) (epoch : Nat)
  | nominationTimer (addresses : Addresses) (epoch : Nat)
  | nominationResend (addresses : Addresses) (epoch : Nat)
  -- `tryRenominate`
  | renominating (addresses : Addresses) (epoch : Nat)
  | backingOff (addresses : Addresses) (epoch : Nat)
  | clearing (addresses : Addresses) (epoch : Nat)
  deriving DecidableEq

namespace RuntimeSession

def new (role : Role) (rendezvousRemote : String) : RuntimeSession where
  role := role
  cm := newCandidateManager rendezvousRemote
  outboundNomination := ⟨"", 0, 0⟩
  inboundProposal := ⟨"", 0⟩
  nextNominationEpoch := 0
  sent := []
  history := ⟨[], [], [], [], []⟩

def setManager (session : RuntimeSession) (cm : CandidateManager) : RuntimeSession :=
  { session with cm := cm }

def noteReceived (session : RuntimeSession) (addresses : Addresses) (epoch : Nat) :
    RuntimeSession :=
  { session with
    history := { session.history with
      received := (addresses.key, epoch) :: session.history.received } }

def noteAdoption (session : RuntimeSession) (addresses : Addresses) (epoch : Nat) :
    RuntimeSession :=
  { session with
    history := { session.history with
      adoptions := (addresses.key, epoch) :: session.history.adoptions } }

def noteConfirmation (session : RuntimeSession) (addresses : Addresses) (epoch : Nat) :
    RuntimeSession :=
  { session with
    history := { session.history with
      confirmations := (addresses.key, epoch) :: session.history.confirmations } }

def write (session : RuntimeSession) (type : PacketType) (epoch : Nat) : RuntimeSession :=
  { session with sent := ⟨type, epoch⟩ :: session.sent }

def nextOutboundNominationEpoch (session : RuntimeSession) : Nat :=
  let epoch := (session.nextNominationEpoch + 1) % 2 ^ 32
  if epoch = 0 then 1 else epoch

def setOutboundNomination (session : RuntimeSession) (now : Int) (addresses : Addresses)
    (epoch : Nat) : RuntimeSession :=
  { session with
    outboundNomination := ⟨addresses.key, epoch, now⟩
    history := { session.history with
      nominations := (addresses.key, epoch) :: session.history.nominations } }

def clearOutboundNomination (session : RuntimeSession) (addresses : Addresses) (epoch : Nat) :
    RuntimeSession :=
  if session.outboundNomination.key ≠ addresses.key ∨
      session.outboundNomination.epoch ≠ epoch then session
  else { session with outboundNomination := ⟨"", 0, 0⟩ }

def matchesOutboundNomination (session : RuntimeSession) (addresses : Addresses) (epoch : Nat) :
    Bool :=
  if epoch = 0 then false
  else session.outboundNomination.key = addresses.key ∧ session.outboundNomination.epoch = epoch

def setInboundProposal (session : RuntimeSession) (addresses : Addresses) (epoch : Nat) :
    RuntimeSession :=
  { session with
    inboundProposal := ⟨addresses.key, epoch⟩
    history := { session.history with
      stored := (addresses.key, epoch) :: session.history.stored } }

def matchesInboundProposal (session : RuntimeSession) (addresses : Addresses) (epoch : Nat) :
    Bool :=
  if epoch = 0 then false
  else session.inboundProposal.key = addresses.key ∧ session.inboundProposal.epoch = epoch

def shouldRenominate (plan : PunchPlan) (session : RuntimeSession) (now : Int)
    (addresses : Addresses) (epoch : Nat) : Bool :=
  if session.outboundNomination.key ≠ addresses.key ∨
      session.outboundNomination.epoch ≠ epoch then false
  else if session.outboundNomination.startedAt = 0 then false
  else plan.renominationTimeout ≤ elapsed now session.outboundNomination.startedAt

def storeProposal (session : RuntimeSession) (addresses : Addresses) (epoch : Nat) :
    RuntimeSession × Stage :=
  let current := session.inboundProposal
  if epoch < current.epoch then (session, .idle)
  else if current.epoch = epoch ∧ current.key ≠ "" ∧ current.key ≠ addresses.key then
    (session, .idle)
  else (session.setInboundProposal addresses epoch, .adopting addresses epoch)

def adoptProposal (session : RuntimeSession) (now : Int) (addresses : Addresses) (epoch : Nat) :
    RuntimeSession × Stage :=
  let (pair, adopted, cm) := session.cm.adoptNomination now addresses.localAddr addresses.remoteAddr
  let session := session.setManager cm
  (if adopted then session.noteAdoption addresses epoch else session,
    if adopted || pair.nominated then .accepting addresses epoch else .idle)

/-- `Confirm`, with the stage that follows when the pair is newly confirmed. -/
def confirm (session : RuntimeSession) (now : Int) (addresses : Addresses) (epoch : Nat)
    (confirmedStage : Stage) : RuntimeSession × Stage :=
  match session.cm.confirm now addresses.localAddr addresses.remoteAddr with
  | (none, cm) => (session.setManager cm, .idle)
  | (some _, cm) => ((session.setManager cm).noteConfirmation addresses epoch, confirmedStage)

/-- `TryNominateBest` in `nominateBestCandidate`. -/
def nominateBestCandidate (session : RuntimeSession) (now : Int) : RuntimeSession × Stage :=
  if session.role ≠ .visitor then (session, .idle)
  else
    match session.cm.tryNominateBest now with
    | (some pair, true, cm) => (session.setManager cm, .numbering ⟨pair.localAddr, pair.remoteAddr⟩)
    | (_, _, cm) => (session.setManager cm, .idle)

/-- The handler of a packet, after it has observed the pair. -/
def dispatch (session : RuntimeSession) (packet : UDPPacket) (addresses : Addresses)
    (priority : CandidatePriority) : RuntimeSession × Stage :=
  let epoch := effectiveNominationEpoch packet
  match packet.type with
  | .probe | .punch => (session, .idle)
  | .succ => (session, .success addresses priority)
  | .proposal =>
      if session.role ≠ .provider ∨ epoch = 0 then (session, .idle)
      else (session.noteReceived addresses epoch, .proposal addresses epoch)
  | .accept =>
      if session.role ≠ .visitor then (session, .idle) else (session, .accept addresses epoch)
  | .ready =>
      if session.role ≠ .provider then (session, .idle) else (session, .ready addresses epoch)

/-- `dispatchValidatedPacket`: every handler observes the pair first. -/
def receive (session : RuntimeSession) (now : Int) (packet : UDPPacket) (addresses : Addresses)
    (priority : CandidatePriority) : RuntimeSession × Stage :=
  let (_, cm) := session.cm.observe now addresses.localAddr addresses.remoteAddr ⟨0, ""⟩
  (session.setManager cm).dispatch packet addresses priority

/-- Writing a packet, finding the socket, waiting and going on with a loop can fail, in which case
the thread does not proceed. -/
def advance (plan : PunchPlan) (session : RuntimeSession) (now : Int) (proceeds : Bool) :
    Stage → RuntimeSession × Stage
  | .idle => (session, .idle)
  | .success addresses priority =>
      (session.setManager (session.cm.markSucceededWithPriority now addresses.localAddr
        addresses.remoteAddr priority).2, .idle)
  | .proposal addresses epoch => session.storeProposal addresses epoch
  | .adopting addresses epoch => session.adoptProposal now addresses epoch
  | .accepting addresses epoch =>
      (if proceeds then session.write .accept epoch else session, .acceptLoop addresses epoch)
  | .acceptLoop addresses epoch =>
      (session,
        if proceeds && !session.cm.hasConfirmed then .acceptMatch addresses epoch else .idle)
  | .acceptMatch addresses epoch =>
      (session,
        if session.matchesInboundProposal addresses epoch then .acceptResend addresses epoch
        else .idle)
  | .acceptResend addresses epoch =>
      if proceeds then (session.write .accept epoch, .acceptLoop addresses epoch)
      else (session, .idle)
  | .accept addresses epoch =>
      (session,
        if session.matchesOutboundNomination addresses epoch then .confirmAccept addresses epoch
        else .idle)
  | .confirmAccept addresses epoch =>
      session.confirm now addresses epoch (.clearConfirmed addresses epoch)
  | .clearConfirmed addresses epoch =>
      (session.clearOutboundNomination addresses epoch, .sendReady addresses epoch)
  | .sendReady addresses epoch =>
      if proceeds then (session.write .ready epoch, .sendReady addresses epoch)
      else (session, .idle)
  | .ready addresses epoch =>
      (session,
        if session.matchesInboundProposal addresses epoch then .confirmReady addresses epoch
        else .idle)
  | .confirmReady addresses epoch => session.confirm now addresses epoch .idle
  | .nominateBest => session.nominateBestCandidate now
  | .numbering addresses =>
      if proceeds then
        let epoch := session.nextOutboundNominationEpoch
        ({ session with nextNominationEpoch := epoch }, .nominating addresses epoch)
      else (session, .releasing addresses)
  | .nominating addresses epoch =>
      (session.setOutboundNomination now addresses epoch, .proposing addresses epoch)
  | .proposing addresses epoch =>
      if proceeds then (session.write .proposal epoch, .nominationLoop addresses epoch)
      else (session, .withdrawing addresses epoch)
  | .withdrawing addresses epoch =>
      (session.clearOutboundNomination addresses epoch, .releasing addresses)
  | .releasing addresses =>
      (session.setManager
        (session.cm.releaseNomination now addresses.localAddr addresses.remoteAddr).2, .idle)
  | .nominationLoop addresses epoch =>
      (session,
        if proceeds && !session.cm.hasConfirmed then .nominationMatch addresses epoch else .idle)
  | .nominationMatch addresses epoch =>
      (session,
        if session.matchesOutboundNomination addresses epoch then .nominationTimer addresses epoch
        else .idle)
  | .nominationTimer addresses epoch =>
      (session,
        if session.shouldRenominate plan now addresses epoch then .renominating addresses epoch
        else .nominationResend addresses epoch)
  | .nominationResend addresses epoch =>
      if proceeds then (session.write .proposal epoch, .nominationLoop addresses epoch)
      else (session, .idle)
  | .renominating addresses epoch =>
      (session,
        if session.matchesOutboundNomination addresses epoch then .backingOff addresses epoch
        else .idle)
  | .backingOff addresses epoch =>
      (session.setManager (session.cm.backoffNomination now addresses.localAddr
        addresses.remoteAddr plan.renominationCooldown).2, .clearing addresses epoch)
  | .clearing addresses epoch => (session.clearOutboundNomination addresses epoch, .nominateBest)

theorem confirm_cases (session : RuntimeSession) (now : Int) (addresses : Addresses)
    (epoch : Nat) (stage : Stage) :
    session.confirm now addresses epoch stage = (session, .idle) ∨
      ∃ pair : CandidatePair, session.cm.confirmedKey = "" ∧ pair.key = addresses.key ∧
        pair.state = .confirmed ∧ pair.nominated = false ∧ pair.confirmed = true ∧
        session.confirm now addresses epoch stage =
          ((session.setManager (session.cm.settle pair addresses.remoteAddr)).noteConfirmation
            addresses epoch, stage) := by
  rw [confirm]
  obtain unchanged | ⟨pair, found, -, noneConfirmed, confirms⟩ :=
    CandidateManager.confirm_cases session.cm now addresses.localAddr addresses.remoteAddr
  · rw [unchanged]
    exact .inl rfl
  · have isKey := Table.key_of_get found
    rw [confirms]
    exact .inr ⟨(pair.seenAt now).markConfirmed, noneConfirmed, isKey, rfl, rfl, rfl, rfl⟩

end RuntimeSession

structure Process where
  session : RuntimeSession
  threads : Nat → Stage

inductive SessionEvent
  /-- A read loop takes a packet; the packet type decides about the priority. -/
  | receive (thread : Nat) (now : Int) (packet : UDPPacket) (addresses : Addresses)
      (priority : CandidatePriority)
  /-- A goroutine of `scheduleBestNomination` or `scheduleNominationRetry` has waited. -/
  | nominate (thread : Nat)
  | advance (thread : Nat) (now : Int) (proceeds : Bool)
  /-- The steps of `candidateMaintenanceLoop`. -/
  | pruneStale (now maxAge : Int)
  | cleanupClosed (now maxAge : Int)

namespace Process

def new (role : Role) (rendezvousRemote : String) : Process where
  session := .new role rendezvousRemote
  threads := fun _ => .idle

def update (process : Process) (thread : Nat) (outcome : RuntimeSession × Stage) : Process where
  session := outcome.1
  threads := Function.update process.threads thread outcome.2

def setSession (process : Process) (session : RuntimeSession) : Process :=
  { process with session := session }

def step (plan : PunchPlan) (process : Process) : SessionEvent → Option Process
  | .receive thread now packet addresses priority =>
      if process.threads thread = .idle then
        some (process.update thread (process.session.receive now packet addresses priority))
      else none
  | .nominate thread =>
      if process.threads thread = .idle then
        some (process.update thread (process.session, .nominateBest))
      else none
  | .advance thread now proceeds =>
      some (process.update thread
        (process.session.advance plan now proceeds (process.threads thread)))
  | .pruneStale now maxAge =>
      some (process.setSession
        (process.session.setManager (process.session.cm.pruneStale now maxAge).2))
  | .cleanupClosed now maxAge =>
      some (process.setSession
        (process.session.setManager (process.session.cm.cleanupClosed now maxAge).2))

variable {process : Process} {session : RuntimeSession} {thread : Nat}
  {outcome : RuntimeSession × Stage}

theorem threads_update_self : (process.update thread outcome).threads thread = outcome.2 :=
  Function.update_self ..

theorem threads_update_of_ne {other : Nat} (differs : other ≠ thread) :
    (process.update thread outcome).threads other = process.threads other :=
  Function.update_of_ne differs ..

theorem session_update : (process.update thread outcome).session = outcome.1 := rfl

theorem session_setSession : (process.setSession session).session = session := rfl

end Process

end DeepNps.P2P
