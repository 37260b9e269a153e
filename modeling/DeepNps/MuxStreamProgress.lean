import DeepNps.MuxReceiverAnswers
import DeepNps.MuxStreamLink

/-!
# A stream does not run dry

The sender is not left waiting as long as the two loads of the session counter in
`sendStatus` agree.  If another stream moves the counter in between, the test for an empty
window fails and the bytes read are never reported.
-/

namespace DeepNps.Mux

open StreamReceiver

namespace StreamLink

/-- Nothing is on its way, a segment being cut, taken in or accounted for included, nothing is
buffered, and neither side is closed. -/
structure Quiescent (link : StreamLink) : Prop where
  noData : link.inFlight = 0
  noUpdates : link.updates = []
  noIncomingUpdate : link.receiver.incoming.update = none
  noReadingUpdate : link.receiver.reading.update = none
  notAccounting : link.receiver.reading.accounting = false
  isEmpty : link.buffered = 0
  isOpen : link.IsOpen

/-- The two loads of the session counter in each `sendStatus` agree. -/
def Steady (link : StreamLink) : LinkEvent → Prop
  | .receive event => link.receiver.Steady event
  | _ => True

def loadsLimit : LinkEvent → Bool
  | .receive (.statusLimit _) => true
  | _ => false

theorem steady_of_loadsLimit {event : LinkEvent} (notLimit : loadsLimit event = false)
    (link : StreamLink) : link.Steady event := by
  cases event with
  | receive event =>
    cases event with
    | statusLimit => cases notLimit
    | _ => trivial
  | _ => trivial

variable {cfg : MuxConfig} {link next : StreamLink}

/-- The invariant of the link under steady loads. -/
structure Answered (cfg : MuxConfig) (link : StreamLink) : Prop where
  sound : link.Sound cfg
  answering : link.receiver.Answering cfg

theorem Answered.step (normalized : cfg.Normalized) (answered : link.Answered cfg)
    {event : LinkEvent} (steady : link.Steady event)
    (stepEq : link.step cfg event = some next) : next.Answered cfg := by
  have answering := answered.answering
  have receiverOk := answered.sound.receiver
  have exact := answered.sound.exact
  refine ⟨answered.sound.step normalized stepEq, ?_⟩
  cases steps_of_step stepEq with
  | receive _ _ _ _ isResult =>
    have steps := StreamReceiver.steps_of_step isResult
    exact answering.steps normalized receiverOk exact steady steps
  | deliver _ _ _ _ _ _ _ isResult
  | deliverFinish _ _ _ _ _ isResult =>
    have steps := StreamReceiver.steps_of_step isResult
    exact answering.steps normalized receiverOk exact (by trivial) steps
  | _ => exact answering

theorem Quiescent.outstanding_eq_zero (quiescent : link.Quiescent)
    (answered : link.Answered cfg) : link.sender.window.outstanding = 0 := by
  have receiverOpen := quiescent.isOpen.receiveWindow
  have noData := quiescent.noData
  have isEmpty := quiescent.isEmpty
  have notAccounting := quiescent.notAccounting
  rw [inFlight] at noData
  rw [buffered] at isEmpty
  have noLength : link.receiver.reading.length = 0 := by
    cases isReading : link.receiver.reading <;>
      simp [isReading, Reading.accounting, Reading.length] at notAccounting ⊢
  have reset : wordDone link.receiver.window.maxSizeDone = 0 := by
    rcases answered.answering.answered with isClosed | reset | some | status
    · rw [receiverOpen] at isClosed
      cases isClosed
    · exact reset
    · simp only [unfinished] at some
      omega
    · rw [notAccounting] at status
      cases status
  have credit := answered.sound.eq quiescent.isOpen
  simp only [awaited, inFlight, buffered, reportedInFlight, unreported,
    reporting, quiescent.noUpdates, quiescent.noIncomingUpdate,
    quiescent.noReadingUpdate, noLength, reset, reported_none, List.map_nil, List.sum_nil] at credit
  omega

end StreamLink

/-- If the two loads of the session counter in each `sendStatus` agree, a stream on which nothing
is in flight or buffered can be written to at once. -/
theorem quiescent_window_positive (cfg : MuxConfig) (events : List LinkEvent) (link : StreamLink)
    (steady : Runs.Meets (StreamLink.step (normalizeMuxConfig cfg)) StreamLink.Steady
      StreamLink.new events)
    (reaches : Runs.execute (StreamLink.step (normalizeMuxConfig cfg)) StreamLink.new events =
      some link)
    (quiescent : link.Quiescent) :
    0 < (SendWindow.remainingSize (unpack link.sender.window.maxSizeDone).maxSize
      (unpack link.sender.window.maxSizeDone).done).toNat ∧
    ∀ buf, (link.sender.window.setSendBuf buf).writeTo.2 ≠ .wait := by
  have normalized := normalizeMuxConfig_normalized cfg
  have answered : link.Answered (normalizeMuxConfig cfg) :=
    Runs.invariant_of_meets _ (fun _ _ _ answered isSteady stepEq =>
        answered.step normalized isSteady stepEq)
      ⟨StreamLink.new_sound normalized, StreamReceiver.new_answering _⟩ steady reaches
  have nothing := quiescent.outstanding_eq_zero answered
  have positive := answered.sound.sender.size.1
  rw [SendWindow.remaining_toNat]
  refine ⟨by omega, ?_⟩
  intro _
  apply SendWindow.writeTo_ne_wait
  show link.sender.window.outstanding < link.sender.window.maxSize
  omega

def twoBytesRead : List LinkEvent :=
  StreamLink.writeSegment [1, 2] ++ StreamLink.takeIn (.unmoved 191484 none ⟨0, 0⟩) 0 0 ++
    [.receive .incomingNotify] ++ StreamLink.readSegment 2 ++
    [.receive .release, .receive (.statusSize (.unmoved 0 none ⟨0, 0⟩)), .receive .statusLoad,
      .receive (.statusBound 0)]

def twoBytesReported : List LinkEvent :=
  [.receive (.statusLimit 0), .receive .statusRemain, .receive .statusCommit,
    .receive .statusNotify, .answer 0]

theorem quiescent_window_positive_twoBytes :
    ∃ link, Runs.execute (StreamLink.step (normalizeMuxConfig defaultMuxConfig)) StreamLink.new
        (twoBytesRead ++ twoBytesReported) = some link ∧
      link.receiver.returned = [1, 2] ∧
      0 < (SendWindow.remainingSize (unpack link.sender.window.maxSizeDone).maxSize
        (unpack link.sender.window.maxSizeDone).done).toNat := by
  refine ⟨_, rfl, rfl, ?_⟩
  refine (quiescent_window_positive defaultMuxConfig (twoBytesRead ++ twoBytesReported) _ ?_ rfl
    ⟨rfl, rfl, rfl, rfl, rfl, rfl, ⟨rfl, rfl, rfl, rfl, rfl, rfl⟩⟩).1
  apply Runs.Meets.append
  · apply Runs.meets_of_always
    intro event isMember
    have noLimit : ∀ event ∈ twoBytesRead, StreamLink.loadsLimit event = false := by decide
    exact StreamLink.steady_of_loadsLimit (noLimit event isMember)
  · intro _ reaches
    cases reaches
    refine ⟨?_, fun next _ => Runs.meets_of_always ?_⟩
    · rintro call l word maxSize bound isReading
      cases isReading
      rfl
    · intro event isMember
      have noLimit : ∀ event ∈ twoBytesReported.tail, StreamLink.loadsLimit event = false := by
        decide
      exact StreamLink.steady_of_loadsLimit (noLimit event isMember)

/-- The session counter when other streams have used up the default budget, when they leave 200000
bytes of it and when they leave 150000. -/
def exhaustedSession : UInt64 := 268435456
def ampleSession : UInt64 := 268235456
def scarceSession : UInt64 := 268285456

def readByte (sample : SizeSample) (bound limit : UInt64) : List LinkEvent :=
  StreamLink.readSegment 1 ++ StreamLink.accountFor sample bound limit

/-- When the last of six bytes is taken in the session is exhausted, so an update that shrinks the
window to the five bytes buffered is due.  The first byte is read before that update is sent, and
the update of the `Read` overtakes it. -/
def shrunkWindow : List LinkEvent :=
  (([1, 2, 3, 4, 5, 6] : List UInt8).flatMap fun byte => StreamLink.writeSegment [byte]) ++
  StreamLink.takeIn (.unmoved 191484 none ⟨ampleSession, 0⟩) ampleSession ampleSession ++
  [.receive .incomingNotify] ++
  (List.replicate 4 (StreamLink.takeIn (.unmoved 0 none ⟨0, 0⟩) ampleSession ampleSession ++
    [.receive .incomingNotify])).flatten ++
  StreamLink.takeIn (.unmoved 0 none ⟨0, 0⟩) exhaustedSession exhaustedSession ++
  readByte (.unmoved 0 none ⟨0, 0⟩) ampleSession ampleSession ++
  [.receive .incomingNotify, .answer 0, .answer 0]

/-- The other five bytes are read.  Between the two loads of the last status
another stream takes in 50000 bytes. -/
def unreportedReads : List LinkEvent :=
  (List.replicate 3 (readByte (.unmoved 0 none ⟨0, 0⟩) ampleSession ampleSession)).flatten ++
  readByte (.unmoved 191481 none ⟨ampleSession, 1⟩) ampleSession ampleSession ++
  readByte (.unmoved 0 none ⟨0, 0⟩) ampleSession scarceSession

def dryLink : StreamLink :=
  { StreamLink.new with
    sender :=
      { StreamSender.new with
        window := { SendWindow.new with maxSizeDone := pack 5 5 false, off := 1, buf := [6] }
        accepted := [1, 2, 3, 4, 5, 6]
        acceptedBefore := [1, 2, 3, 4, 5] }
    receiver :=
      { StreamReceiver.new with
        window :=
          { ReceiveWindow.new with
            maxSizeDone := pack 191481 5 false
            off := 1
            element := some ⟨[6], 1, false⟩
            count := -8 }
        delivered := [1, 2, 3, 4, 5, 6]
        returned := [1, 2, 3, 4, 5, 6] } }

set_option maxRecDepth 4000 in
theorem window_runs_dry :
    Runs.execute (StreamLink.step (normalizeMuxConfig defaultMuxConfig)) StreamLink.new
        (shrunkWindow ++ unreportedReads) = some dryLink ∧
      dryLink.Quiescent ∧ dryLink.receiver.unreported = 5 ∧
      SendWindow.remainingSize (unpack dryLink.sender.window.maxSizeDone).maxSize
        (unpack dryLink.sender.window.maxSizeDone).done = 0 ∧
      (dryLink.sender.window.setSendBuf [7]).writeTo.2 = .wait :=
  ⟨rfl, ⟨rfl, rfl, rfl, rfl, rfl, rfl, ⟨rfl, rfl, rfl, rfl, rfl, rfl⟩⟩, rfl, rfl, rfl⟩

end DeepNps.Mux
