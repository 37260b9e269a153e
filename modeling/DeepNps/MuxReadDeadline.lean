import DeepNps.MuxStreamLink

/-!
# Read deadlines

A `Read` whose deadline passes returns a timeout that claims to be temporary, and closes
the receive window on its way out.
-/

namespace DeepNps.Mux

namespace StreamReceiver

/-- A closed window that no `Read` is using, with what was handed out so far. -/
structure Shut (returned : List UInt8) (receiver : StreamReceiver) : Prop where
  isClosed : receiver.window.closeOp = true
  isIdle : receiver.reading = .idle
  sameReturned : receiver.returned = returned

variable {cfg : MuxConfig} {receiver after : StreamReceiver} {output : ReceiverOutput}
  {returned : List UInt8}

theorem Shut.steps (shut : receiver.Shut returned) {event : ReceiverEvent}
    (steps : Steps cfg receiver event after output) : after.Shut returned := by
  have isClosed := shut.isClosed
  have isIdle := shut.isIdle
  cases steps with
  | arriveRefused | readClosed => exact shut
  | arrive | incomingLoad
  | incomingBound
  | incomingLimit
  | incomingRemain
  | incomingCommit
  | incomingRetry
  | incomingPush | incomingNotify
  | setDeadline | setPriority | stop => exact { shut with }
  | incomingSize sample =>
    obtain ⟨_, _, sized⟩ := ReceiveWindow.calcSize_eq cfg sample receiver.window
    exact { shut with isClosed := by rw [sized]; exact isClosed }
  | incomingReserve =>
    rw [ReceiveWindow.reserveBytes_eq]
    exact { shut with }
  | read _ _ _ isOpen =>
    rw [isClosed] at isOpen
    cases isOpen
  | close => exact { shut with isClosed := by rw [ReceiveWindow.closeWindow_eq] }
  | _ =>
    -- every other transition belongs to a `Read` in progress
    simp_all

theorem shut_of_fail {call : ReadCall} {error : ReadError}
    (isReading : receiver.reading = .failed call error)
    (stepEq : receiver.step cfg .fail = some (after, output)) :
    after.Shut (receiver.returned ++ call.copied) ∧
      output.result = some (call.copied, some error) := by
  cases steps_of_step stepEq with
  | fail _ _ isOther =>
    rw [isReading] at isOther
    cases isOther
    exact ⟨⟨by rw [ReceiveWindow.closeWindow_eq], rfl, rfl⟩, rfl⟩

theorem Shut.read (shut : receiver.Shut returned) {room : Nat} (positive : room ≠ 0) :
    receiver.step cfg (.read room) = some (receiver, { result := some ([], some .eof) }) := by
  simp [step, incomingStep, readStep, shut.isIdle, shut.isClosed, positive]

theorem Shut.arrive (shut : receiver.Shut returned) (isIncoming : receiver.incoming = .idle)
    (bytes : List UInt8) (part : Bool) :
    receiver.step cfg (.arrive bytes part) = some (receiver, { refused := true }) := by
  simp [step, incomingStep, isIncoming, shut.isClosed]

end StreamReceiver

theorem StreamLink.shut_of_execute {cfg : MuxConfig} {link later : StreamLink}
    {returned : List UInt8} {events : List LinkEvent} (shut : link.receiver.Shut returned)
    (continues : Runs.execute (StreamLink.step cfg) link events = some later) :
    later.receiver.Shut returned := by
  induction events generalizing link with
  | nil =>
    cases continues
    exact shut
  | cons event _ ih =>
    obtain ⟨_, stepEq, continues⟩ := Runs.execute_cons_eq_some.mp continues
    refine ih ?_ continues
    cases StreamLink.steps_of_step stepEq with
    | receive _ _ _ _ isResult
    | deliver _ _ _ _ _ _ _ isResult
    | deliverFinish _ _ _ _ _ isResult => exact shut.steps (StreamReceiver.steps_of_step isResult)
    | _ => exact shut

/-- After a `Read` that returns a timeout, whatever happens and whatever the deadline, the window
is closed, no byte is handed out, every `Read` reports the end and every segment is refused. -/
theorem timedOut_read_ends_stream (cfg : MuxConfig) (events : List LinkEvent)
    (link failed later : StreamLink) (call : ReadCall)
    (timedOut : link.receiver.reading = .failed call .timeout)
    (returns : link.step (normalizeMuxConfig cfg) (.receive .fail) = some failed)
    (continues : Runs.execute (StreamLink.step (normalizeMuxConfig cfg)) failed events =
      some later) :
    later.receiver.window.closeOp = true ∧
    later.receiver.returned = failed.receiver.returned ∧
    (∀ room, room ≠ 0 → later.receiver.step (normalizeMuxConfig cfg) (.read room) =
      some (later.receiver, { result := some ([], some .eof) })) ∧
    (∀ bytes part, later.receiver.incoming = .idle →
      later.receiver.step (normalizeMuxConfig cfg) (.arrive bytes part) =
        some (later.receiver, { refused := true })) := by
  cases StreamLink.steps_of_step returns with
  | receive _ _ _ _ isResult =>
    have failedShut := (StreamReceiver.shut_of_fail timedOut isResult).1
    have shut := StreamLink.shut_of_execute failedShut continues
    refine ⟨shut.isClosed, shut.sameReturned.trans failedShut.sameReturned.symm, ?_, ?_⟩
    · intro _ positive
      exact shut.read positive
    · intro bytes part isIncoming
      exact shut.arrive isIncoming bytes part

/-- A `Read` with a deadline waits until it has passed. -/
def waitUntilDeadline : List LinkEvent :=
  [.receive (.setDeadline (some 10)), .receive (.read 8), .receive .loop, .receive (.expire 10)]

def writeAfterwards : List LinkEvent :=
  [.receive (.setDeadline none)] ++ StreamLink.writeSegment [1, 2, 3] ++ [.deliver]

/-- The stream when the deadline has passed, and when the `Read` has returned. -/
def expiredLink : StreamLink :=
  { StreamLink.new with
    receiver :=
      { StreamReceiver.new with
        window := { ReceiveWindow.new with element := none }
        reading := .failed ⟨8, []⟩ .timeout
        deadline := some 10 } }

def failedLink : StreamLink :=
  { StreamLink.new with
    receiver :=
      { StreamReceiver.new with
        window := ({ ReceiveWindow.new with element := none } : ReceiveWindow).closeWindow
        deadline := some 10 } }

theorem timedOut_read_ends_stream_cleared :
    Runs.execute (StreamLink.step (normalizeMuxConfig defaultMuxConfig)) StreamLink.new
      waitUntilDeadline = some expiredLink ∧
    ∃ later, Runs.execute (StreamLink.step (normalizeMuxConfig defaultMuxConfig)) failedLink
        writeAfterwards = some later ∧
      later.receiver.deadline = none ∧ later.sender.accepted = [1, 2, 3] ∧
      later.receiver.window.closeOp = true ∧ later.receiver.returned = [] := by
  refine ⟨rfl, _, rfl, rfl, rfl, ?_⟩
  have ended := timedOut_read_ends_stream defaultMuxConfig writeAfterwards expiredLink failedLink _
    ⟨8, []⟩ rfl rfl rfl
  exact ⟨ended.1, ended.2.1⟩

def takeInAndRead : List LinkEvent :=
  (StreamLink.takeIn (.unmoved 191484 none ⟨0, 0⟩) 0 0).tail ++ [.receive .incomingNotify] ++
    StreamLink.readSegment 8 ++ StreamLink.accountFor (.unmoved 0 none ⟨0, 0⟩) 0 0

/-- With the timed out `Read` the three bytes are refused; without it they are read. -/
theorem expired_read_loses_bytes :
    (∃ later, Runs.execute (StreamLink.step (normalizeMuxConfig defaultMuxConfig)) StreamLink.new
        (waitUntilDeadline ++ [.receive .fail] ++ writeAfterwards) = some later ∧
      later.sender.accepted = [1, 2, 3] ∧ later.path = [] ∧
      later.receiver.step (normalizeMuxConfig defaultMuxConfig) (.read 8) =
        some (later.receiver, { result := some ([], some .eof) })) ∧
    (∃ later, Runs.execute (StreamLink.step (normalizeMuxConfig defaultMuxConfig)) StreamLink.new
        (writeAfterwards ++ takeInAndRead) = some later ∧
      later.sender.accepted = [1, 2, 3] ∧ later.receiver.returned = [1, 2, 3]) :=
  ⟨⟨_, rfl, rfl, rfl, rfl⟩, ⟨_, rfl, rfl, rfl⟩⟩

end DeepNps.Mux
