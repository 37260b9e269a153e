import DeepNps.MuxReceiverFlow
import DeepNps.MuxSendWindow

/-!
# The sending end of a stream

A segment is chosen by the window as it was loaded, then added to the outstanding count,
and then queued.  Updates of the window arrive at any point.
-/

namespace DeepNps.Mux

inductive Writing where
  | idle
  | running
  | waiting
  | chosen (bytes : List UInt8) (sendSize : UInt32) (part : Bool)
  | cut (bytes : List UInt8) (sendSize : UInt32) (part : Bool)
  deriving DecidableEq

/-- `accepted` records the bytes of all segments queued, `acceptedBefore` those of earlier
`Write`s. -/
structure StreamSender where
  window : SendWindow
  writing : Writing
  accepted : List UInt8
  acceptedBefore : List UInt8

inductive SenderEvent where
  | write (buf : List UInt8)
  | writeTo
  | resume
  | giveUp
  | sent
  | queue
  | refuse
  | update (word : UInt64)
  | setPriority
  | close

/-- A segment to queue, and the reason for closing the mux. -/
structure SenderOutput where
  segment : Option (List UInt8 × Bool) := none
  violation : Option String := none

namespace StreamSender

def new : StreamSender where
  window := SendWindow.new
  writing := .idle
  accepted := []
  acceptedBefore := []

/-- Where a `Write` goes after an attempt to cut a segment.  A crash ends the
program, so nothing follows it. -/
def afterWriteTo (sender : StreamSender) : SendWindow × WriteToResult → Option StreamSender
  | (window, .closed) => some { sender with window := window, writing := .idle }
  | (window, .eof) => some { sender with window := window, writing := .idle }
  | (window, .wait) => some { sender with window := window, writing := .waiting }
  | (_, .overflow) => none
  | (window, .segment bytes sendSize part) => some
      { sender with window := window, writing := .chosen bytes sendSize part }

/-- `resume` is a writer woken by an update, `giveUp` one whose wait ended with the deadline or
the window closed; `refuse` is a queue that takes no frames.  `sent` spins while the count would
overflow. -/
def step (sender : StreamSender) : SenderEvent → Option (StreamSender × SenderOutput)
  | .write buf =>
      match sender.writing with
      | .idle =>
          if buf = [] then none
          else some
            ({ sender with
                window := sender.window.setSendBuf buf
                writing := .running
                acceptedBefore := sender.accepted }, {})
      | _ => none
  | .writeTo =>
      match sender.writing with
      | .running => (sender.afterWriteTo sender.window.writeTo).map fun sender => (sender, {})
      | _ => none
  | .resume =>
      match sender.writing with
      | .waiting => (sender.afterWriteTo sender.window.writeToStart).map fun sender => (sender, {})
      | _ => none
  | .giveUp =>
      match sender.writing with
      | .waiting => some ({ sender with writing := .idle }, {})
      | _ => none
  | .sent =>
      match sender.writing with
      | .chosen bytes sendSize part =>
          match sender.window.sent sendSize with
          | none => some (sender, {})
          | some window => some
              ({ sender with window := window, writing := .cut bytes sendSize part }, {})
      | _ => none
  | .queue =>
      match sender.writing with
      | .cut bytes _ part => some
          ({ sender with writing := .running, accepted := sender.accepted ++ bytes },
            { segment := some (bytes, part) })
      | _ => none
  | .refuse =>
      match sender.writing with
      | .cut _ sendSize _ => some
          ({ sender with window := sender.window.rollbackSent sendSize, writing := .idle }, {})
      | _ => none
  | .update word =>
      match sender.window.setSize word with
      | (window, .violation reason) => some
          ({ sender with window := window }, { violation := some reason })
      | (window, _) => some ({ sender with window := window }, {})
  | .setPriority => some ({ sender with window := { sender.window with priority := true } }, {})
  | .close => some ({ sender with window := sender.window.closeWindow }, {})

/-- The transitions of the sending end, one constructor for each way in which an
event can go. -/
inductive Steps (sender : StreamSender) : SenderEvent → StreamSender → SenderOutput → Prop
  | write (buf : List UInt8) (nonempty : buf ≠ []) (isWriting : sender.writing = .idle) :
      Steps sender (.write buf)
        { sender with
          window := sender.window.setSendBuf buf
          writing := .running
          acceptedBefore := sender.accepted } {}
  | finish (isWriting : sender.writing = .running)
      (finished : sender.window.closeOp = true ∨
        UInt32.ofNat sender.window.buf.length ≤ sender.window.off) :
      Steps sender .writeTo { sender with writing := .idle } {}
  | start (after : StreamSender) (isWriting : sender.writing = .running)
      (left : sender.window.off < UInt32.ofNat sender.window.buf.length)
      (moved : sender.afterWriteTo sender.window.writeToStart = some after) :
      Steps sender .writeTo after {}
  | resume (after : StreamSender) (isWriting : sender.writing = .waiting)
      (moved : sender.afterWriteTo sender.window.writeToStart = some after) :
      Steps sender .resume after {}
  | giveUp (isWriting : sender.writing = .waiting) :
      Steps sender .giveUp { sender with writing := .idle } {}
  | spin (bytes : List UInt8) (sendSize : UInt32) (part : Bool)
      (isWriting : sender.writing = .chosen bytes sendSize part)
      (full : sender.window.sent sendSize = none) : Steps sender .sent sender {}
  | sent (bytes : List UInt8) (sendSize : UInt32) (part : Bool) (window : SendWindow)
      (isWriting : sender.writing = .chosen bytes sendSize part)
      (isSent : sender.window.sent sendSize = some window) :
      Steps sender .sent { sender with window := window, writing := .cut bytes sendSize part } {}
  | queue (bytes : List UInt8) (sendSize : UInt32) (part : Bool)
      (isWriting : sender.writing = .cut bytes sendSize part) :
      Steps sender .queue
        { sender with writing := .running, accepted := sender.accepted ++ bytes }
        { segment := some (bytes, part) }
  | refuse (bytes : List UInt8) (sendSize : UInt32) (part : Bool)
      (isWriting : sender.writing = .cut bytes sendSize part) :
      Steps sender .refuse
        { sender with window := sender.window.rollbackSent sendSize, writing := .idle } {}
  | updateClosed (word : UInt64) (isClosed : sender.window.closeOp = true) :
      Steps sender (.update word) sender {}
  | violation (word : UInt64) (reason : String)
      (more : sender.window.outstanding < wordDone word) :
      Steps sender (.update word) sender { violation := some reason }
  | update (word : UInt64) (window : SendWindow)
      (isOpen : sender.window.closeOp = false)
      (enough : wordDone word ≤ sender.window.outstanding)
      (size : window.maxSize = wordSize word)
      (credit : window.outstanding = sender.window.outstanding - wordDone word)
      (rest : window = { sender.window with maxSizeDone := window.maxSizeDone }) :
      Steps sender (.update word) { sender with window := window } {}
  | setPriority :
      Steps sender .setPriority { sender with window := { sender.window with priority := true } } {}
  | close : Steps sender .close { sender with window := sender.window.closeWindow } {}

section Inversion

variable {sender after : StreamSender} {output : SenderOutput}

theorem steps_of_update {word : UInt64}
    (stepEq : sender.step (.update word) = some (after, output)) :
    Steps sender (.update word) after output := by
  cases isClosed : sender.window.closeOp with
  | true =>
    simp only [step, SendWindow.setSize, isClosed, if_true] at stepEq
    cases stepEq
    exact .updateClosed word isClosed
  | false =>
    have sets := sender.window.setSize_spec word isClosed
    simp only [step] at stepEq
    generalize sender.window.setSize word = result at sets stepEq
    cases sets with
    | violation reason more =>
      cases stepEq
      exact .violation word reason more
    | moved window result enough taken size credit rest =>
      have isAfter : (({ sender with window := window } : StreamSender),
          ({} : SenderOutput)) = (after, output) := by
        cases result with
        | violation reason => exact absurd rfl (taken reason)
        | _ => exact Option.some.inj stepEq
      cases isAfter
      exact .update word window isClosed enough size credit rest

theorem steps_of_step {event : SenderEvent} (stepEq : sender.step event = some (after, output)) :
    Steps sender event after output := by
  revert stepEq
  fun_cases step sender event with
  | case2 buf isWriting isNil =>
    rintro ⟨⟩
    exact .write buf isNil isWriting
  | case4 isWriting =>
    intro stepEq
    obtain ⟨_, isMoved, isAfter⟩ := Option.map_eq_some_iff.mp stepEq
    cases isAfter
    simp only [SendWindow.writeTo] at isMoved
    split_ifs at isMoved with isClosed drained
    · cases isMoved
      exact .finish isWriting (.inl isClosed)
    · cases isMoved
      exact .finish isWriting (.inr drained)
    · exact .start _ isWriting (UInt32.not_le.mp drained) isMoved
  | case6 isWriting =>
    intro stepEq
    obtain ⟨_, isMoved, isAfter⟩ := Option.map_eq_some_iff.mp stepEq
    cases isAfter
    exact .resume _ isWriting isMoved
  | case8 isWriting =>
    rintro ⟨⟩
    exact .giveUp isWriting
  | case10 bytes sendSize part isWriting isSent =>
    rintro ⟨⟩
    exact .spin bytes sendSize part isWriting isSent
  | case11 bytes sendSize part isWriting window isSent =>
    rintro ⟨⟩
    exact .sent bytes sendSize part window isWriting isSent
  | case13 bytes sendSize part isWriting =>
    rintro ⟨⟩
    exact .queue bytes sendSize part isWriting
  | case15 bytes sendSize part isWriting =>
    rintro ⟨⟩
    exact .refuse bytes sendSize part isWriting
  | case17 _ _ _ sets =>
    intro _
    refine steps_of_update ?_
    rwa [step, sets]
  | case18 _ _ result taken sets =>
    intro stepEq
    refine steps_of_update ?_
    rw [step, sets]
    cases result with
    | violation reason => exact absurd rfl (taken reason)
    | _ => exact stepEq
  | case19 =>
    rintro ⟨⟩
    exact .setPriority
  | case20 =>
    rintro ⟨⟩
    exact .close
  | _ => rintro ⟨⟩

end Inversion

end StreamSender

end DeepNps.Mux
