import DeepNps.MuxReceiverSteps
import DeepNps.MuxSenderFlow

/-!
# The content of a stream at its two ends

What a sending end has accepted is, `Write` by `Write`, the front of the buffer it was
given; what a receiving end has handed out is a front part of what was delivered to it.
-/

namespace DeepNps.Mux

open List UInt32

def Writing.pending : Writing → List UInt8
  | .chosen bytes _ _ => bytes
  | .cut bytes _ _ => bytes
  | _ => []

namespace StreamSender

/-- What was accepted is the front of the buffer, up to the segment at hand. -/
structure Content (sender : StreamSender) : Prop where
  accepted : sender.accepted = sender.acceptedBefore ++
    sender.window.buf.take (sender.window.off.toNat - sender.writing.pending.length)
  pending_le : sender.writing.pending.length ≤ sender.window.off.toNat
  pending : sender.writing.pending =
    (sender.window.buf.drop (sender.window.off.toNat - sender.writing.pending.length)).take
      sender.writing.pending.length

section Steps

variable {cfg : MuxConfig} {sender after : StreamSender} {output : SenderOutput}

section

variable (content : sender.Content)

include content

theorem Content.of_same (pending : after.writing.pending = sender.writing.pending)
    (buf : after.window.buf = sender.window.buf := by rfl)
    (off : after.window.off = sender.window.off := by rfl)
    (accepted : after.accepted = sender.accepted := by rfl)
    (before : after.acceptedBefore = sender.acceptedBefore := by rfl) : after.Content where
  accepted := by
    rw [accepted, before, buf, off, pending]
    exact content.accepted
  pending_le := by
    rw [off, pending]
    exact content.pending_le
  pending := by
    rw [buf, off, pending]
    exact content.pending

theorem Content.writeToStart (left : sender.window.off < ofNat sender.window.buf.length)
    (nothing : sender.writing.pending = [])
    (moved : sender.afterWriteTo sender.window.writeToStart = some after) : after.Content := by
  have writes := sender.window.writeToStart_spec left
  generalize sender.window.writeToStart = written at writes moved
  cases writes with
  | wait _ _ _ _ rest =>
    cases moved
    exact content.of_same (by rw [nothing]; rfl) (by rw [rest]) (by rw [rest])
  | overflow => cases moved
  | segment window bytes _ _ cut length _ _ _ noWrap rest =>
    cases moved
    have accepted := content.accepted
    rw [nothing, length_nil, Nat.sub_zero] at accepted
    have before : window.off.toNat - bytes.length = sender.window.off.toNat := by
      rw [rest, noWrap, length]
      omega
    have sameBuf : window.buf = sender.window.buf := by rw [rest]
    refine ⟨?_, ?_, ?_⟩
    · simp only [Writing.pending, before, sameBuf]
      exact accepted
    · simp only [Writing.pending, rest, noWrap, length]
      omega
    · simp only [Writing.pending, before, sameBuf]
      rw [length]
      exact cut

theorem Content.steps (wellFormed : sender.WellFormed cfg) {event : SenderEvent}
    (steps : Steps sender event after output) : after.Content := by
  cases steps with
  | write buf =>
    have accepted : sender.accepted = sender.accepted ++ buf.take (0 - 0) := by simp
    exact ⟨accepted, le_rfl, rfl⟩
  | finish isWriting | giveUp isWriting => exact content.of_same (by rw [isWriting]; rfl)
  | start _ isWriting left moved => exact content.writeToStart left (by rw [isWriting]; rfl) moved
  | resume _ isWriting moved =>
    have left := wellFormed.writing
    rw [isWriting] at left
    exact content.writeToStart left (by rw [isWriting]; rfl) moved
  | spin | updateClosed
  | violation => exact content
  | sent _ _ _ _ isWriting isSent =>
    rw [SendWindow.sent] at isSent
    split_ifs at isSent
    cases isSent
    exact content.of_same (by rw [isWriting]; rfl)
  | queue _ _ _ isWriting =>
    obtain ⟨accepted, pendingLe, pending⟩ := content
    rw [isWriting] at accepted pendingLe pending
    simp only [Writing.pending] at accepted pendingLe pending
    refine ⟨?_, Nat.zero_le _, by simp [Writing.pending]⟩
    simp only [Writing.pending, length_nil, Nat.sub_zero]
    rw [accepted, append_assoc]
    congr 1
    nth_rewrite 2 [pending]
    rw [← take_add, Nat.sub_add_cancel pendingLe]
  | refuse bytes sendSize _ isWriting =>
    have writing := wellFormed.writing
    rw [isWriting] at writing
    obtain ⟨length, _, -⟩ := writing
    obtain ⟨accepted, pendingLe, -⟩ := content
    rw [isWriting] at accepted pendingLe
    simp only [Writing.pending] at accepted pendingLe
    have nonzero : sendSize ≠ 0 := by
      rintro rfl
      rw [UInt32.toNat_zero] at length
      omega
    have enough : sendSize ≤ sender.window.off := by
      rw [le_iff_toNat_le]
      omega
    have off : (sender.window.rollbackSent sendSize).off.toNat =
        sender.window.off.toNat - bytes.length := by
      rw [SendWindow.rollbackSent, if_neg nonzero]
      simp only [ge_iff_le, if_pos enough]
      rw [UInt32.toNat_sub_of_le _ _ enough, length]
    have buf : (sender.window.rollbackSent sendSize).buf = sender.window.buf := by
      rw [SendWindow.rollbackSent, if_neg nonzero]
    refine ⟨?_, Nat.zero_le _, by simp [Writing.pending]⟩
    simp only [Writing.pending, length_nil, Nat.sub_zero, off, buf]
    exact accepted
  | update _ _ _ _ _ _ rest => exact content.of_same rfl (by rw [rest]) (by rw [rest])
  | setPriority | close => exact content.of_same rfl

end

end Steps

end StreamSender

def Incoming.bytes : Incoming → List UInt8
  | .idle => []
  | .entered element => element.bytes
  | .sized element => element.bytes
  | .loaded element _ => element.bytes
  | .bounded element _ _ => element.bytes
  | .limited element _ _ _ => element.bytes
  | .measured element _ _ _ => element.bytes
  | .committed element _ => element.bytes
  | .reserved element _ => element.bytes
  | .pushed _ => []

def Reading.copied : Reading → List UInt8
  | .idle => []
  | .looping call => call.copied
  | .popping call => call.copied
  | .copying call => call.copied
  | .finished call _ => call.copied
  | .released call _ => call.copied
  | .sized call _ => call.copied
  | .loaded call _ _ => call.copied
  | .bounded call _ _ _ _ => call.copied
  | .limited call _ _ _ _ => call.copied
  | .measured call _ _ _ _ => call.copied
  | .committed call _ => call.copied
  | .failed call _ => call.copied

namespace ReceiveWindow

def queueBytes (window : ReceiveWindow) : List UInt8 := window.queue.flatMap ListElement.bytes

variable {window : ReceiveWindow}

theorem unread_of_currentLength (nothing : window.currentLength = 0) : window.unread = [] := by
  cases isElement : window.element with
  | none => simp [unread, isElement]
  | some element =>
    rw [currentLength_eq isElement] at nothing
    have lengthLe : element.bytes.length ≤ window.off.toNat := by
      rw [ListElement.bytes, length_take]
      split_ifs at nothing with inside
      · simp [nothing]
      · omega
    simpa [unread, isElement] using lengthLe

theorem unread_copy {element : ListElement} (isElement : window.element = some element)
    (offLe : window.off.toNat ≤ element.l.toNat) (room : Nat) :
    window.unread = (window.copy room).1 ++ (window.copy room).2.unread := by
  have unreadLe := length_unread_le isElement
  have small := element.l.toNat_lt
  have moved : (window.copy room).2.off.toNat =
      window.off.toNat + (window.unread.take room).length := by
    simp only [copy, UInt32.toNat_add, UInt32.toNat_ofNat', length_take]
    omega
  have rest : (window.copy room).2.unread =
      window.unread.drop (window.unread.take room).length := by
    have staysElement : (window.copy room).2.element = some element := isElement
    rw [unread, staysElement]
    simp only [moved, unread, isElement, drop_drop]
  rw [rest, length_take]
  simp only [copy]
  rcases Nat.le_total room window.unread.length with fits | fits
  · rw [Nat.min_eq_left fits, take_append_drop]
  · rw [Nat.min_eq_right fits, take_of_length_le fits, drop_length, append_nil]

theorem queueBytes_push (window : ReceiveWindow) (element : ListElement) :
    (window.push element).queueBytes = window.queueBytes ++ element.bytes := by
  simp [queueBytes, push]

end ReceiveWindow

open ReceiveWindow

namespace StreamReceiver

/-- Nothing is lost, added or reordered, and the byte count of the queue is exact modulo its
width. -/
structure Content (receiver : StreamReceiver) : Prop where
  returned_prefix : receiver.returned ++ receiver.reading.copied <+: receiver.delivered
  whole : receiver.window.closeOp = false →
    receiver.returned ++ receiver.reading.copied ++ receiver.window.unread ++
      receiver.window.queueBytes = receiver.delivered
  idle : receiver.window.closeOp = true → receiver.reading = .idle
  queueLength : receiver.window.queueLength =
    UInt32.ofNat (receiver.window.queue.map fun element => element.l.toNat).sum

section Steps

variable {cfg : MuxConfig} {receiver after : StreamReceiver} {output : ReceiverOutput}

section

variable (content : receiver.Content)

include content

theorem Content.of_same
    (copied : after.returned ++ after.reading.copied = receiver.returned ++ receiver.reading.copied)
    (idle : receiver.window.closeOp = true → after.reading = .idle)
    (unread : after.window.unread = receiver.window.unread := by rfl)
    (isOpen : after.window.closeOp = receiver.window.closeOp := by rfl)
    (queue : after.window.queue = receiver.window.queue := by rfl)
    (queueLength : after.window.queueLength = receiver.window.queueLength := by rfl)
    (delivered : after.delivered = receiver.delivered := by rfl) : after.Content where
  returned_prefix := by
    rw [copied, delivered]
    exact content.returned_prefix
  whole := by
    intro stillOpen
    rw [copied, unread, queueBytes, queue, delivered]
    exact content.whole (isOpen ▸ stillOpen)
  idle := fun isClosed => idle (isOpen ▸ isClosed)
  queueLength := by
    rw [queueLength, queue]
    exact content.queueLength

variable {word : UInt64} {count : Int8} {buffered : UInt32}

theorem Content.moveIncoming {incoming : Incoming} :
    ({ receiver with
        window := { receiver.window with maxSizeDone := word, count := count, buffered := buffered }
        incoming := incoming } : StreamReceiver).Content :=
  content.of_same rfl content.idle

theorem Content.not_closed (running : receiver.reading ≠ .idle := by simp [*]) {conclusion : Prop}
    (isClosed : receiver.window.closeOp = true) : conclusion :=
  absurd (content.idle isClosed) running

theorem Content.isOpen (running : receiver.reading ≠ .idle := by simp [*]) :
    receiver.window.closeOp = false := by
  simpa using mt content.idle running

theorem Content.moveReading {reading : Reading} (running : receiver.reading ≠ .idle := by simp [*])
    (copied : reading.copied = receiver.reading.copied := by simp [*, Reading.copied]) :
    ({ receiver with
        window := { receiver.window with maxSizeDone := word, count := count, buffered := buffered }
        reading := reading } : StreamReceiver).Content :=
  content.of_same (by rw [copied]) (content.not_closed running)

theorem Content.closeWindow {returned : List UInt8}
    (copied : returned = receiver.returned ++ receiver.reading.copied) :
    ({ receiver with
        window := receiver.window.closeWindow
        reading := .idle
        returned := returned } : StreamReceiver).Content where
  returned_prefix := by
    rw [Reading.copied, append_nil, copied]
    exact content.returned_prefix
  whole := by simp [closeWindow_eq]
  idle := fun _ => rfl
  queueLength := by
    have counts := content.queueLength
    simp only [closeWindow_eq, sum_toUInt32, counts]
    simp

theorem Content.next {element : ListElement} {call : ReadCall}
    (isNext : receiver.next element call = (after, output))
    (running : receiver.reading ≠ .idle := by simp [*])
    (copied : call.copied = receiver.reading.copied := by simp [*, Reading.copied]) :
    after.Content := by
  rw [StreamReceiver.next] at isNext
  split_ifs at isNext
  · cases isNext
    exact content.moveReading running copied
  · cases isNext
    refine content.of_same ?_ fun _ => rfl
    rw [copied, Reading.copied, append_nil]

theorem Content.copy (wellFormed : receiver.WellFormed cfg) {call : ReadCall}
    {element : ListElement} {reading : Reading} (isReading : receiver.reading = .copying call)
    (isElement : receiver.window.element = some element)
    (copied : reading.copied = call.copied ++ (receiver.window.copy call.room).1) :
    ({ receiver with
        window := (receiver.window.copy call.room).2
        reading := reading } : StreamReceiver).Content := by
  have isOpen := content.isOpen
  have whole := content.whole isOpen
  have unread := unread_copy isElement (wellFormed.off_le element isElement) call.room
  rw [isReading, unread] at whole
  have wholeAfter : receiver.returned ++ reading.copied ++
      (receiver.window.copy call.room).2.unread ++ receiver.window.queueBytes =
        receiver.delivered := by
    rw [copied, ← whole]
    simp [Reading.copied]
  exact ⟨⟨_, by rw [← append_assoc]; exact wholeAfter⟩, fun _ => wholeAfter,
    content.not_closed, content.queueLength⟩

/-- A `Read` that meets the end of the queue has handed out or copied everything
that was delivered. -/
theorem Content.delivered_of_eof (wellFormed : receiver.WellFormed cfg) {call : ReadCall}
    (isReading : receiver.reading = .popping call) (isEmpty : receiver.window.queueLength = 0)
    (small : (receiver.window.queue.map fun element => element.l.toNat).sum < 2 ^ 32) :
    receiver.returned ++ call.copied = receiver.delivered := by
  have whole := content.whole (content.isOpen)
  have noUnread := unread_of_currentLength (wellFormed.popping isReading)
  have noQueue : receiver.window.queueBytes = [] := by
    have counts := congrArg toNat content.queueLength
    rw [isEmpty, toNat_ofNat', Nat.mod_eq_of_lt small] at counts
    rw [queueBytes, List.flatMap_eq_nil_iff]
    intro _ isMember
    have isZero :=
      List.sum_eq_zero_iff_forall_eq_nat.mp counts.symm _ (List.mem_map_of_mem isMember)
    simp [ListElement.bytes, isZero]
  rw [isReading, noUnread, noQueue, append_nil, append_nil] at whole
  exact whole

end

end Steps

end StreamReceiver

end DeepNps.Mux
