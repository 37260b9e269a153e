import DeepNps.MuxStreamContent
import DeepNps.MuxStreamProgress

/-!
# The content of one direction of a stream

What the receiving end hands out is a front part of what the sending end has accepted, and
the notice that ends the stream travels behind everything accepted before it.
-/

namespace DeepNps.Mux

open List ReceiveWindow

namespace StreamReceiver

def arrivedBytes : ReceiverEvent → List UInt8
  | .arrive bytes _ => bytes
  | _ => []

/-- A closed window takes nothing in, only a stop raises the stop flag of an open one, and the end
of the stream is met by a `Read` that finds the stopped queue empty. -/
structure Passes (receiver after : StreamReceiver) (event : ReceiverEvent)
    (output : ReceiverOutput) : Prop where
  taken : after.delivered ++ after.incoming.bytes =
    receiver.delivered ++ receiver.incoming.bytes ++
      if receiver.window.closeOp then [] else arrivedBytes event
  delivered : receiver.delivered <+: after.delivered
  returned : receiver.returned <+: after.returned
  closed : receiver.window.closeOp = true → after.window.closeOp = true
  stopped : event ≠ .stop → after.window.closeOp = false →
    after.window.stopped = receiver.window.stopped
  eof : ∀ call, after.reading = .failed call .eof → after.returned = receiver.returned ∧
    (receiver.reading = .failed call .eof ∨
      receiver.reading = .popping call ∧ receiver.window.stopped = true ∧
        receiver.window.queueLength = 0)
  ended : StreamLink.reportsEnd output = true → receiver.window.closeOp = false →
    ∃ call, receiver.reading = .failed call .eof ∧ after.returned = receiver.returned ++ call.copied

section Steps

variable {cfg : MuxConfig} {receiver after : StreamReceiver} {output : ReceiverOutput}
  {event : ReceiverEvent}

theorem Passes.of_incoming
    (delivered : receiver.delivered <+: after.delivered := by exact prefix_rfl)
    (taken : after.delivered ++ after.incoming.bytes =
      receiver.delivered ++ receiver.incoming.bytes ++
        if receiver.window.closeOp then [] else arrivedBytes event := by
          simp [*, Incoming.bytes, arrivedBytes])
    (sameReading : after.reading = receiver.reading := by rfl)
    (sameReturned : after.returned = receiver.returned := by rfl)
    (closeOp : after.window.closeOp = receiver.window.closeOp := by rfl)
    (stopped : after.window.stopped = receiver.window.stopped := by rfl)
    (noResult : output.result = none := by rfl) : Passes receiver after event output where
  taken := taken
  delivered := delivered
  returned := by rw [sameReturned]
  closed := fun isClosed => closeOp.trans isClosed
  stopped := fun _ _ => stopped
  eof := by
    intro _ isReading
    exact ⟨sameReturned, .inl (sameReading ▸ isReading)⟩
  ended := by simp [StreamLink.reportsEnd, noResult]

theorem Passes.of_reading
    (noEnd : StreamLink.reportsEnd output = true → receiver.window.closeOp = false →
      ∃ call, receiver.reading = .failed call .eof ∧
        after.returned = receiver.returned ++ call.copied := by simp [StreamLink.reportsEnd])
    (closeOp : receiver.window.closeOp = true → after.window.closeOp = true := by exact id)
    (stopped : after.window.closeOp = false →
      after.window.stopped = receiver.window.stopped := by exact fun _ => rfl)
    (noArrival : arrivedBytes event = [] := by rfl)
    (returned : receiver.returned <+: after.returned := by exact prefix_rfl)
    (notFailed : ∀ call, after.reading ≠ .failed call .eof := by simp [*])
    (sameIncoming : after.incoming = receiver.incoming := by rfl)
    (sameDelivered : after.delivered = receiver.delivered := by rfl) :
    Passes receiver after event output where
  taken := by rw [sameIncoming, sameDelivered, noArrival, ite_self, append_nil]
  delivered := by rw [sameDelivered]
  returned := returned
  closed := closeOp
  stopped := fun _ => stopped
  eof := fun call isReading => absurd isReading (notFailed call)
  ended := noEnd

theorem Passes.next {window : ReceiveWindow} {element : ListElement} {call : ReadCall}
    (isNext : { receiver with window := window }.next element call = (after, output))
    (noArrival : arrivedBytes event = []) (update : Option UInt64)
    (closeOp : window.closeOp = receiver.window.closeOp := by rfl)
    (stopped : window.stopped = receiver.window.stopped := by rfl) :
    Passes receiver after event { output with update := update } := by
  rw [StreamReceiver.next] at isNext
  split_ifs at isNext
  · cases isNext
    exact .of_reading (by simp [StreamLink.reportsEnd]) closeOp.trans (fun _ => stopped) noArrival
  · cases isNext
    exact .of_reading (by simp [StreamLink.reportsEnd]) closeOp.trans (fun _ => stopped) noArrival
      (prefix_append _ _)

/-- The step lemma of the receiving end.  A window that is closed under a `Read` would be drained
while segments still arrive in it. -/
theorem Content.steps (content : receiver.Content) (wellFormed : receiver.WellFormed cfg)
    (closing : event = .close → receiver.reading = .idle)
    (short : (arrivedBytes event).length < 2 ^ 16)
    (steps : Steps cfg receiver event after output) :
    after.Content ∧ Passes receiver after event output := by
  cases steps with
  | arriveRefused => exact ⟨content, .of_incoming⟩
  | arrive bytes _ isIncoming isOpen =>
    have whole : bytes.length % 2 ^ 16 = bytes.length := Nat.mod_eq_of_lt short
    refine ⟨content.moveIncoming, .of_incoming prefix_rfl ?_⟩
    rw [isIncoming, isOpen]
    simp only [Incoming.bytes, ListElement.bytes, arrivedBytes, UInt16.toNat_ofNat', whole,
      take_length, append_nil, Bool.false_eq_true, if_false]
  | incomingSize sample =>
    obtain ⟨_, _, sized⟩ := calcSize_eq cfg sample receiver.window
    rw [sized]
    exact ⟨content.moveIncoming, .of_incoming⟩
  | incomingLoad | incomingBound | incomingLimit | incomingRemain | incomingCommit | incomingRetry
  | incomingNotify =>
    exact ⟨content.moveIncoming, .of_incoming⟩
  | incomingReserve =>
    rw [reserveBytes_eq]
    exact ⟨content.moveIncoming, .of_incoming⟩
  | incomingPush =>
    refine ⟨⟨content.returned_prefix.trans (prefix_append _ _), ?_, content.idle, ?_⟩,
      .of_incoming (prefix_append _ _)⟩
    · intro isOpen
      have whole := content.whole isOpen
      rw [queueBytes_push, ← append_assoc, ← whole]
      rfl
    · simp only [push, map_append, sum_append, UInt32.ofNat_add, content.queueLength,
        toUInt32_eq_ofNat]
      simp
  | readClosed _ isReading isClosed =>
    refine ⟨content, .of_reading ?_⟩
    intro _ isOpen
    exact absurd (isClosed.symm.trans isOpen) (by simp)
  | read _ _ isReading isOpen =>
    refine ⟨content.of_same (by rw [isReading]; rfl) ?_, .of_reading⟩
    intro isClosed
    exact absurd (isClosed.symm.trans isOpen) (by simp)
  | loopClosed _ isReading isClosed => exact absurd (content.idle isClosed) (by simp [isReading])
  | loopPop | loopCopy | statusLoad | statusBound | statusLimit | statusRemain | statusCommit
  | statusRetry => exact ⟨content.moveReading, .of_reading⟩
  | popElement call element _ isReading popped =>
    have whole := content.whole content.isOpen
    have nothing := unread_of_currentLength (wellFormed.popping isReading)
    have counts := content.queueLength
    obtain ⟨rest, isQueue, rfl⟩ := pop_eq_element popped
    rw [isReading, nothing, queueBytes, isQueue] at whole
    rw [isQueue] at counts
    have wholeAfter : receiver.returned ++ call.copied ++ element.bytes ++
        rest.flatMap ListElement.bytes = receiver.delivered := by
      rw [← whole]
      simp [Reading.copied]
    refine ⟨⟨⟨_, by rw [← append_assoc]; exact wholeAfter⟩, fun _ => wholeAfter,
      content.not_closed, ?_⟩, .of_reading⟩
    simp only [map_cons, sum_cons, UInt32.ofNat_add] at counts
    rw [counts, toUInt32_eq_ofNat]
    grind
  | popEof _ isReading popped =>
    have nothing := unread_of_currentLength (wellFormed.popping isReading)
    refine ⟨content.of_same (by rw [isReading]; rfl) (content.not_closed)
      nothing.symm, by simp [arrivedBytes], prefix_rfl, prefix_rfl, id, fun _ _ => rfl, ?_,
      by simp [StreamLink.reportsEnd]⟩
    intro _ isOther
    cases isOther
    rw [pop] at popped
    split_ifs at popped with isEmpty isStopped
    · exact ⟨rfl, .inr ⟨isReading, isStopped, isEmpty⟩⟩
    · cases tried : receiver.window.tryPop with
      | none | some => simp [tried] at popped
  | expire _ _ _ isReading =>
    have nothing := unread_of_currentLength (wellFormed.popping isReading)
    exact ⟨content.of_same (by rw [isReading]; rfl) (content.not_closed)
      nothing.symm, .of_reading⟩
  | copyFinished _ _ isReading isElement =>
    exact ⟨content.copy wellFormed isReading isElement rfl, .of_reading⟩
  | copyNext call _ isReading isElement _ _ output isNext =>
    let call' : ReadCall := ⟨call.room - (receiver.window.copy call.room).1.length,
      call.copied ++ (receiver.window.copy call.room).1⟩
    have copied : ({ receiver with
        window := (receiver.window.copy call.room).2
        reading := .copying call' } : StreamReceiver).Content :=
      content.copy wellFormed isReading isElement rfl
    exact ⟨copied.next isNext (by simp) rfl, Passes.next isNext rfl output.update⟩
  | fail call error isReading =>
    refine ⟨content.closeWindow (by rw [isReading]; rfl),
      .of_reading ?_ ?_ ?_ rfl (prefix_append _ _)⟩
    · intro isEnd _
      cases error with
      | eof => exact ⟨call, isReading, rfl⟩
      | timeout => simp [StreamLink.reportsEnd] at isEnd
    · intro _
      rw [closeWindow_eq]
    · simp [closeWindow_eq]
  | release =>
    rw [releaseBytes_eq]
    exact ⟨content.moveReading, .of_reading⟩
  | statusSize sample =>
    obtain ⟨_, _, sized⟩ := calcSize_eq cfg sample receiver.window
    rw [sized]
    exact ⟨content.moveReading, .of_reading⟩
  | statusNotify _ update _ _ _ _ _ isNext =>
    exact ⟨content.next isNext, Passes.next isNext rfl update⟩
  | setDeadline | setPriority =>
    exact ⟨content.of_same rfl content.idle, .of_incoming⟩
  | stop =>
    refine ⟨content.of_same rfl content.idle, by simp [arrivedBytes], prefix_rfl, prefix_rfl, id,
      fun notStop => absurd rfl notStop, fun call isReading => ⟨rfl, .inl isReading⟩, ?_⟩
    simp [StreamLink.reportsEnd]
  | close =>
    have isIdle := closing rfl
    have copied : receiver.returned = receiver.returned ++ receiver.reading.copied := by
      rw [isIdle, Reading.copied, append_nil]
    have closed := content.closeWindow copied
    rw [← isIdle] at closed
    refine ⟨closed, by simp [arrivedBytes], prefix_rfl, prefix_rfl, ?_, ?_,
      fun call isReading => ⟨rfl, .inl isReading⟩, by simp [StreamLink.reportsEnd]⟩
    · intro _
      rw [closeWindow_eq]
    · simp [closeWindow_eq]

end Steps

end StreamReceiver

namespace StreamSender

theorem Steps.accepted_eq {sender after : StreamSender} {event : SenderEvent}
    {output : SenderOutput} (steps : Steps sender event after output) :
    after.accepted = sender.accepted ++ output.segment.toList.flatMap Prod.fst ∧
      (event ≠ .queue → output.segment = none) := by
  have moved {written : SendWindow × WriteToResult}
      (isAfter : sender.afterWriteTo written = some after) : after.accepted = sender.accepted := by
    obtain ⟨_, result⟩ := written
    cases result with
    | overflow => cases isAfter
    | _ =>
      cases isAfter
      rfl
  cases steps with
  | queue => exact ⟨by simp, fun notQueue => absurd rfl notQueue⟩
  | start _ _ _ isMoved | resume _ _ isMoved => exact ⟨by simp [moved isMoved], fun _ => rfl⟩
  | _ => exact ⟨by simp, fun _ => rfl⟩

end StreamSender

namespace StreamLink

def pathBytes (path : List PathFrame) : List UInt8 := path.flatMap PathFrame.bytes

/-- What arrives at the receiver is taken in. -/
structure Listening (link : StreamLink) : Prop where
  connection : link.receiverClosed = false
  window : link.receiver.window.closeOp = false

def taken (link : StreamLink) : List UInt8 :=
  link.receiver.delivered ++ link.receiver.incoming.bytes

/-- The stream was ended, and `bytes` starts with all that was accepted before. -/
def EndsWithin (link : StreamLink) (bytes : List UInt8) : Prop :=
  ∃ accepted, link.closedAfter = some accepted ∧ accepted <+: bytes

/-- The content of the stream is passed on without loss, addition or reordering. -/
structure Faithful (cfg : MuxConfig) (link : StreamLink) : Prop where
  sound : link.Sound cfg
  sender : link.sender.Content
  receiver : link.receiver.Content
  taken_prefix : link.taken <+: link.sender.accepted
  part : link.Listening → link.taken ++ pathBytes link.path <+: link.sender.accepted
  whole : link.Listening → link.broken = false →
    link.taken ++ pathBytes link.path = link.sender.accepted
  notice : link.Listening → ∀ before after, link.path = before ++ .finish :: after →
    link.EndsWithin (link.taken ++ pathBytes before)
  closedAfter : ∀ accepted, link.closedAfter = some accepted → accepted <+: link.sender.accepted
  stopped : link.receiver.window.stopped = true → link.receiver.window.closeOp = false →
    link.EndsWithin link.receiver.delivered
  eof : ∀ call, link.receiver.reading = .failed call .eof →
    link.EndsWithin (link.receiver.returned ++ call.copied)
  ended : link.ended = true → link.EndsWithin link.receiver.returned

/-- The receive window is closed only while no `Read` is in progress. -/
def ClosesIdle (link : StreamLink) (event : LinkEvent) : Prop :=
  event = .receive .close → link.receiver.reading = .idle

section Steps

variable {cfg : MuxConfig} {link next : StreamLink}

theorem pathBytes_append (first second : List PathFrame) :
    pathBytes (first ++ second) = pathBytes first ++ pathBytes second :=
  flatMap_append

theorem EndsWithin.mono {first second : List UInt8} (ends : link.EndsWithin first)
    (isPrefix : first <+: second := by exact prefix_rfl)
    (same : next.closedAfter = link.closedAfter := by rfl) : next.EndsWithin second := by
  obtain ⟨accepted, isAccepted, within⟩ := ends
  exact ⟨accepted, same.trans isAccepted, within.trans isPrefix⟩

theorem notice_of_append {path before after extra : List PathFrame}
    (isPath : path ++ extra = before ++ .finish :: after) :
    (∃ rest, path = before ++ .finish :: rest) ∨
      ∃ middle, before = path ++ middle ∧ extra = middle ++ .finish :: after := by
  rcases append_eq_append_iff.mp isPath with added | ⟨middle, isPath, isAfter⟩
  · exact .inr added
  · cases middle with
    | nil => exact .inr ⟨[], by simp [isPath], isAfter.symm⟩
    | cons _ rest =>
      rw [cons_append, cons.injEq] at isAfter
      exact .inl ⟨rest, by rw [isPath, ← isAfter.1]⟩

section

variable (faithful : link.Faithful cfg)

include faithful

theorem Faithful.of_sender (sound : next.Sound cfg) (sender : next.sender.Content)
    (grows : link.sender.accepted <+: next.sender.accepted)
    (keeps : ∀ {bytes}, link.EndsWithin bytes → next.EndsWithin bytes)
    (closedAfter : ∀ accepted, next.closedAfter = some accepted → accepted <+: next.sender.accepted)
    (part : next.Listening → link.taken ++ pathBytes next.path <+: next.sender.accepted)
    (whole : next.Listening → next.broken = false →
      link.taken ++ pathBytes next.path = next.sender.accepted)
    (notice : next.Listening → ∀ before after, next.path = before ++ .finish :: after →
      next.EndsWithin (link.taken ++ pathBytes before))
    (receiver : next.receiver = link.receiver := by rfl)
    (ended : next.ended = link.ended := by rfl) :
    next.Faithful cfg := by
  have sameTaken : next.taken = link.taken := by rw [taken, receiver, taken]
  rw [← sameTaken] at part whole notice
  exact
    { sound := sound
      sender := sender
      receiver := receiver ▸ faithful.receiver
      taken_prefix := sameTaken ▸ faithful.taken_prefix.trans grows
      part := part
      whole := whole
      notice := notice
      closedAfter := closedAfter
      stopped := by
        rw [receiver]
        exact fun isStopped isOpen => keeps (faithful.stopped isStopped isOpen)
      eof := by
        rw [receiver]
        exact fun call isReading => keeps (faithful.eof call isReading)
      ended := by
        rw [receiver, ended]
        exact fun isEnded => keeps (faithful.ended isEnded) }

theorem Faithful.sendStep {event : SenderEvent} {updates : List UInt64}
    {result : StreamSender × SenderOutput} (isResult : link.sender.step event = some result)
    (canQueue : event = .queue → link.broken = false)
    (sound : ({ link with updates := updates }.afterSend result).Sound cfg) :
    ({ link with updates := updates }.afterSend result).Faithful cfg := by
  obtain ⟨after, output⟩ := result
  have steps := StreamSender.steps_of_step isResult
  obtain ⟨accepted, onlyQueue⟩ := steps.accepted_eq
  have grows : link.sender.accepted <+: after.accepted := by
    rw [accepted]
    exact prefix_append _ _
  set segment := output.segment.toList.map fun segment => PathFrame.data segment.1 segment.2
  have whole : link.Listening → link.broken = false →
      link.taken ++ pathBytes (link.path ++ segment) = after.accepted := by
    intro listening unbroken
    have segmentBytes : pathBytes segment = output.segment.toList.flatMap Prod.fst := by
      simp only [segment, pathBytes, flatMap_map]
      rfl
    rw [pathBytes_append, segmentBytes, accepted, ← append_assoc, faithful.whole listening unbroken]
  refine faithful.of_sender sound (faithful.sender.steps faithful.sound.sender steps) grows .mono
    (fun earlier isEarlier => (faithful.closedAfter earlier isEarlier).trans grows) ?_
    (fun listening => whole ⟨listening.1, listening.2⟩) ?_
  · intro listening
    show link.taken ++ pathBytes (link.path ++ segment) <+: after.accepted
    cases isBroken : link.broken with
    | false => rw [whole ⟨listening.1, listening.2⟩ isBroken]
    | true =>
      have notQueue : event ≠ .queue := by
        intro isQueue
        exact absurd (isBroken.symm.trans (canQueue isQueue)) (by simp)
      have samePath : link.path ++ segment = link.path := by simp [segment, onlyQueue notQueue]
      rw [samePath]
      exact (faithful.part ⟨listening.1, listening.2⟩).trans grows
  · intro listening before _ isPath
    have noNotice : PathFrame.finish ∉ segment := by simp [segment]
    change link.path ++ segment = _ at isPath
    obtain ⟨earlierRest, isEarlier⟩ := (notice_of_append isPath).resolve_right
      fun ⟨_, _, isExtra⟩ => noNotice (by simp [isExtra])
    exact (faithful.notice ⟨listening.1, listening.2⟩ before earlierRest isEarlier).mono

theorem Faithful.receiveStep {event : ReceiverEvent}
    {path : List PathFrame} {result : StreamReceiver × ReceiverOutput}
    (isResult : link.receiver.step cfg event = some result)
    (short : (StreamReceiver.arrivedBytes event).length < 2 ^ 16)
    (closing : event = .close → link.receiver.reading = .idle)
    (arrives : StreamReceiver.arrivedBytes event = [] ∨ link.receiverClosed = false)
    (isBytes : pathBytes link.path = StreamReceiver.arrivedBytes event ++ pathBytes path)
    (notices : ∀ before after, path = before ++ .finish :: after →
      ∃ earlier, link.path = earlier ++ .finish :: after ∧
        pathBytes earlier = StreamReceiver.arrivedBytes event ++ pathBytes before)
    (stopping : event = .stop → link.receiver.window.closeOp = false →
      link.EndsWithin link.receiver.delivered)
    (sound : ({ link with path := path }.afterReceive result).Sound cfg) :
    ({ link with path := path }.afterReceive result).Faithful cfg := by
  obtain ⟨after, output⟩ := result
  obtain ⟨content, passes⟩ := faithful.receiver.steps faithful.sound.receiver closing short
    (StreamReceiver.steps_of_step isResult)
  have wasOpen (isOpen : after.window.closeOp = false) : link.receiver.window.closeOp = false := by
    simpa using mt passes.closed (by simp [isOpen])
  have wasListening : ({ link with path := path }.afterReceive (after, output)).Listening →
      link.Listening := fun listening => ⟨listening.connection, wasOpen listening.window⟩
  have sameBytes {before earlier : List PathFrame}
      (isEarlier : pathBytes earlier = StreamReceiver.arrivedBytes event ++ pathBytes before)
      (listening : link.Listening) :
      after.delivered ++ after.incoming.bytes ++ pathBytes before =
        link.taken ++ pathBytes earlier := by
    rw [passes.taken, listening.window, if_neg Bool.false_ne_true, isEarlier, append_assoc]
    rfl
  refine
    { sound := sound
      sender := faithful.sender
      receiver := content
      taken_prefix := ?_
      part := ?_
      whole := ?_
      notice := ?_
      closedAfter := faithful.closedAfter
      stopped := ?_
      eof := ?_
      ended := ?_ }
  · show after.delivered ++ after.incoming.bytes <+: link.sender.accepted
    rw [passes.taken]
    split_ifs with isClosed
    · rw [append_nil]
      exact faithful.taken_prefix
    · rcases arrives with nothing | notClosed
      · rw [nothing, append_nil]
        exact faithful.taken_prefix
      · have part := faithful.part ⟨notClosed, by simpa using isClosed⟩
        rw [isBytes, ← append_assoc] at part
        exact (prefix_append _ _).trans part
  · intro listening
    show after.delivered ++ after.incoming.bytes ++ pathBytes path <+: link.sender.accepted
    rw [sameBytes isBytes (wasListening listening)]
    exact faithful.part (wasListening listening)
  · intro listening unbroken
    show after.delivered ++ after.incoming.bytes ++ pathBytes path = link.sender.accepted
    rw [sameBytes isBytes (wasListening listening)]
    exact faithful.whole (wasListening listening) unbroken
  · intro listening before rest isPath
    obtain ⟨earlier, isEarlier, earlierBytes⟩ := notices before rest isPath
    have ends := faithful.notice (wasListening listening) earlier rest isEarlier
    rw [← sameBytes earlierBytes (wasListening listening)] at ends
    exact ends.mono
  · intro isStopped isOpen
    by_cases isStop : event = .stop
    · exact (stopping isStop (wasOpen isOpen)).mono passes.delivered
    · have wasStopped := (passes.stopped isStop isOpen).symm.trans isStopped
      exact (faithful.stopped wasStopped (wasOpen isOpen)).mono passes.delivered
  · intro call isReading
    show EndsWithin _ (after.returned ++ call.copied)
    obtain ⟨sameReturned, isFailed | ⟨isPopping, isStopped, isEmpty⟩⟩ := passes.eof call isReading
    · rw [sameReturned]
      exact (faithful.eof call isFailed).mono
    · have held : (link.receiver.window.queue.map fun element => element.l.toNat).sum < 2 ^ 32 := by
        have counted := faithful.sound.toSafe.countedBytes_le
        have outstandingLt := link.sender.window.outstanding_lt
        rw [StreamReceiver.countedBytes, held] at counted
        omega
      have all := faithful.receiver.delivered_of_eof faithful.sound.receiver isPopping isEmpty held
      have isOpen := faithful.receiver.isOpen (by simp [isPopping])
      rw [sameReturned, all]
      exact (faithful.stopped isStopped isOpen).mono
  · intro isEnded
    simp only [afterReceive, Bool.or_eq_true, Bool.and_eq_true, Bool.not_eq_true'] at isEnded
    rcases isEnded with wasEnded | ⟨isOpen, isEnd⟩
    · exact (faithful.ended wasEnded).mono passes.returned
    · obtain ⟨call, isFailed, isReturned⟩ := passes.ended isEnd isOpen
      have ends := faithful.eof call isFailed
      rw [← isReturned] at ends
      exact ends.mono

theorem Faithful.finishStep (unbroken : link.broken = false) (sound : link.afterFinish.Sound cfg) :
    link.afterFinish.Faithful cfg := by
  have sameBytes : pathBytes link.afterFinish.path = pathBytes link.path := by
    rw [afterFinish, pathBytes_append]
    exact append_nil _
  have keeps {bytes : List UInt8} (ends : link.EndsWithin bytes) :
      link.afterFinish.EndsWithin bytes := by
    obtain ⟨accepted, isAccepted, within⟩ := ends
    exact ⟨accepted, by simp [afterFinish, isAccepted], within⟩
  have closedAfter : link.afterFinish.EndsWithin link.sender.accepted := by
    cases isClosed : link.closedAfter with
    | none => exact ⟨_, by simp [afterFinish, isClosed], prefix_rfl⟩
    | some accepted => exact keeps ⟨accepted, isClosed, faithful.closedAfter accepted isClosed⟩
  refine faithful.of_sender sound faithful.sender prefix_rfl keeps ?_ ?_ ?_ ?_
  · intro _ isAccepted
    obtain ⟨_, isOther, within⟩ := closedAfter
    cases isOther.symm.trans isAccepted
    exact within
  · intro listening
    rw [sameBytes]
    exact faithful.part ⟨listening.1, listening.2⟩
  · intro listening _
    rw [sameBytes]
    exact faithful.whole ⟨listening.1, listening.2⟩ unbroken
  · intro listening before _ isPath
    have wasListening : link.Listening := ⟨listening.1, listening.2⟩
    rcases notice_of_append isPath with ⟨others, isEarlier⟩ | ⟨middle, isBefore, isLast⟩
    · exact keeps (faithful.notice wasListening before others isEarlier)
    · simp [singleton_eq_append_iff] at isLast
      rw [isBefore, isLast.1, append_nil, faithful.whole wasListening unbroken]
      exact closedAfter

theorem Faithful.lose (sound : next.Sound cfg)
    (path : next.Listening → link.Listening ∧ next.path <+: link.path)
    (whole : next.Listening → next.broken = false →
      next.path = link.path ∧ link.broken = false)
    (sender : next.sender = link.sender := by rfl)
    (receiver : next.receiver = link.receiver := by rfl)
    (closedAfter : next.closedAfter = link.closedAfter := by rfl)
    (ended : next.ended = link.ended := by rfl) : next.Faithful cfg := by
  refine faithful.of_sender sound (sender ▸ faithful.sender) (by rw [sender])
    (fun ends => ends.mono prefix_rfl closedAfter)
    (by rw [closedAfter, sender]; exact faithful.closedAfter) ?_ ?_ ?_ receiver ended
  · intro listening
    obtain ⟨wasListening, _, isPath⟩ := path listening
    have part := faithful.part wasListening
    rw [← isPath, pathBytes_append, ← append_assoc] at part
    rw [sender]
    exact (prefix_append _ _).trans part
  · intro listening unbroken
    obtain ⟨samePath, wasUnbroken⟩ := whole listening unbroken
    rw [sender, samePath]
    exact faithful.whole (path listening).1 wasUnbroken
  · intro listening before after isPath
    obtain ⟨wasListening, rest, isWhole⟩ := path listening
    have isEarlier : link.path = before ++ .finish :: (after ++ rest) := by
      rw [← isWhole, isPath, append_assoc, cons_append]
    exact (faithful.notice wasListening before _ isEarlier).mono prefix_rfl closedAfter

end

theorem Faithful.step (normalized : cfg.Normalized) (faithful : link.Faithful cfg)
    {event : LinkEvent} (closesIdle : link.ClosesIdle event)
    (stepEq : link.step cfg event = some next) : next.Faithful cfg := by
  have sound := faithful.sound.step normalized stepEq
  cases steps_of_step stepEq with
  | send _ _ taken _ isResult => exact faithful.sendStep isResult taken sound
  | finish unbroken => exact faithful.finishStep unbroken sound
  | receive event notArrive notStop _ isResult =>
    have nothing : StreamReceiver.arrivedBytes event = [] := by
      cases event with
      | arrive bytes part => exact absurd rfl (notArrive bytes part)
      | _ => rfl
    refine faithful.receiveStep isResult (by rw [nothing]; decide)
      (fun isClose => closesIdle (by rw [isClose])) (.inl nothing) (by rw [nothing]; rfl) ?_
      (fun isStop => absurd isStop notStop) sound
    intro before _ isPath
    exact ⟨before, isPath, by rw [nothing]; rfl⟩
  | discard _ _ _ _ isClosed =>
    refine faithful.lose sound ?_ ?_
    · intro listening
      exact absurd listening.connection (by simp [isClosed])
    · intro listening
      exact absurd listening.connection (by simp [isClosed])
  | deliver bytes part _ _ isPath isOpen _ isResult =>
    have isShort := (faithful.sound.segments bytes part (by simp [isPath])).2
    refine faithful.receiveStep isResult (lt_of_le_of_lt isShort (by decide)) (by simp)
      (.inr isOpen) (by rw [isPath]; rfl) ?_ (by simp) sound
    intro before _ isRest
    exact ⟨.data bytes part :: before, by rw [isPath, isRest]; rfl, rfl⟩
  | deliverFinish rest isIncoming isPath isOpen _ isResult =>
    refine faithful.receiveStep isResult (by decide) (by simp) (.inl rfl)
      (by rw [isPath]; rfl) ?_ ?_ sound
    · intro before _ isRest
      exact ⟨.finish :: before, by rw [isPath, isRest]; rfl, rfl⟩
    · intro _ windowOpen
      have ends := faithful.notice ⟨isOpen, windowOpen⟩ [] rest isPath
      have isTaken : link.taken ++ pathBytes [] = link.receiver.delivered := by
        rw [taken, isIncoming]
        simp [Incoming.bytes, pathBytes]
      rw [isTaken] at ends
      exact ends
  | ignore | closeSender | mute =>
    exact faithful.lose sound
      (fun listening => ⟨⟨listening.1, listening.2⟩, prefix_rfl⟩)
      (fun _ unbroken => ⟨rfl, unbroken⟩)
  | answer _ _ _ _ _ isResult => exact faithful.sendStep isResult (by simp) sound
  | closeReceiver =>
    exact faithful.lose sound
      (fun listening => absurd listening.connection (by simp))
      (fun listening => absurd listening.connection (by simp))
  | breakOff =>
    exact faithful.lose sound
      (fun listening => ⟨⟨listening.1, listening.2⟩, take_prefix _ _⟩)
      (fun _ unbroken => absurd unbroken (by simp))

theorem Faithful.returned_prefix (faithful : link.Faithful cfg) :
    link.receiver.returned <+: link.sender.accepted := by
  have returned := (prefix_append _ _).trans faithful.receiver.returned_prefix
  exact returned.trans ((prefix_append _ _).trans faithful.taken_prefix)

end Steps

end StreamLink

end DeepNps.Mux
