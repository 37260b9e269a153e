import DeepNps.LabelledRuns
import DeepNps.MuxReceiverCounter
import DeepNps.MuxSenderFlow
import Mathlib.Algebra.Order.BigOperators.Group.List
import Mathlib.Algebra.Order.Group.Nat

/-!
# One direction of a stream

Data frames and the frames that end the stream stay in order.  Window updates are sent by
two threads, so they are delivered in any order, and a closed connection drops what still
arrives.  What the sender has outstanding is in flight, buffered, read and not reported,
or reported by an update in flight.
-/

namespace DeepNps.Mux

/-- A segment, or the notice that the sender has closed the stream or its side of it. -/
inductive PathFrame where
  | data (bytes : List UInt8) (part : Bool)
  | finish
  deriving DecidableEq

def PathFrame.bytes : PathFrame → List UInt8
  | .data bytes _ => bytes
  | .finish => []

/-- `senderClosed` and `receiverClosed` are the `isClose` flags.  The link is `broken` when the
mux of the sender is closed, `muted` when that of the receiver is.  `closedAfter` records what
was accepted before the first notice, `ended` whether a `Read` has reported the end on an open
window. -/
structure StreamLink where
  sender : StreamSender
  receiver : StreamReceiver
  path : List PathFrame
  updates : List UInt64
  senderClosed : Bool
  receiverClosed : Bool
  broken : Bool
  muted : Bool
  violated : Bool
  closedAfter : Option (List UInt8)
  ended : Bool

open StreamLink Option

inductive LinkEvent where
  | send (event : SenderEvent)
  | finish
  | receive (event : ReceiverEvent)
  | deliver
  | answer (index : Nat)
  | closeSender
  | closeReceiver
  | breakOff (kept : Nat)
  | mute (kept : Nat)

open List List.Sublist

namespace StreamLink

def new : StreamLink where
  sender := StreamSender.new
  receiver := StreamReceiver.new
  path := []
  updates := []
  senderClosed := false
  receiverClosed := false
  broken := false
  muted := false
  violated := false
  closedAfter := none
  ended := false

def afterSend (link : StreamLink) (result : StreamSender × SenderOutput) : StreamLink :=
  { link with
    sender := result.1
    path := link.path ++ result.2.segment.toList.map fun segment => .data segment.1 segment.2
    violated := link.violated || result.2.violation.isSome }

def reportsEnd (output : ReceiverOutput) : Bool :=
  match output.result with
  | some (_, some .eof) => true
  | _ => false

def afterReceive (link : StreamLink) (result : StreamReceiver × ReceiverOutput) : StreamLink :=
  { link with
    receiver := result.1
    updates := if link.muted then link.updates else link.updates ++ result.2.update.toList
    ended := link.ended || (!link.receiver.window.closeOp && reportsEnd result.2) }

def writeSegment (bytes : List UInt8) : List LinkEvent :=
  [.send (.write bytes), .send .writeTo, .send .sent, .send .queue, .send .writeTo]

/-- `bound` and `limit` are the values of the session counter at its two loads. -/
def takeIn (sample : SizeSample) (bound limit : UInt64) : List LinkEvent :=
  [.deliver, .receive (.incomingSize sample), .receive .incomingLoad,
    .receive (.incomingBound bound), .receive (.incomingLimit limit), .receive .incomingRemain,
    .receive .incomingCommit, .receive .incomingReserve, .receive .incomingPush]

/-- A `Read` into `room` bytes that takes the next segment from the queue and
copies once. -/
def readSegment (room : Nat) : List LinkEvent :=
  [.receive (.read room), .receive .loop, .receive .pop, .receive .copy]

def accountFor (sample : SizeSample) (bound limit : UInt64) : List LinkEvent :=
  [.receive .release, .receive (.statusSize sample), .receive .statusLoad,
    .receive (.statusBound bound), .receive (.statusLimit limit), .receive .statusRemain,
    .receive .statusCommit, .receive .statusNotify]

def afterFinish (link : StreamLink) : StreamLink :=
  { link with
    path := link.path ++ [.finish]
    closedAfter := link.closedAfter.or (some link.sender.accepted) }

/-- One thread takes the frames off the path, so it has finished with the last segment before it
goes on.  A mux that closes drops what it has queued and takes no more. -/
def step (cfg : MuxConfig) (link : StreamLink) : LinkEvent → Option StreamLink
  | .send (.update _) => none
  | .send .queue => if link.broken then none else (link.sender.step .queue).map link.afterSend
  | .send event => (link.sender.step event).map link.afterSend
  | .finish => if link.broken then none else some link.afterFinish
  | .receive (.arrive _ _) => none
  | .receive .stop => none
  | .receive event => (link.receiver.step cfg event).map link.afterReceive
  | .deliver =>
      match link.receiver.incoming, link.path with
      | .idle, frame :: rest =>
          let remaining := { link with path := rest }
          if link.receiverClosed then some remaining
          else
            match frame with
            | .data bytes part =>
                (link.receiver.step cfg (.arrive bytes part)).map remaining.afterReceive
            | .finish => (link.receiver.step cfg .stop).map remaining.afterReceive
      | _, _ => none
  | .answer index =>
      (link.updates[index]?).bind fun word =>
        let remaining := { link with updates := link.updates.eraseIdx index }
        if link.senderClosed then some remaining
        else (link.sender.step (.update word)).map remaining.afterSend
  | .closeSender => some { link with senderClosed := true }
  | .closeReceiver => some { link with receiverClosed := true }
  | .breakOff kept => some { link with path := link.path.take kept, broken := true }
  | .mute kept => some { link with updates := link.updates.take kept, muted := true }

inductive Steps (cfg : MuxConfig) (link : StreamLink) : LinkEvent → StreamLink → Prop
  | send (event : SenderEvent) (notUpdate : ∀ word, event ≠ .update word)
      (taken : event = .queue → link.broken = false)
      (result : StreamSender × SenderOutput) (isResult : link.sender.step event = some result) :
      Steps cfg link (.send event) (link.afterSend result)
  | finish (taken : link.broken = false) : Steps cfg link .finish link.afterFinish
  | receive (event : ReceiverEvent) (notArrive : ∀ bytes part, event ≠ .arrive bytes part)
      (notStop : event ≠ .stop) (result : StreamReceiver × ReceiverOutput)
      (isResult : link.receiver.step cfg event = some result) :
      Steps cfg link (.receive event) (link.afterReceive result)
  | discard (frame : PathFrame) (rest : List PathFrame)
      (isIncoming : link.receiver.incoming = .idle) (isPath : link.path = frame :: rest)
      (isClosed : link.receiverClosed = true) :
      Steps cfg link .deliver { link with path := rest }
  | deliver (bytes : List UInt8) (part : Bool) (rest : List PathFrame)
      (isIncoming : link.receiver.incoming = .idle) (isPath : link.path = .data bytes part :: rest)
      (isOpen : link.receiverClosed = false) (result : StreamReceiver × ReceiverOutput)
      (isResult : link.receiver.step cfg (.arrive bytes part) = some result) :
      Steps cfg link .deliver ({ link with path := rest }.afterReceive result)
  | deliverFinish (rest : List PathFrame) (isIncoming : link.receiver.incoming = .idle)
      (isPath : link.path = .finish :: rest) (isOpen : link.receiverClosed = false)
      (result : StreamReceiver × ReceiverOutput)
      (isResult : link.receiver.step cfg .stop = some result) :
      Steps cfg link .deliver ({ link with path := rest }.afterReceive result)
  | ignore (index : Nat) (word : UInt64) (found : link.updates[index]? = some word)
      (isClosed : link.senderClosed = true) :
      Steps cfg link (.answer index) { link with updates := link.updates.eraseIdx index }
  | answer (index : Nat) (word : UInt64) (found : link.updates[index]? = some word)
      (isOpen : link.senderClosed = false) (result : StreamSender × SenderOutput)
      (isResult : link.sender.step (.update word) = some result) :
      Steps cfg link (.answer index)
        ({ link with updates := link.updates.eraseIdx index }.afterSend result)
  | closeSender : Steps cfg link .closeSender { link with senderClosed := true }
  | closeReceiver : Steps cfg link .closeReceiver { link with receiverClosed := true }
  | breakOff (kept : Nat) :
      Steps cfg link (.breakOff kept) { link with path := link.path.take kept, broken := true }
  | mute (kept : Nat) :
      Steps cfg link (.mute kept) { link with updates := link.updates.take kept, muted := true }

section Inversion

variable {cfg : MuxConfig} {link next : StreamLink}

theorem steps_of_step {event : LinkEvent} (stepEq : link.step cfg event = some next) :
    Steps cfg link event next := by
  revert stepEq
  fun_cases step cfg link event with
  | case3 isOpen =>
    intro stepEq
    obtain ⟨result, isResult, rfl⟩ := map_eq_some_iff.mp stepEq
    exact .send .queue nofun (fun _ => by simpa using isOpen) result isResult
  | case4 event notUpdate notQueue =>
    intro stepEq
    obtain ⟨result, isResult, rfl⟩ := map_eq_some_iff.mp stepEq
    exact .send event notUpdate (fun isQueue => absurd isQueue notQueue) result isResult
  | case6 isOpen =>
    rintro ⟨⟩
    exact .finish (by simpa using isOpen)
  | case9 event notArrive notStop =>
    intro stepEq
    obtain ⟨result, isResult, rfl⟩ := map_eq_some_iff.mp stepEq
    exact .receive event notArrive notStop result isResult
  | case10 frame rest isPath isIncoming _ isClosed =>
    intro stepEq
    obtain rfl := some.inj stepEq
    exact .discard frame rest isIncoming isPath isClosed
  | case11 rest isIncoming _ isOpen bytes part isPath =>
    intro stepEq
    obtain ⟨result, isResult, rfl⟩ := map_eq_some_iff.mp stepEq
    exact .deliver bytes part rest isIncoming isPath (by simpa using isOpen) result isResult
  | case12 rest isIncoming _ isOpen isPath =>
    intro stepEq
    obtain ⟨result, isResult, rfl⟩ := map_eq_some_iff.mp stepEq
    exact .deliverFinish rest isIncoming isPath (by simpa using isOpen) result isResult
  | case14 index =>
    intro stepEq
    obtain ⟨word, found, stepEq⟩ := bind_eq_some_iff.mp stepEq
    dsimp only at stepEq
    split_ifs at stepEq with isClosed
    · cases stepEq
      exact .ignore index word found isClosed
    · obtain ⟨result, isResult, rfl⟩ := map_eq_some_iff.mp stepEq
      exact .answer index word found (by simpa using isClosed) result isResult
  | case15 =>
    rintro ⟨⟩
    exact .closeSender
  | case16 =>
    rintro ⟨⟩
    exact .closeReceiver
  | case17 kept =>
    rintro ⟨⟩
    exact .breakOff kept
  | case18 kept =>
    rintro ⟨⟩
    exact .mute kept
  | _ => rintro ⟨⟩

end Inversion

def inFlight (link : StreamLink) : Nat :=
  link.sender.cutLength + (link.path.map fun frame => frame.bytes.length).sum +
    link.receiver.incoming.length

def buffered (link : StreamLink) : Nat := link.receiver.window.held

def reportedInFlight (link : StreamLink) : Nat :=
  link.receiver.reporting + (link.updates.map wordDone).sum

/-- Everything the sender is waiting to hear about. -/
def awaited (link : StreamLink) : Nat :=
  link.inFlight + link.buffered + link.receiver.unreported + link.reportedInFlight

/-- Neither side of the stream is closed. -/
structure IsOpen (link : StreamLink) : Prop where
  sendWindow : link.sender.window.closeOp = false
  receiveWindow : link.receiver.window.closeOp = false
  sender : link.senderClosed = false
  receiver : link.receiverClosed = false
  notBroken : link.broken = false
  notMuted : link.muted = false

structure Safe (cfg : MuxConfig) (link : StreamLink) : Prop where
  sender : link.sender.WellFormed cfg
  receiver : link.receiver.WellFormed cfg
  exact : link.receiver.Exact
  segments : ∀ bytes part, .data bytes part ∈ link.path →
    0 < bytes.length ∧ bytes.length ≤ maximumSegmentSize
  updates : ∀ word ∈ link.updates, Advertisable cfg (wordSize word)
  le : link.awaited ≤ link.sender.window.outstanding
  noViolation : link.violated = false

structure Sound (cfg : MuxConfig) (link : StreamLink) : Prop extends link.Safe cfg where
  eq : link.IsOpen → link.awaited = link.sender.window.outstanding

theorem new_sound {cfg : MuxConfig} (normalized : cfg.Normalized) : new.Sound cfg where
  sender := StreamSender.new_wellFormed normalized
  receiver := StreamReceiver.new_wellFormed normalized
  exact := rfl
  segments := by simp [new]
  updates := by simp [new]
  le := Nat.zero_le _
  eq := by
    intro _
    exact SendWindow.new_outstanding.symm
  noViolation := rfl

theorem awaited_eq (link : StreamLink) :
    link.awaited = link.sender.cutLength +
      (link.path.map fun frame => frame.bytes.length).sum + link.receiver.credit +
        (link.updates.map wordDone).sum := by
  simp only [awaited, inFlight, buffered, reportedInFlight, StreamReceiver.credit]
  omega

section Steps

variable {cfg : MuxConfig} {link next : StreamLink}

theorem sum_segment (output : SenderOutput) :
    ((output.segment.toList.map fun segment => PathFrame.data segment.1 segment.2).map
      fun frame => frame.bytes.length).sum = StreamSender.queuedBy output := by
  rw [StreamSender.queuedBy]
  cases output.segment with
  | none => rfl
  | some => simp [PathFrame.bytes]

theorem sum_update (update : Option UInt64) :
    (update.toList.map wordDone).sum = reported update := by
  cases update with
  | none => rfl
  | some => simp [reported]

theorem Sound.sendStep (normalized : cfg.Normalized) (sound : link.Sound cfg)
    {event : SenderEvent} {updates : List UInt64}
    (remaining : (link.updates.map wordDone).sum =
      (updates.map wordDone).sum + StreamSender.reportedBy event)
    (sub : updates ⊆ link.updates)
    (updateOk : ∀ word, event = .update word → Advertisable cfg (wordSize word))
    {result : StreamSender × SenderOutput} (stepEq : link.sender.step event = some result) :
    ({ link with updates := updates }.afterSend result).Sound cfg := by
  obtain ⟨after, output⟩ := result
  have awaited := link.awaited_eq
  have le := sound.le
  have keeps := sound.sender.step normalized (by omega) updateOk stepEq
  have awaitedAfter := ({ link with updates := updates }.afterSend (after, output)).awaited_eq
  simp only [afterSend, map_append, sum_append, sum_segment] at awaitedAfter
  refine ⟨⟨keeps.wellFormed, sound.receiver, sound.exact, ?_,
    fun word isMember => sound.updates word (sub isMember), ?_, ?_⟩, ?_⟩
  · intro bytes part isMember
    rcases mem_append.mp isMember with isMember | isMember
    · exact sound.segments bytes part isMember
    · obtain ⟨segment, isSegment, isFrame⟩ := mem_map.mp isMember
      cases isFrame
      exact keeps.short segment.1 segment.2 (mem_toList.mp isSegment)
  · have balance := keeps.le
    show StreamLink.awaited _ ≤ after.window.outstanding
    simp only [afterSend]
    omega
  · simp [afterSend, sound.noViolation, keeps.noViolation]
  · intro isOpen
    have wasOpen : link.sender.window.closeOp = false := by
      cases isClosed : link.sender.window.closeOp with
      | false => rfl
      | true => exact absurd (keeps.closed isClosed) (by simpa [afterSend] using isOpen.sendWindow)
    have equal := sound.eq { isOpen with sendWindow := wasOpen }
    have balance := keeps.eq wasOpen
    show StreamLink.awaited _ = after.window.outstanding
    simp only [afterSend]
    omega

theorem Sound.receiveStep (normalized : cfg.Normalized) (sound : link.Sound cfg)
    {event : ReceiverEvent} {path : List PathFrame}
    (remaining : (link.path.map fun frame => frame.bytes.length).sum =
      (path.map fun frame => frame.bytes.length).sum + StreamReceiver.arrived event)
    (sub : path ⊆ link.path) (short : StreamReceiver.arrived event < 2 ^ 16)
    {result : StreamReceiver × ReceiverOutput}
    (stepEq : link.receiver.step cfg event = some result) :
    ({ link with path := path }.afterReceive result).Sound cfg := by
  obtain ⟨after, output⟩ := result
  have awaited := link.awaited_eq
  have le := sound.le
  have outstandingLt := link.sender.window.outstanding_lt
  have keeps := sound.receiver.step normalized (by omega) short stepEq
  have awaitedAfter := ({ link with path := path }.afterReceive (after, output)).awaited_eq
  have exact := sound.exact.steps sound.receiver (StreamReceiver.steps_of_step stepEq)
  have flow := keeps.flows.le
  have segments : ∀ bytes part, .data bytes part ∈ path →
      0 < bytes.length ∧ bytes.length ≤ maximumSegmentSize :=
    fun bytes part isMember => sound.segments bytes part (sub isMember)
  cases isMuted : link.muted with
  | true =>
    simp only [afterReceive, isMuted, if_true] at awaitedAfter ⊢
    refine ⟨⟨sound.sender, keeps.wellFormed, exact, segments, sound.updates, ?_,
      sound.noViolation⟩, ?_⟩
    · show StreamLink.awaited _ ≤ link.sender.window.outstanding
      omega
    · intro isOpen
      exact absurd isOpen.notMuted (by simp)
  | false =>
    simp only [afterReceive, isMuted, Bool.false_eq_true, if_false, map_append,
      sum_append, sum_update] at awaitedAfter ⊢
    refine ⟨⟨sound.sender, keeps.wellFormed, exact, segments, ?_, ?_, sound.noViolation⟩, ?_⟩
    · intro word isMember
      rcases mem_append.mp isMember with isMember | isMember
      · exact sound.updates word isMember
      · exact keeps.updateOk word (mem_toList.mp isMember)
    · show StreamLink.awaited _ ≤ link.sender.window.outstanding
      omega
    · intro isOpen
      have wasOpen : link.receiver.window.closeOp = false := by
        cases isClosed : link.receiver.window.closeOp with
        | false => rfl
        | true => exact absurd (keeps.closed isClosed) (by simpa using isOpen.receiveWindow)
      have equal := sound.eq { isOpen with receiveWindow := wasOpen, notMuted := isMuted }
      have flowEq := keeps.flows.eq isOpen.receiveWindow
      show StreamLink.awaited _ = link.sender.window.outstanding
      omega

theorem sum_le_of_sublist {first second : List Nat} (sublist : first.Sublist second) :
    first.sum ≤ second.sum :=
  sublist.sum_le_sum fun _ _ => Nat.zero_le _

theorem Sound.lose (sound : link.Sound cfg)
    (sender : next.sender = link.sender) (receiver : next.receiver = link.receiver)
    (violated : next.violated = link.violated) (path : next.path.Sublist link.path)
    (updates : next.updates.Sublist link.updates) (notOpen : ¬ next.IsOpen) : next.Sound cfg where
  sender := by rw [sender]; exact sound.sender
  receiver := by rw [receiver]; exact sound.receiver
  exact := by rw [receiver]; exact sound.exact
  segments := fun bytes part isMember => sound.segments bytes part (path.subset isMember)
  updates := fun word isMember => sound.updates word (updates.subset isMember)
  le := by
    have le := sound.le
    have fewerFrames := sum_le_of_sublist (path.map fun frame => frame.bytes.length)
    have fewerUpdates := sum_le_of_sublist (updates.map wordDone)
    rw [awaited_eq, sender, receiver]
    rw [awaited_eq] at le
    omega
  noViolation := violated.trans sound.noViolation
  eq := fun isOpen => absurd isOpen notOpen

theorem sum_eraseIdx {updates : List UInt64} {index : Nat} {word : UInt64}
    (found : updates[index]? = some word) :
    (updates.map wordDone).sum = ((updates.eraseIdx index).map wordDone).sum + wordDone word := by
  obtain ⟨inside, isWord⟩ := List.getElem?_eq_some_iff.mp found
  have perm := (List.getElem_cons_eraseIdx_perm inside).map wordDone
  rw [isWord] at perm
  have sums := perm.sum_eq
  rw [List.map_cons, List.sum_cons] at sums
  omega

theorem Sound.step (normalized : cfg.Normalized) (sound : link.Sound cfg) {event : LinkEvent}
    (stepEq : link.step cfg event = some next) : next.Sound cfg := by
  cases steps_of_step stepEq with
  | send event notUpdate _ _ isResult =>
    have noReport : StreamSender.reportedBy event = 0 := by
      cases event with
      | update word => exact absurd rfl (notUpdate word)
      | _ => rfl
    exact sound.sendStep normalized (by rw [noReport, Nat.add_zero]) (List.Subset.refl _)
      (fun word isUpdate => absurd isUpdate (notUpdate word)) isResult
  | finish =>
    have sameAwaited : link.afterFinish.awaited = link.awaited := by
      simp only [awaited, inFlight, afterFinish, map_append, sum_append]
      rfl
    refine ⟨{ sound.toSafe with
      segments := ?_
      le := by rw [sameAwaited]; exact sound.le }, ?_⟩
    · intro bytes part isMember
      exact sound.segments bytes part (by simpa [afterFinish] using isMember)
    · intro isOpen
      rw [sameAwaited]
      exact sound.eq ⟨isOpen.1, isOpen.2, isOpen.3, isOpen.4, isOpen.5, isOpen.6⟩
  | receive event notArrive _ _ isResult =>
    have nothingArrives : StreamReceiver.arrived event = 0 := by
      cases event with
      | arrive bytes part => exact absurd rfl (notArrive bytes part)
      | _ => rfl
    exact sound.receiveStep normalized (by rw [nothingArrives, Nat.add_zero])
      (List.Subset.refl _) (by omega) isResult
  | discard _ _ _ isPath isClosed =>
    refine sound.lose rfl rfl rfl ?_ (refl _) ?_
    · rw [isPath]
      exact sublist_cons_self _ _
    · intro isOpen
      exact absurd isOpen.receiver (by simp [isClosed])
  | deliver bytes part _ _ isPath _ _ isResult =>
    have isShort := (sound.segments bytes part (by simp [isPath])).2
    refine sound.receiveStep normalized ?_ ?_ ?_ isResult
    · rw [isPath, map_cons, sum_cons, Nat.add_comm]
      rfl
    · rw [isPath]
      exact subset_cons_self _ _
    · exact lt_of_le_of_lt isShort (by decide)
  | deliverFinish _ _ isPath _ _ isResult =>
    refine sound.receiveStep normalized ?_ ?_ (by decide) isResult
    · rw [isPath, map_cons, sum_cons, Nat.add_comm]
      rfl
    · rw [isPath]
      exact subset_cons_self _ _
  | ignore _ _ _ isClosed =>
    refine sound.lose rfl rfl rfl (refl _) (eraseIdx_sublist _ _) ?_
    intro isOpen
    exact absurd isOpen.sender (by simp [isClosed])
  | answer _ word found _ _ isResult =>
    refine sound.sendStep normalized (sum_eraseIdx found) eraseIdx_subset ?_ isResult
    intro _ isUpdate
    cases isUpdate
    exact sound.updates word (mem_of_getElem? found)
  | closeSender =>
    refine sound.lose rfl rfl rfl (refl _) (refl _) ?_
    intro isOpen
    exact absurd isOpen.sender (by simp)
  | closeReceiver =>
    refine sound.lose rfl rfl rfl (refl _) (refl _) ?_
    intro isOpen
    exact absurd isOpen.receiver (by simp)
  | breakOff =>
    refine sound.lose rfl rfl rfl (take_sublist _ _) (refl _) ?_
    intro isOpen
    exact absurd isOpen.notBroken (by simp)
  | mute =>
    refine sound.lose rfl rfl rfl (refl _) (take_sublist _ _) ?_
    intro isOpen
    exact absurd isOpen.notMuted (by simp)

theorem Safe.countedBytes_le (safe : link.Safe cfg) :
    link.receiver.countedBytes ≤ link.sender.window.outstanding := by
  have part := link.receiver.countedBytes_le_credit
  have awaited := link.awaited_eq
  have le := safe.le
  omega

theorem sound_of_execute (normalized : cfg.Normalized) {events : List LinkEvent}
    (reaches : Runs.execute (step cfg) new events = some link) : link.Sound cfg :=
  Runs.invariant_of_execute _ (fun _ _ _ sound stepEq => sound.step normalized stepEq)
    (new_sound normalized) reaches

end Steps

end StreamLink

/-- Nothing is awaited that is not outstanding, and as long as neither side is closed the two are
equal.  The branch of `SetSize` that closes the mux is never taken. -/
theorem credit_conserved (cfg : MuxConfig) (events : List LinkEvent) (link : StreamLink)
    (reaches : Runs.execute (StreamLink.step (normalizeMuxConfig cfg)) StreamLink.new events =
      some link) :
    (link.inFlight + link.buffered + link.receiver.unreported + link.reportedInFlight ≤
      link.sender.window.outstanding) ∧
    (link.IsOpen → link.sender.window.outstanding =
      link.inFlight + link.buffered + link.receiver.unreported + link.reportedInFlight) ∧
    (∀ word ∈ link.updates, wordDone word ≤ link.sender.window.outstanding) ∧
    link.violated = false := by
  have sound := sound_of_execute (normalizeMuxConfig_normalized cfg) reaches
  refine ⟨sound.le, fun isOpen => (sound.eq isOpen).symm, ?_, sound.noViolation⟩
  intro word isMember
  have part : wordDone word ≤ (link.updates.map wordDone).sum :=
    le_sum_of_mem (mem_map_of_mem isMember)
  have awaited := link.awaited_eq
  have le := sound.le
  omega

def partlyReadLink : List LinkEvent :=
  StreamLink.writeSegment [1, 2, 3, 4, 5] ++ StreamLink.writeSegment [6, 7] ++
    StreamLink.takeIn (.unmoved 191484 none ⟨0, 0⟩) 0 0 ++ [.receive .incomingNotify] ++
    StreamLink.readSegment 2

theorem credit_conserved_partlyRead :
    ∃ link, Runs.execute (StreamLink.step (normalizeMuxConfig defaultMuxConfig)) StreamLink.new
        partlyReadLink = some link ∧
      (link.sender.window.outstanding =
        link.inFlight + link.buffered + link.receiver.unreported + link.reportedInFlight) ∧
      link.inFlight = 2 ∧ link.buffered = 5 := by
  refine ⟨_, rfl, ?_, rfl, rfl⟩
  exact (credit_conserved defaultMuxConfig partlyReadLink _ rfl).2.1 ⟨rfl, rfl, rfl, rfl, rfl, rfl⟩

def expiredReadLink : List LinkEvent :=
  [.receive (.setDeadline (some 10)), .receive (.read 8), .receive .loop, .receive (.expire 10),
    .receive .fail] ++ StreamLink.writeSegment [1, 2, 3] ++ [.deliver]

/-- The `Read` has closed the window, which refuses the segment; its bytes stay
outstanding and are nowhere else. -/
theorem credit_lost_after_expiredRead :
    ∃ link, Runs.execute (StreamLink.step (normalizeMuxConfig defaultMuxConfig)) StreamLink.new
        expiredReadLink = some link ∧
      link.sender.window.outstanding = 3 ∧
      link.inFlight + link.buffered + link.receiver.unreported + link.reportedInFlight = 0 :=
  ⟨_, rfl, rfl, rfl⟩

/-- The receiver never buffers more than the configured window of a stream, and
its counter never shows more. -/
theorem receive_buffer_bounded (cfg : MuxConfig) (events : List LinkEvent) (link : StreamLink)
    (reaches : Runs.execute (StreamLink.step (normalizeMuxConfig cfg)) StreamLink.new events =
      some link) :
    link.buffered ≤ (normalizeMuxConfig cfg).maxConnReceiveWindow.toNat ∧
    link.receiver.window.buffered.toNat ≤ (normalizeMuxConfig cfg).maxConnReceiveWindow.toNat := by
  have sound := sound_of_execute (normalizeMuxConfig_normalized cfg) reaches
  have le := sound.le
  have bound := sound.sender.outstanding_le
  have counted := sound.toSafe.countedBytes_le
  have outstandingLt := link.sender.window.outstanding_lt
  have exact := sound.exact
  rw [StreamReceiver.Exact] at exact
  refine ⟨?_, ?_⟩
  · simp only [awaited] at le
    omega
  · -- the counter of the receiver does not wrap
    rw [exact, UInt32.toNat_ofNat', Nat.mod_eq_of_lt (by omega)]
    omega

theorem receive_buffer_bounded_partlyRead :
    ∃ link, Runs.execute (StreamLink.step (normalizeMuxConfig defaultMuxConfig)) StreamLink.new
        partlyReadLink = some link ∧
      link.buffered ≤ (normalizeMuxConfig defaultMuxConfig).maxConnReceiveWindow.toNat ∧
      link.receiver.window.buffered.toNat ≤
        (normalizeMuxConfig defaultMuxConfig).maxConnReceiveWindow.toNat ∧
      link.receiver.window.buffered = 5 := by
  refine ⟨_, rfl, ?_⟩
  have bounds := receive_buffer_bounded defaultMuxConfig partlyReadLink _ rfl
  exact ⟨bounds.1, bounds.2, rfl⟩

end DeepNps.Mux
