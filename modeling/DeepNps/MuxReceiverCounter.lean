import DeepNps.MuxReceiverSteps

/-!
# The counter of a receive window

The counter of buffered bytes counts the bytes held, a segment that is counted and not
queued yet, and a finished segment that is not given back yet.
-/

namespace DeepNps.Mux.StreamReceiver

open ReceiveWindow UInt32

def countedBytes (receiver : StreamReceiver) : Nat :=
  receiver.window.held + receiver.incoming.counted + receiver.reading.counted

def Exact (receiver : StreamReceiver) : Prop :=
  receiver.window.buffered = UInt32.ofNat receiver.countedBytes

theorem countedBytes_le_credit (receiver : StreamReceiver) :
    receiver.countedBytes ≤ receiver.credit := by
  have incoming : receiver.incoming.counted ≤ receiver.incoming.length := by
    cases receiver.incoming <;> simp [Incoming.counted, Incoming.length]
  have reading : receiver.reading.counted ≤ receiver.reading.length := by
    cases receiver.reading <;> simp [Reading.counted, Reading.length]
  simp only [countedBytes, credit, unreported]
  omega

section Steps

variable {cfg : MuxConfig} {receiver after : StreamReceiver} {output : ReceiverOutput}

section

variable (exact : receiver.Exact)

include exact

theorem Exact.of_same (sameBuffered : after.window.buffered = receiver.window.buffered)
    (sameBytes : after.countedBytes = receiver.countedBytes) : after.Exact := by
  rw [Exact, sameBuffered, sameBytes]
  exact exact

theorem Exact.closeWindow {reading : Reading} {returned : List UInt8}
    (sameCounted : reading.counted = receiver.reading.counted) :
    ({ receiver with
        window := receiver.window.closeWindow
        reading := reading
        returned := returned } : StreamReceiver).Exact := by
  have noBytes := receiver.window.held_closeWindow
  rw [Exact, countedBytes] at exact ⊢
  simp only [noBytes, sameCounted]
  rw [closeWindow_eq, sum_toUInt32, toUInt32_eq_ofNat, exact, held]
  simp only [ofNat_add]
  grind

theorem Exact.next {element : ListElement} {call : ReadCall}
    (isNext : receiver.next element call = (after, output))
    (noCounted : receiver.reading.counted = 0) : after.Exact := by
  rw [StreamReceiver.next] at isNext
  split_ifs at isNext
  · cases isNext
    exact exact.of_same rfl (by rw [countedBytes, countedBytes, noCounted]; rfl)
  · cases isNext
    exact exact.of_same rfl (by rw [countedBytes, countedBytes, noCounted]; rfl)

theorem Exact.steps (wellFormed : receiver.WellFormed cfg) {event : ReceiverEvent}
    (steps : Steps cfg receiver event after output) : after.Exact := by
  cases steps with
  | arriveRefused | readClosed
  | setDeadline | setPriority | stop => exact exact
  | arrive _ _ isIncoming | incomingLoad _ isIncoming
  | incomingBound _ _ _ isIncoming
  | incomingLimit _ _ _ _ isIncoming
  | incomingRemain _ _ _ _ isIncoming
  | incomingRetry _ _ _ _ isIncoming | incomingNotify _ isIncoming =>
    exact exact.of_same rfl (by simp [countedBytes, isIncoming, Incoming.counted])
  | incomingSize sample _ isIncoming =>
    obtain ⟨_, _, sized⟩ := calcSize_eq cfg sample receiver.window
    rw [sized]
    refine exact.of_same rfl ?_
    rw [countedBytes, countedBytes, isIncoming]
    rfl
  | incomingCommit _ _ _ isIncoming =>
    refine exact.of_same rfl ?_
    rw [countedBytes, countedBytes, isIncoming]
    rfl
  | incomingReserve element _ isIncoming =>
    rw [Exact, countedBytes, isIncoming] at exact
    rw [reserveBytes_eq, Exact, countedBytes]
    show receiver.window.buffered + element.l.toUInt32 =
      ofNat (receiver.window.held + element.l.toNat + receiver.reading.counted)
    rw [exact, toUInt32_eq_ofNat]
    simp only [Incoming.counted, ofNat_add]
    grind
  | incomingPush _ _ isIncoming =>
    refine exact.of_same rfl ?_
    simp only [countedBytes, isIncoming, Incoming.counted, held_push]
    omega
  | read _ _ isReading | loopClosed _ isReading
  | loopPop _ _ isReading
  | loopCopy _ _ isReading | statusLoad _ _ isReading
  | statusBound _ _ _ _ isReading
  | statusLimit _ _ _ _ _ _ isReading
  | statusRemain _ _ _ _ _ isReading
  | statusRetry _ _ _ _ _ isReading =>
    exact exact.of_same rfl (by simp [countedBytes, isReading, Reading.counted])
  | popElement _ _ _ isReading popped =>
    have sameHeld := (held_next (wellFormed.popping isReading) popped).1
    refine exact.of_same ?_ ?_
    · obtain ⟨_, -, rfl⟩ := pop_eq_element popped
      rfl
    · simp only [countedBytes, isReading, Reading.counted, sameHeld]
  | popEof _ isReading | expire _ _ _ isReading =>
    have sameHeld := held_dropElement (wellFormed.popping isReading)
    exact exact.of_same rfl (by simp only [countedBytes, isReading, Reading.counted, sameHeld])
  | copyFinished _ _ isReading isElement ended =>
    have held := wellFormed.held_copied isReading isElement
    rw [if_pos ended] at held
    refine exact.of_same rfl ?_
    simp only [countedBytes, isReading, Reading.counted, held.1]
    omega
  | copyNext call _ isReading isElement inside _ _ isNext =>
    have held := wellFormed.held_copied isReading isElement
    rw [if_neg inside] at held
    have copied : ({ receiver with window := (receiver.window.copy call.room).2 } :
        StreamReceiver).Exact :=
      exact.of_same rfl (by simp only [countedBytes, held])
    exact copied.next isNext (by rw [isReading]; rfl)
  | fail _ _ isReading => exact exact.closeWindow (by rw [isReading]; rfl)
  | release _ l isReading =>
    rw [Exact, countedBytes, isReading] at exact
    rw [releaseBytes_eq, Exact, countedBytes]
    show receiver.window.buffered - l.toUInt32 =
      ofNat (receiver.window.held + receiver.incoming.counted + 0)
    rw [exact, toUInt32_eq_ofNat]
    simp only [Reading.counted, ofNat_add]
    grind
  | statusSize sample _ _ isReading =>
    obtain ⟨_, _, sized⟩ := calcSize_eq cfg sample receiver.window
    rw [sized]
    refine exact.of_same rfl ?_
    rw [countedBytes, countedBytes, isReading]
    rfl
  | statusCommit _ _ _ _ isReading =>
    refine exact.of_same rfl ?_
    rw [countedBytes, countedBytes, isReading]
    rfl
  | statusNotify _ _ _ isReading _ _ _ isNext => exact exact.next isNext (by rw [isReading]; rfl)
  | close => exact exact.closeWindow rfl

end

end Steps

end DeepNps.Mux.StreamReceiver
