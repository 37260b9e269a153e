import DeepNps.MuxReceiverCounter

/-!
# Every byte read is reported in the end

Bytes that were read are reported at once or kept in the window word.  The last
`sendStatus` of an emptied window reports them, provided the session counter has the same
value at both of its loads.
-/

namespace DeepNps.Mux

/-- A `Read` that has finished a segment and has not accounted for it yet. -/
def Reading.accounting : Reading → Bool
  | .finished _ _ => true
  | .released _ _ => true
  | .sized _ _ => true
  | .loaded _ _ _ => true
  | .bounded _ _ _ _ _ => true
  | .limited _ _ _ _ _ => true
  | .measured _ _ _ _ _ => true
  | _ => false

/-- What a `Read` has computed of a window that is empty. -/
def Reading.SeesEmpty (cfg : MuxConfig) : Reading → Prop
  | .bounded _ _ word maxSize queued =>
      maxSize = effectiveMaxSize cfg queued 0 (unpack word).maxSize
  | .limited _ _ _ maxSize limit => limit = maxSize
  | .measured _ _ _ maxSize remain => remain = maxSize
  | _ => True

open ReceiveWindow

namespace StreamReceiver

/-- The bytes that are counted and not finished. -/
def present (receiver : StreamReceiver) : Nat := receiver.window.held + receiver.incoming.counted

/-- The bytes that a `Read` will still have to finish. -/
def unfinished (receiver : StreamReceiver) : Nat := receiver.window.held + receiver.incoming.length

/-- Both loads of the session counter in `sendStatus` find the same value. -/
def Steady (receiver : StreamReceiver) : ReceiverEvent → Prop
  | .statusLimit queued => ∀ call l word maxSize bound,
      receiver.reading = .bounded call l word maxSize bound → queued = bound
  | _ => True

/-- Bytes read and not reported will be reported when some other segment is finished, or by the
`Read` that is accounting now. -/
structure Answering (cfg : MuxConfig) (receiver : StreamReceiver) : Prop where
  seesEmpty : receiver.window.closeOp = true ∨ 0 < receiver.present ∨ receiver.reading.SeesEmpty cfg
  answered : receiver.window.closeOp = true ∨ wordDone receiver.window.maxSizeDone = 0 ∨
    0 < receiver.unfinished ∨ receiver.reading.accounting = true

theorem new_answering (cfg : MuxConfig) : new.Answering cfg where
  seesEmpty := .inr (.inr trivial)
  answered := .inr (.inl rfl)

section Steps

variable {cfg : MuxConfig} {receiver after : StreamReceiver} {output : ReceiverOutput}

theorem Answering.mono (answering : receiver.Answering cfg)
    (closed : receiver.window.closeOp = true → after.window.closeOp = true)
    (present : receiver.present ≤ after.present)
    (seesEmpty : receiver.reading.SeesEmpty cfg → after.reading.SeesEmpty cfg)
    (done : wordDone after.window.maxSizeDone ≤ wordDone receiver.window.maxSizeDone)
    (unfinished : receiver.unfinished ≤ after.unfinished)
    (accounting : receiver.reading.accounting = true → after.reading.accounting = true) :
    after.Answering cfg where
  seesEmpty := by
    rcases answering.seesEmpty with isClosed | some | isEmpty
    · exact .inl (closed isClosed)
    · exact .inr (.inl (by omega))
    · exact .inr (.inr (seesEmpty isEmpty))
  answered := by
    rcases answering.answered with isClosed | none | some | status
    · exact .inl (closed isClosed)
    · exact .inr (.inl (by omega))
    · exact .inr (.inr (.inl (by omega)))
    · exact .inr (.inr (.inr (accounting status)))

theorem Answering.moveIncoming (answering : receiver.Answering cfg) {incoming : Incoming}
    {word : UInt64} {count : Int8} {buffered : UInt32}
    (counted : receiver.incoming.counted ≤ incoming.counted)
    (length : receiver.incoming.length ≤ incoming.length)
    (done : wordDone word ≤ wordDone receiver.window.maxSizeDone) :
    ({ receiver with
        window := { receiver.window with maxSizeDone := word, count := count, buffered := buffered }
        incoming := incoming } : StreamReceiver).Answering cfg :=
  answering.mono id (Nat.add_le_add_left counted _) id done (Nat.add_le_add_left length _) id

theorem Answering.moveReading (answering : receiver.Answering cfg) {reading : Reading}
    {returned : List UInt8} (seesEmpty : reading.SeesEmpty cfg)
    (accounting : receiver.reading.accounting = true → reading.accounting = true) :
    ({ receiver with reading := reading, returned := returned } : StreamReceiver).Answering cfg :=
  answering.mono id (le_refl _) (fun _ => seesEmpty) (le_refl _) (le_refl _) accounting

theorem Answering.seen (answering : receiver.Answering cfg) (nothing : receiver.present = 0) :
    receiver.window.closeOp = true ∨ receiver.reading.SeesEmpty cfg := by
  rcases answering.seesEmpty with isClosed | some | isEmpty
  · exact .inl isClosed
  · omega
  · exact .inr isEmpty

theorem answering_of_accounting (status : receiver.reading.accounting = true)
    (seen : receiver.present = 0 →
      receiver.window.closeOp = true ∨ receiver.reading.SeesEmpty cfg) :
    receiver.Answering cfg := by
  refine ⟨?_, .inr (.inr (.inr status))⟩
  rcases Nat.eq_zero_or_pos receiver.present with nothing | some
  · exact (seen nothing).imp_right .inr
  · exact .inr (.inl some)

theorem answering_of_closed (isClosed : receiver.window.closeOp = true) : receiver.Answering cfg :=
  ⟨.inl isClosed, .inl isClosed⟩

theorem Answering.next (answering : receiver.Answering cfg) {element : ListElement}
    {call : ReadCall} (isNext : receiver.next element call = (after, output))
    (notAccounting : receiver.reading.accounting = false) : after.Answering cfg := by
  rw [StreamReceiver.next] at isNext
  split_ifs at isNext
  · cases isNext
    exact answering.moveReading trivial (by simp [notAccounting])
  · cases isNext
    exact answering.moveReading trivial (by simp [notAccounting])

theorem Exact.buffered_eq_zero (exact : receiver.Exact) (nothing : receiver.present = 0)
    (notCounted : receiver.reading.counted = 0) : receiver.window.buffered = 0 := by
  rw [Exact, countedBytes, ← present, nothing, notCounted] at exact
  exact exact

theorem unusedSize_zero (limit : UInt32) : unusedSize limit 0 0 = limit := by
  rw [unusedSize]
  split_ifs with positive
  · simp
  · apply UInt32.toNat_inj.mp
    simp [UInt64.lt_iff_toNat_lt] at positive ⊢
    omega

theorem Answering.statusCommit (answering : receiver.Answering cfg) {call : ReadCall} {l : UInt16}
    {maxSize remain : UInt32}
    (isReading : receiver.reading = .measured call l receiver.window.maxSizeDone maxSize remain)
    {result : UInt64 × Option UInt64}
    (isResult : result = ReceiveWindow.statusWord receiver.window.maxSizeDone maxSize remain l) :
    ({ receiver with
        window := { receiver.window with maxSizeDone := result.1 }
        reading := .committed call result.2 } : StreamReceiver).Answering cfg where
  seesEmpty := .inr (.inr trivial)
  answered := by
    have seesEmpty := answering.seesEmpty
    rw [isReading] at seesEmpty
    rcases seesEmpty with isClosed | some | unused
    · exact .inl isClosed
    · have counted : receiver.incoming.counted ≤ receiver.incoming.length := by
        cases receiver.incoming <;> simp [Incoming.counted, Incoming.length]
      refine .inr (.inr (.inl ?_))
      simp only [present, unfinished] at some ⊢
      exact lt_of_lt_of_le some (Nat.add_le_add_left counted _)
    · have reset : wordDone result.1 = 0 := by
        rw [isResult]
        exact wordDone_statusWord_of_unused unused
      exact .inr (.inl reset)

theorem Answering.steps (normalized : cfg.Normalized) (answering : receiver.Answering cfg)
    (wellFormed : receiver.WellFormed cfg) (exact : receiver.Exact) {event : ReceiverEvent}
    (steady : receiver.Steady event) (steps : Steps cfg receiver event after output) :
    after.Answering cfg := by
  cases steps with
  | arriveRefused | readClosed => exact answering
  | arrive _ _ isIncoming =>
    exact answering.moveIncoming (by rw [isIncoming]; exact Nat.zero_le _)
      (by rw [isIncoming]; exact Nat.zero_le _) (le_refl _)
  | incomingSize sample _ isIncoming =>
    obtain ⟨_, _, sized, done, -⟩ := calcSize_word normalized sample receiver.window wellFormed.size
    rw [sized]
    exact answering.moveIncoming (by rw [isIncoming]; rfl) (by rw [isIncoming]; rfl) (le_of_eq done)
  | incomingLoad _ isIncoming | incomingBound _ _ _ isIncoming
  | incomingLimit _ _ _ _ isIncoming
  | incomingRemain _ _ _ _ isIncoming
  | incomingRetry _ _ _ _ isIncoming | incomingNotify _ isIncoming =>
    exact answering.moveIncoming (by rw [isIncoming]; rfl) (by rw [isIncoming]; rfl) (le_refl _)
  | incomingCommit _ _ _ isIncoming result isResult =>
    have total := (wellFormed.incomingAccounts normalized isIncoming).2.total_eq
    rw [← isResult] at total
    exact answering.moveIncoming (by rw [isIncoming]; rfl) (by rw [isIncoming]; rfl) (by omega)
  | incomingReserve _ _ isIncoming =>
    rw [reserveBytes_eq]
    exact answering.moveIncoming (by rw [isIncoming]; exact Nat.zero_le _)
      (by rw [isIncoming]; rfl) (le_refl _)
  | incomingPush _ _ isIncoming =>
    refine answering.mono id ?_ id (le_refl _) ?_ id
    · simp only [present, isIncoming, Incoming.counted, held_push]
      omega
    · simp only [unfinished, isIncoming, Incoming.length, held_push]
      omega
  | read _ _ isReading | loopPop _ _ isReading
  | loopCopy _ _ isReading =>
    exact answering.moveReading trivial (by simp [isReading, Reading.accounting])
  | loopClosed _ _ isClosed => exact answering_of_closed isClosed
  | popElement _ _ window isReading popped =>
    have sameHeld := (held_next (wellFormed.popping isReading) popped).1
    obtain ⟨sameWord, sameClosed⟩ : window.maxSizeDone = receiver.window.maxSizeDone ∧
        window.closeOp = receiver.window.closeOp := by
      obtain ⟨_, -, rfl⟩ := pop_eq_element popped
      exact ⟨rfl, rfl⟩
    refine answering.mono (by rw [sameClosed]; exact id) ?_ (fun _ => trivial) ?_ ?_
      (by simp [isReading, Reading.accounting])
    · simp only [present, sameHeld, le_refl]
    · rw [sameWord]
    · simp only [unfinished, sameHeld, le_refl]
  | popEof _ isReading | expire _ _ _ isReading =>
    have sameHeld := held_dropElement (wellFormed.popping isReading)
    refine answering.mono id ?_ (fun _ => trivial) (le_refl _) ?_
      (by simp [isReading, Reading.accounting])
    · simp only [present, sameHeld, le_refl]
    · simp only [unfinished, sameHeld, le_refl]
  | copyFinished => exact ⟨.inr (.inr trivial), .inr (.inr (.inr rfl))⟩
  | copyNext call _ isReading isElement inside _ _ isNext =>
    have held := wellFormed.held_copied isReading isElement
    rw [if_neg inside] at held
    have copied : ({ receiver with window := (receiver.window.copy call.room).2 } :
        StreamReceiver).Answering cfg := by
      refine answering.mono id ?_ id (le_refl _) ?_ id
      · simp only [present, held, le_refl]
      · simp only [unfinished, held, le_refl]
    exact copied.next isNext (by rw [isReading]; rfl)
  | fail | close => exact answering_of_closed (by rw [closeWindow_eq])
  | release =>
    rw [releaseBytes_eq]
    exact answering.mono id (le_refl _) (fun _ => trivial) (le_refl _) (le_refl _) fun _ => rfl
  | statusSize sample =>
    obtain ⟨_, _, sized, done, -⟩ := calcSize_word normalized sample receiver.window wellFormed.size
    rw [sized]
    exact answering.mono id (le_refl _) (fun _ => trivial) (le_of_eq done) (le_refl _) fun _ => rfl
  | statusLoad => exact answering.moveReading trivial fun _ => rfl
  | statusBound _ _ _ _ isReading =>
    refine answering_of_accounting rfl fun nothing => ?_
    rw [exact.buffered_eq_zero nothing (by rw [isReading]; rfl)]
    exact .inr rfl
  | statusLimit queued call l word maxSize bound isReading =>
    have same : queued = bound := steady call l word maxSize bound isReading
    refine answering_of_accounting rfl fun nothing => ?_
    have seen := answering.seen nothing
    rw [isReading] at seen
    rw [exact.buffered_eq_zero nothing (by rw [isReading]; rfl), same]
    refine seen.imp_right fun isBound => ?_
    show effectiveMaxSize cfg bound 0 maxSize = maxSize
    rw [isBound]
    -- a size that was clamped once is not clamped further
    have low := normalized.conn_ge
    have session := (sessionReceiveWindowForConn_bounds normalized bound 0).2 rfl
    apply UInt32.toNat_inj.mp
    rw [effectiveMaxSize_toNat normalized, effectiveMaxSize_toNat normalized]
    omega
  | statusRemain _ _ _ _ _ isReading =>
    refine answering_of_accounting rfl fun nothing => ?_
    have seen := answering.seen nothing
    rw [isReading] at seen
    rw [exact.buffered_eq_zero nothing (by rw [isReading]; rfl), unusedSize_zero]
    exact seen
  | statusCommit _ _ _ _ isReading _ isResult => exact answering.statusCommit isReading isResult
  | statusRetry => exact answering.moveReading trivial fun _ => rfl
  | statusNotify _ _ _ isReading _ _ _ isNext =>
    exact answering.next isNext (by rw [isReading]; rfl)
  | setDeadline | setPriority | stop => exact ⟨answering.seesEmpty, answering.answered⟩

end Steps

end StreamReceiver

end DeepNps.Mux
