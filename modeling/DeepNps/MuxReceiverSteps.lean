import DeepNps.MuxReceiverFlow

/-!
# The steps of the receiving end

Every event of the receiving end keeps its invariant and moves credit without losing any,
unless the window is closed afterwards.
-/

namespace DeepNps.Mux.StreamReceiver

open ReceiveWindow

section Steps

variable {cfg : MuxConfig} (normalized : cfg.Normalized)
variable {receiver after : StreamReceiver} {output : ReceiverOutput}

include normalized

theorem calcSize_word (sample : SizeSample) (window : ReceiveWindow)
    (size : Advertisable cfg (wordSize window.maxSizeDone)) :
    ∃ word count, window.calcSize cfg sample =
        { window with maxSizeDone := word, count := count } ∧
      wordDone word = wordDone window.maxSizeDone ∧ Advertisable cfg (wordSize word) := by
  rw [calcSize]
  split_ifs
  · have bounds : Advertisable cfg (calculatedSize cfg sample
        window.maxSizeDone).toNat :=
      effectiveMaxSize_bounds normalized _ _ _
    have sizeLt := lt_of_le_of_lt bounds.2 normalized.conn_lt
    refine ⟨_, _, rfl, wordDone_pack _ (unpack_done_lt _) _, ?_⟩
    rw [wordSize_pack sizeLt]
    exact bounds
  · exact ⟨_, _, rfl, rfl, size⟩

section

variable (wellFormed : receiver.WellFormed cfg)

include wellFormed

theorem WellFormed.incomingAccounts {element : ListElement} {word : UInt64}
    {maxSize remain : UInt32}
    (isIncoming : receiver.incoming = .measured element word maxSize remain) :
    Advertisable cfg maxSize.toNat ∧ Accounts (wordDone receiver.window.maxSizeDone) maxSize.toNat
      (writeWord receiver.window.maxSizeDone maxSize remain) := by
  have sizeOk := wellFormed.incomingSize
  rw [isIncoming] at sizeOk
  exact ⟨sizeOk, writeWord_accounts (lt_of_le_of_lt sizeOk.2 normalized.conn_lt)⟩

theorem WellFormed.incomingCommit {element : ListElement} {maxSize remain : UInt32}
    (isIncoming : receiver.incoming = .measured element receiver.window.maxSizeDone maxSize remain)
    {result : UInt64 × Option UInt64}
    (isResult : result = ReceiveWindow.writeWord receiver.window.maxSizeDone maxSize remain) :
    Keeps cfg receiver
      { receiver with
        window := { receiver.window with maxSizeDone := result.1 }
        incoming := .committed element result.2 } 0 none := by
  obtain ⟨sizeOk, accounts⟩ := wellFormed.incomingAccounts normalized isIncoming
  rw [← isResult] at accounts
  refine wellFormed.change (by rw [accounts.size_eq]; exact sizeOk) wellFormed.reading trivial
    wellFormed.readingSize ?_ wellFormed.readingUpdate (updateOk_none cfg) ?_
  · intro update isUpdate
    rw [accounts.update_size update isUpdate]
    exact sizeOk
  · have total := accounts.total_eq
    simp only [unreported, reporting, isIncoming, Incoming.length, Incoming.update, reported_none]
    omega

theorem WellFormed.statusCommit (small : receiver.credit < 2 ^ 31) {call : ReadCall} {l : UInt16}
    {maxSize remain : UInt32}
    (isReading : receiver.reading = .measured call l receiver.window.maxSizeDone maxSize remain)
    {result : UInt64 × Option UInt64}
    (isResult : result = ReceiveWindow.statusWord receiver.window.maxSizeDone maxSize remain l) :
    Keeps cfg receiver
      { receiver with
        window := { receiver.window with maxSizeDone := result.1 }
        reading := .committed call result.2 } 0 none := by
  have readingOk := wellFormed.reading
  have sizeOk := wellFormed.readingSize
  rw [isReading] at readingOk sizeOk
  have accounts : Accounts (wordDone receiver.window.maxSizeDone + l.toNat) maxSize.toNat
      result := by
    rw [isResult]
    refine statusWord_accounts (lt_of_le_of_lt sizeOk.2 normalized.conn_lt) ?_
    simp only [credit, unreported, isReading, Reading.length] at small
    omega
  refine wellFormed.change (by rw [accounts.size_eq]; exact sizeOk) readingOk
    wellFormed.incomingSize trivial wellFormed.incomingUpdate ?_ (updateOk_none cfg) ?_
  · intro update isUpdate
    rw [accounts.update_size update isUpdate]
    exact sizeOk
  · have total := accounts.total_eq
    simp only [unreported, reporting, isReading, Reading.length, Reading.update, reported_none]
    omega

theorem WellFormed.steps (small : receiver.credit < 2 ^ 31) {event : ReceiverEvent}
    (short : arrived event < 2 ^ 16) (steps : Steps cfg receiver event after output) :
    Keeps cfg receiver after (arrived event) output.update := by
  have none := updateOk_none cfg
  have readingOk := wellFormed.reading
  have incomingSize := wellFormed.incomingSize
  have readingSize := wellFormed.readingSize
  have incomingUpdate := wellFormed.incomingUpdate
  have readingUpdate := wellFormed.readingUpdate
  cases steps with
  | arriveRefused _ _ _ isClosed =>
    refine ⟨wellFormed, ⟨Nat.le_add_right _ _, ?_⟩, none, id⟩
    intro isOpen
    rw [isClosed] at isOpen
    cases isOpen
  | arrive bytes _ isIncoming =>
    refine wellFormed.moveIncoming trivial none none ?_
    have length : (UInt16.ofNat bytes.length).toNat = bytes.length :=
      UInt16.toNat_ofNat_of_lt' short
    simp only [isIncoming, Incoming.length, Incoming.update, length, arrived, reported_none]
    omega
  | incomingSize sample _ isIncoming =>
    obtain ⟨_, _, sized, done, size⟩ :=
      calcSize_word normalized sample receiver.window wellFormed.size
    rw [sized]
    refine wellFormed.change size readingOk trivial wellFormed.readingSize none readingUpdate
      none ?_
    simp only [unreported, reporting, isIncoming, Incoming.length, Incoming.update, done]
    rfl
  | incomingLoad _ isIncoming | incomingRetry _ _ _ _ isIncoming =>
    refine wellFormed.moveIncoming trivial none none ?_
    rw [isIncoming]
    rfl
  | incomingBound _ _ _ isIncoming =>
    refine wellFormed.moveIncoming (effectiveMaxSize_bounds normalized _ _ _) none none ?_
    rw [isIncoming]
    rfl
  | incomingLimit _ _ _ _ isIncoming
  | incomingRemain _ _ _ _ isIncoming =>
    rw [isIncoming] at incomingSize
    refine wellFormed.moveIncoming incomingSize none none ?_
    rw [isIncoming]
    rfl
  | incomingCommit _ _ _ isIncoming _ isResult =>
    exact wellFormed.incomingCommit normalized isIncoming isResult
  | incomingReserve _ _ isIncoming =>
    rw [isIncoming] at incomingUpdate
    rw [reserveBytes_eq]
    refine wellFormed.change wellFormed.size readingOk trivial wellFormed.readingSize
      incomingUpdate readingUpdate none ?_
    simp only [unreported, reporting, isIncoming]
    rfl
  | incomingPush element update isIncoming =>
    rw [isIncoming] at incomingUpdate
    refine Keeps.of_eq
      { wellFormed with incomingSize := trivial, incomingUpdate := incomingUpdate } ?_ none id
    have sameWord : (receiver.window.push element).maxSizeDone = receiver.window.maxSizeDone := rfl
    simp only [credit, unreported, reporting, isIncoming, Incoming.length, Incoming.update,
      held_push, sameWord, arrived, reported_none]
    omega
  | incomingNotify update isIncoming =>
    rw [isIncoming] at incomingUpdate
    refine wellFormed.moveIncoming trivial none incomingUpdate ?_
    simp only [isIncoming, Incoming.length, Incoming.update, reported_none, arrived]
    omega
  | readClosed => exact Keeps.of_eq wellFormed rfl none id
  | read _ _ isReading | loopClosed _ isReading =>
    exact wellFormed.moveReading trivial trivial none none (by rw [isReading]; rfl)
  | loopPop _ _ isReading isElement ended =>
    exact wellFormed.moveReading (currentLength_of_atEnd isElement ended) trivial
      none none (by rw [isReading]; rfl)
  | loopCopy _ element isReading isElement inside =>
    refine wellFormed.moveReading ?_ trivial none none (by rw [isReading]; rfl)
    intro _ isOther
    rw [isElement] at isOther
    cases isOther
    exact currentLength_of_inside isElement (wellFormed.off_le element isElement) inside
  | popElement _ _ _ isReading popped => exact wellFormed.popElement isReading popped
  | popEof _ isReading => exact wellFormed.popNothing isReading .eof
  | expire _ _ _ isReading => exact wellFormed.popNothing isReading .timeout
  | copyFinished _ _ isReading isElement ended =>
    exact wellFormed.copyFinished isReading isElement ended _
  | copyNext _ _ isReading isElement inside _ _ isNext =>
    have copied := wellFormed.copyInside isReading isElement inside
    have noUpdate : receiver.reading.update = Option.none := by rw [isReading]; rfl
    obtain ⟨moved, silent⟩ := copied.wellFormed.next isNext (by rw [isReading]; rfl)
      (by rw [noUpdate]; exact none)
    rw [silent, ← noUpdate]
    exact copied.trans moved
  | fail _ _ isReading => exact wellFormed.closeWindow .idle trivial none _ (by rw [isReading]; rfl)
  | release _ _ isReading =>
    rw [isReading] at readingOk
    rw [releaseBytes_eq]
    refine wellFormed.change wellFormed.size readingOk wellFormed.incomingSize trivial
      incomingUpdate none none ?_
    simp only [unreported, reporting, isReading]
    rfl
  | statusSize sample _ _ isReading =>
    rw [isReading] at readingOk
    obtain ⟨_, _, sized, done, size⟩ :=
      calcSize_word normalized sample receiver.window wellFormed.size
    rw [sized]
    refine wellFormed.change size readingOk wellFormed.incomingSize trivial incomingUpdate none
      none ?_
    simp only [unreported, reporting, isReading, Reading.length, Reading.update, done]
    rfl
  | statusLoad _ _ isReading | statusRetry _ _ _ _ _ isReading =>
    rw [isReading] at readingOk
    exact wellFormed.moveReading readingOk trivial none none (by rw [isReading]; rfl)
  | statusBound _ _ _ _ isReading =>
    rw [isReading] at readingOk
    exact wellFormed.moveReading readingOk (effectiveMaxSize_bounds normalized _ _ _) none
      none (by rw [isReading]; rfl)
  | statusLimit _ _ _ _ _ _ isReading
  | statusRemain _ _ _ _ _ isReading =>
    rw [isReading] at readingOk readingSize
    exact wellFormed.moveReading readingOk readingSize none none (by rw [isReading]; rfl)
  | statusCommit _ _ _ _ isReading _ isResult =>
    exact wellFormed.statusCommit normalized small isReading isResult
  | statusNotify _ _ _ isReading _ _ _ isNext =>
    have next := (wellFormed.next isNext (by rw [isReading]; rfl) readingUpdate).1
    rw [isReading] at next
    exact next
  | setDeadline | setPriority | stop => exact Keeps.of_eq { wellFormed with } rfl none id
  | close => exact wellFormed.closeWindow _ wellFormed.readingSize readingUpdate _ rfl

theorem WellFormed.step (small : receiver.credit < 2 ^ 31) {event : ReceiverEvent}
    (short : arrived event < 2 ^ 16) (stepEq : receiver.step cfg event = some (after, output)) :
    Keeps cfg receiver after (arrived event) output.update :=
  wellFormed.steps normalized small short (steps_of_step stepEq)

end

end Steps

end DeepNps.Mux.StreamReceiver
