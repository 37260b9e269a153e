import DeepNps.MuxStreamSender

/-!
# Credit at the sending end

The outstanding count never exceeds the largest size that may be advertised: a segment
fits an advertised size, and until it is counted updates only lower the count.
-/

namespace DeepNps.Mux.StreamSender

open SendWindow UInt32

def cutLength (sender : StreamSender) : Nat :=
  match sender.writing with
  | .cut bytes _ _ => bytes.length
  | _ => 0

/-- What the writer has at hand at each point of a `Write`. -/
def WritingOk (cfg : MuxConfig) (window : SendWindow) : Writing → Prop
  | .waiting => window.off < UInt32.ofNat window.buf.length
  | .chosen bytes sendSize _ =>
      bytes.length = sendSize.toNat ∧ 0 < bytes.length ∧ bytes.length ≤ maximumSegmentSize ∧
        window.outstanding + bytes.length ≤ cfg.maxConnReceiveWindow.toNat
  | .cut bytes sendSize _ =>
      bytes.length = sendSize.toNat ∧ 0 < bytes.length ∧ bytes.length ≤ maximumSegmentSize
  | _ => True

/-- The size was advertised or is the initial one, and no more is outstanding than any advertised
size. -/
structure WellFormed (cfg : MuxConfig) (sender : StreamSender) : Prop where
  size : Advertisable cfg sender.window.maxSize
  outstanding_le : sender.window.outstanding ≤ cfg.maxConnReceiveWindow.toNat
  writing : WritingOk cfg sender.window sender.writing

theorem new_wellFormed {cfg : MuxConfig} (normalized : cfg.Normalized) : new.WellFormed cfg where
  size := by
    have low := normalized.conn_ge
    have initial : new.window.maxSize = 122550 := new_maxSize
    rw [initial]
    exact ⟨by omega, low⟩
  outstanding_le := by
    have initial : new.window.outstanding = 0 := new_outstanding
    rw [initial]
    exact Nat.zero_le _
  writing := trivial

def reportedBy : SenderEvent → Nat
  | .update word => wordDone word
  | _ => 0

def queuedBy (output : SenderOutput) : Nat :=
  match output.segment with
  | none => 0
  | some (bytes, _) => bytes.length

/-- The outstanding count changes by what is cut, queued, taken back or reported; a closed window
ignores reports. -/
structure Keeps (cfg : MuxConfig) (sender after : StreamSender) (event : SenderEvent)
    (output : SenderOutput) : Prop where
  wellFormed : after.WellFormed cfg
  le : sender.window.outstanding + after.cutLength + queuedBy output ≤
    after.window.outstanding + sender.cutLength + reportedBy event
  eq : sender.window.closeOp = false →
    sender.window.outstanding + after.cutLength + queuedBy output =
      after.window.outstanding + sender.cutLength + reportedBy event
  noViolation : output.violation = none
  short : ∀ bytes part, output.segment = some (bytes, part) →
    0 < bytes.length ∧ bytes.length ≤ maximumSegmentSize
  closed : sender.window.closeOp = true → after.window.closeOp = true

section Steps

variable {cfg : MuxConfig} {sender after : StreamSender} {output : SenderOutput}
  {event : SenderEvent}

theorem Keeps.of_eq (wellFormed : after.WellFormed cfg)
    (balance : sender.window.outstanding + after.cutLength =
      after.window.outstanding + sender.cutLength + reportedBy event) (noOutput : output = {})
    (closed : sender.window.closeOp = true → after.window.closeOp = true) :
    Keeps cfg sender after event output := by
  subst noOutput
  exact ⟨wellFormed, le_of_eq balance, fun _ => balance, rfl, by simp, closed⟩

theorem Keeps.of_same (wellFormed : sender.WellFormed cfg)
    (writing : WritingOk cfg after.window after.writing)
    (sameSize : after.window.maxSize = sender.window.maxSize)
    (sameOutstanding : after.window.outstanding = sender.window.outstanding)
    (noCut : after.cutLength = sender.cutLength) (noReport : reportedBy event = 0)
    (noOutput : output = {}) (closed : sender.window.closeOp = true → after.window.closeOp = true) :
    Keeps cfg sender after event output := by
  refine Keeps.of_eq ⟨by rw [sameSize]; exact wellFormed.size,
    by rw [sameOutstanding]; exact wellFormed.outstanding_le, writing⟩ ?_ noOutput closed
  rw [sameOutstanding, noCut, noReport, Nat.add_zero]

theorem WellFormed.writeToStart (wellFormed : sender.WellFormed cfg)
    (noReport : reportedBy event = 0) (noCut : sender.cutLength = 0)
    (left : sender.window.off < ofNat sender.window.buf.length)
    (moved : sender.afterWriteTo sender.window.writeToStart = some after) :
    Keeps cfg sender after event {} := by
  have writes := sender.window.writeToStart_spec left
  generalize sender.window.writeToStart = written at writes moved
  cases writes with
  | wait window _ size credit rest =>
    cases moved
    refine Keeps.of_same wellFormed ?_ size credit (by rw [noCut]; rfl) noReport rfl
      fun isClosed => by rw [rest]; exact isClosed
    show window.off < ofNat window.buf.length
    rw [rest]
    exact left
  | overflow => cases moved
  | segment window _ _ _ _ length _ _ fits _ rest =>
    cases moved
    have size : window.maxSize = sender.window.maxSize := by rw [rest]; rfl
    have credit : window.outstanding = sender.window.outstanding := by rw [rest]; rfl
    refine Keeps.of_same wellFormed ⟨length, by omega, by omega, ?_⟩ size credit
      (by rw [noCut]; rfl) noReport rfl fun isClosed => by rw [rest]; exact isClosed
    rw [length]
    show window.outstanding + _ ≤ _
    rw [credit]
    exact le_trans fits wellFormed.size.2

theorem rollbackSent_outstanding (window : SendWindow) (sendSize : UInt32)
    (enough : sendSize.toNat ≤ window.outstanding) :
    (window.rollbackSent sendSize).outstanding = window.outstanding - sendSize.toNat ∧
      (window.rollbackSent sendSize).maxSize = window.maxSize := by
  by_cases isZero : sendSize = 0
  · simp [rollbackSent, isZero]
  · have notLess : ¬ (unpack window.maxSizeDone).done < sendSize := by
      rw [lt_iff_toNat_lt, ← outstanding]
      omega
    have difference : ((unpack window.maxSizeDone).done - sendSize).toNat =
        window.outstanding - sendSize.toNat :=
      UInt32.toNat_sub_of_le _ _ (UInt32.not_lt.mp notLess)
    have outstandingLt := window.outstanding_lt
    simp only [rollbackSent, if_neg isZero, if_neg notLess]
    refine ⟨?_, window.pack_maxSize_toNat _ _⟩
    show wordDone (pack _ _ _) = _
    rw [wordDone_pack _ (by omega), difference]

theorem rollbackSent_closeOp (window : SendWindow) (sendSize : UInt32) :
    window.closeOp = (window.rollbackSent sendSize).closeOp := by
  by_cases isZero : sendSize = 0
  · rw [rollbackSent, if_pos isZero]
  · rw [rollbackSent, if_neg isZero]

theorem WellFormed.sent (normalized : cfg.Normalized) (wellFormed : sender.WellFormed cfg)
    {bytes : List UInt8} {sendSize : UInt32} {part : Bool} {window : SendWindow}
    (isWriting : sender.writing = .chosen bytes sendSize part)
    (isSent : sender.window.sent sendSize = some window) :
    Keeps cfg sender { sender with window := window, writing := .cut bytes sendSize part }
      .sent {} := by
  have chosenOk := wellFormed.writing
  rw [isWriting] at chosenOk
  obtain ⟨length, positive, short, _⟩ := chosenOk
  have connLt := normalized.conn_lt
  obtain ⟨word, isWindow, size, _⟩ := sent_spec sender.window sendSize (by omega)
  rw [isWindow] at isSent
  cases isSent
  refine Keeps.of_eq ⟨?_, ?_, ⟨length, positive, short⟩⟩ ?_ rfl id
  · show Advertisable cfg (unpack word).maxSize.toNat
    rw [size]
    exact wellFormed.size
  · show (unpack word).done.toNat ≤ _
    omega
  · show sender.window.outstanding + bytes.length = (unpack word).done.toNat + sender.cutLength + 0
    have noCut : sender.cutLength = 0 := by simp [cutLength, isWriting]
    omega

theorem WellFormed.refuse (wellFormed : sender.WellFormed cfg) {bytes : List UInt8}
    {sendSize : UInt32} {part : Bool} (isWriting : sender.writing = .cut bytes sendSize part)
    (enough : sender.cutLength ≤ sender.window.outstanding) :
    Keeps cfg sender
      { sender with window := sender.window.rollbackSent sendSize, writing := .idle }
      .refuse {} := by
  have cutOk := wellFormed.writing
  rw [isWriting] at cutOk
  have cutIs : sender.cutLength = sendSize.toNat := by
    simp only [cutLength, isWriting]
    exact cutOk.1
  rw [cutIs] at enough
  obtain ⟨outstanding, size⟩ := rollbackSent_outstanding sender.window sendSize enough
  refine Keeps.of_eq ⟨?_, ?_, trivial⟩ ?_ rfl (rollbackSent_closeOp _ _).symm.trans
  · show Advertisable cfg (sender.window.rollbackSent sendSize).maxSize
    rw [size]
    exact wellFormed.size
  · show (sender.window.rollbackSent sendSize).outstanding ≤ _
    rw [outstanding]
    exact le_trans (Nat.sub_le _ _) wellFormed.outstanding_le
  · show sender.window.outstanding + 0 =
      (sender.window.rollbackSent sendSize).outstanding + sender.cutLength + 0
    rw [outstanding, cutIs]
    omega

theorem WellFormed.update (wellFormed : sender.WellFormed cfg) {word : UInt64}
    {window : SendWindow} (updateOk : Advertisable cfg (wordSize word))
    (enough : wordDone word ≤ sender.window.outstanding)
    (size : window.maxSize = wordSize word)
    (credit : window.outstanding = sender.window.outstanding - wordDone word)
    (rest : window = { sender.window with maxSizeDone := window.maxSizeDone }) :
    Keeps cfg sender { sender with window := window } (.update word) {} := by
  have writing := wellFormed.writing
  refine Keeps.of_eq ⟨?_, ?_, ?_⟩ ?_ rfl fun isClosed => by rw [rest]; exact isClosed
  · show Advertisable cfg window.maxSize
    rw [size]
    exact updateOk
  · show window.outstanding ≤ _
    rw [credit]
    exact le_trans (Nat.sub_le _ _) wellFormed.outstanding_le
  · show WritingOk cfg window sender.writing
    cases isWriting : sender.writing with
    | waiting =>
      rw [isWriting] at writing
      rw [rest]
      exact writing
    | chosen =>
      rw [isWriting] at writing
      refine ⟨writing.1, writing.2.1, writing.2.2.1, ?_⟩
      rw [credit]
      have fits := writing.2.2.2
      omega
    | cut =>
      rw [isWriting] at writing
      exact writing
    | _ => trivial
  · show sender.window.outstanding + sender.cutLength =
      window.outstanding + sender.cutLength + wordDone word
    rw [credit]
    omega

theorem WellFormed.steps (normalized : cfg.Normalized) (wellFormed : sender.WellFormed cfg)
    (enough : reportedBy event + sender.cutLength ≤ sender.window.outstanding)
    (updateOk : ∀ word, event = .update word → Advertisable cfg (wordSize word))
    (steps : Steps sender event after output) : Keeps cfg sender after event output := by
  cases steps with
  | write _ _ isWriting | finish isWriting | giveUp isWriting =>
    exact Keeps.of_same wellFormed trivial rfl rfl (by simp [cutLength, isWriting]) rfl rfl id
  | start _ isWriting left moved =>
    exact wellFormed.writeToStart rfl (by simp [cutLength, isWriting]) left moved
  | resume _ isWriting moved =>
    have left := wellFormed.writing
    rw [isWriting] at left
    exact wellFormed.writeToStart rfl (by simp [cutLength, isWriting]) left moved
  | spin => exact Keeps.of_same wellFormed wellFormed.writing rfl rfl rfl rfl rfl id
  | sent _ _ _ _ isWriting isSent => exact wellFormed.sent normalized isWriting isSent
  | queue _ _ _ isWriting =>
    have cutOk := wellFormed.writing
    rw [isWriting] at cutOk
    refine ⟨{ wellFormed with writing := trivial }, ?_, ?_, rfl, ?_, id⟩
    · simp only [cutLength, queuedBy, reportedBy, isWriting]
      omega
    · intro _
      simp only [cutLength, queuedBy, reportedBy, isWriting]
      omega
    · intro _ _ isQueued
      cases isQueued
      exact cutOk.2
  | refuse _ _ _ isWriting => exact wellFormed.refuse isWriting (by omega)
  | updateClosed _ isClosed =>
    refine ⟨wellFormed, Nat.le_add_right _ _, ?_, rfl, by simp, id⟩
    intro isOpen
    rw [isClosed] at isOpen
    cases isOpen
  | violation =>
    simp only [reportedBy] at enough
    omega
  | update word _ _ less size credit rest =>
    exact wellFormed.update (updateOk word rfl) less size credit rest
  | setPriority => exact Keeps.of_same wellFormed wellFormed.writing rfl rfl rfl rfl rfl id
  | close => exact Keeps.of_same wellFormed wellFormed.writing rfl rfl rfl rfl rfl fun _ => rfl

theorem WellFormed.step (normalized : cfg.Normalized) (wellFormed : sender.WellFormed cfg)
    (enough : reportedBy event + sender.cutLength ≤ sender.window.outstanding)
    (updateOk : ∀ word, event = .update word → Advertisable cfg (wordSize word))
    (stepEq : sender.step event = some (after, output)) : Keeps cfg sender after event output :=
  wellFormed.steps normalized enough updateOk (steps_of_step stepEq)

end Steps

end DeepNps.Mux.StreamSender
