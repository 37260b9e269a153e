import DeepNps.MuxReceiveBudget

/-!
# The send window of a stream

A send window cuts the buffer of a `Write` into segments that fit the advertised window.
Loops around a compare-and-swap are one atomic step here.
-/

namespace DeepNps.Mux

open UInt32

/-- `buf` and `off` are the buffer of the current `Write` and the position reached in it. -/
structure SendWindow where
  maxSizeDone : UInt64
  off : UInt32
  closeOp : Bool
  buf : List UInt8
  priority : Bool

/-- The outcome of `SetSize`.  A violation closes the whole mux. -/
inductive SetSizeResult where
  | closed
  | violation (reason : String)
  | unchanged
  | updated (wake : Bool)
  deriving DecidableEq, Repr

/-- `overflow` is the crash of a buffer so long that the end of the slice wraps. -/
inductive WriteToResult where
  | closed
  | eof
  | wait
  | overflow
  | segment (bytes : List UInt8) (sendSize : UInt32) (part : Bool)
  deriving DecidableEq, Repr

namespace SendWindow

def new : SendWindow where
  maxSizeDone := pack defaultInitialConnWindow 0 false
  off := 0
  closeOp := false
  buf := []
  priority := false

def setSendBuf (window : SendWindow) (buf : List UInt8) : SendWindow :=
  { window with buf := buf, off := 0 }

/-- The difference is taken in 64 bits, so it may be negative. -/
def remainingSize (maxSize send : UInt32) : UInt32 :=
  let difference : Int := ((maxSize &&& mask31).toNat : Int) - ((send &&& mask31).toNat : Int)
  if difference > 0 then UInt32.ofNat difference.toNat else 0

def setSize (window : SendWindow) (currentMaxSizeDone : UInt64) : SendWindow × SetSizeResult :=
  if window.closeOp then (window, .closed)
  else
    let update := unpack currentMaxSizeDone
    let current := unpack window.maxSizeDone
    let currentMaxSize := update.maxSize
    let read := update.done
    let send := current.done
    if read > send then
      (window, .violation
        s!"invalid send window update max={currentMaxSize} read={read} outstanding={send}")
    else if read = 0 ∧ currentMaxSize = current.maxSize then (window, .unchanged)
    else
      let outstanding := (send - read) &&& mask31
      let remain := remainingSize currentMaxSize outstanding
      let nextWait := remain == 0 && current.wait
      ({ window with maxSizeDone := pack currentMaxSize outstanding nextWait },
        .updated (current.wait && !nextWait))

/-- Add to the outstanding count; on overflow the code spins. -/
def sent (window : SendWindow) (sentSize : UInt32) : Option SendWindow :=
  let current := unpack window.maxSizeDone
  if (current.done + sentSize) &&& mask31 < current.done then none
  else some
    { window with maxSizeDone := pack current.maxSize (current.done + sentSize) current.wait }

/-- Take back a segment that the mux queue refused. -/
def rollbackSent (window : SendWindow) (sentSize : UInt32) : SendWindow :=
  if sentSize = 0 then window
  else
    let current := unpack window.maxSizeDone
    let taken := if current.done < sentSize then current.done else sentSize
    { window with
      off := if window.off ≥ sentSize then window.off - sentSize else 0
      maxSizeDone := pack current.maxSize (current.done - taken) current.wait }

/-- The size of the next segment: bounded by the frame, by the rest of the
buffer and by the remaining window. -/
def segmentSize (left : Nat) (remain : UInt32) : UInt32 :=
  let sendSize :=
    if left > maximumSegmentSize then UInt32.ofNat maximumSegmentSize else UInt32.ofNat left
  if remain < sendSize then remain else sendSize

/-- The part of `WriteTo` behind the label `start`, where a woken writer comes back, up to `sent`.
The segment is sized by the word that was loaded; `sent` adds to the word it finds. -/
def writeToStart (window : SendWindow) : SendWindow × WriteToResult :=
  let current := unpack window.maxSizeDone
  let remain := remainingSize current.maxSize current.done
  if remain = 0 then
    ({ window with maxSizeDone := pack current.maxSize current.done true }, .wait)
  else if window.off > UInt32.ofNat window.buf.length then (window, .eof)
  else
    let left := window.buf.length - window.off.toNat
    let sendSize := segmentSize left remain
    let part : Bool := sendSize < UInt32.ofNat left
    let bytes := (window.buf.drop window.off.toNat).take sendSize.toNat
    if sendSize + window.off < window.off then (window, .overflow)
    else ({ window with off := window.off + sendSize }, .segment bytes sendSize part)

def writeTo (window : SendWindow) : SendWindow × WriteToResult :=
  if window.closeOp then (window, .closed)
  else if window.off ≥ UInt32.ofNat window.buf.length then (window, .eof)
  else window.writeToStart

def closeWindow (window : SendWindow) : SendWindow := { window with closeOp := true }

def maxSize (window : SendWindow) : Nat := (unpack window.maxSizeDone).maxSize.toNat

def outstanding (window : SendWindow) : Nat := (unpack window.maxSizeDone).done.toNat

theorem maxSize_lt (window : SendWindow) : window.maxSize < 2 ^ 31 := unpack_maxSize_lt _

theorem outstanding_lt (window : SendWindow) : window.outstanding < 2 ^ 31 := unpack_done_lt _

@[simp]
theorem new_maxSize : new.maxSize = 122550 := by
  rw [maxSize, new, unpack_pack]
  rfl

@[simp]
theorem new_outstanding : new.outstanding = 0 := by
  rw [outstanding, new, unpack_pack]
  rfl

theorem remainingSize_toNat (maxSize send : UInt32) :
    (remainingSize maxSize send).toNat = maxSize.toNat % 2 ^ 31 - send.toNat % 2 ^ 31 := by
  simp only [remainingSize, and_mask31_toNat]
  split_ifs with positive
  · rw [toNat_ofNat']
    omega
  · simp only [UInt32.toNat_zero]
    omega

/-- The reported bytes leave the outstanding count; only a report of more than that is refused. -/
inductive SetsSize (window : SendWindow) (word : UInt64) : SendWindow × SetSizeResult → Prop
  | violation (reason : String) (more : window.outstanding < (unpack word).done.toNat) :
      SetsSize window word (window, .violation reason)
  | moved (after : SendWindow) (result : SetSizeResult)
      (enough : (unpack word).done.toNat ≤ window.outstanding)
      (taken : ∀ reason, result ≠ .violation reason)
      (size : after.maxSize = (unpack word).maxSize.toNat)
      (credit : after.outstanding = window.outstanding - (unpack word).done.toNat)
      (rest : after = { window with maxSizeDone := after.maxSizeDone }) :
      SetsSize window word (after, result)

theorem setSize_spec (window : SendWindow) (word : UInt64) (isOpen : window.closeOp = false) :
    SetsSize window word (window.setSize word) := by
  have outstandingLt := window.outstanding_lt
  have sizeLt := unpack_maxSize_lt word
  by_cases more : (unpack word).done > (unpack window.maxSizeDone).done
  · simp only [setSize, isOpen, Bool.false_eq_true, if_false, if_pos more]
    exact .violation _ (lt_iff_toNat_lt.mp more)
  have enough : (unpack word).done.toNat ≤ window.outstanding :=
    UInt32.le_iff_toNat_le.mp (UInt32.not_lt.mp more)
  simp only [setSize, isOpen, Bool.false_eq_true, if_false, if_neg more]
  split_ifs with same
  · refine .moved window .unchanged enough (by simp) ?_ ?_ rfl
    · rw [same.2, maxSize]
    · simp [same.1]
  · have difference : ((unpack window.maxSizeDone).done - (unpack word).done).toNat =
        window.outstanding - (unpack word).done.toNat :=
      UInt32.toNat_sub_of_le _ _ (UInt32.not_lt.mp more)
    refine .moved _ _ enough (by simp) ?_ ?_ (by simp [isOpen])
    · rw [maxSize, unpack_pack]
      simp only [and_mask31_toNat]
      omega
    · rw [outstanding, unpack_pack]
      simp only [and_mask31_toNat, difference]
      omega

/-- A segment is cut from the unsent rest of the buffer and fits into the remaining window. -/
inductive WritesTo (window : SendWindow) : SendWindow × WriteToResult → Prop
  | wait (after : SendWindow) (full : window.maxSize ≤ window.outstanding)
      (size : after.maxSize = window.maxSize) (credit : after.outstanding = window.outstanding)
      (rest : after = { window with maxSizeDone := after.maxSizeDone }) :
      WritesTo window (after, .wait)
  | overflow : WritesTo window (window, .overflow)
  | segment (after : SendWindow) (bytes : List UInt8) (sendSize : UInt32) (part : Bool)
      (cut : bytes = (window.buf.drop window.off.toNat).take sendSize.toNat)
      (length : bytes.length = sendSize.toNat) (positive : 0 < sendSize.toNat)
      (short : sendSize.toNat ≤ maximumSegmentSize)
      (fits : window.outstanding + sendSize.toNat ≤ window.maxSize)
      (noWrap : (window.off + sendSize).toNat = window.off.toNat + sendSize.toNat)
      (rest : after = { window with off := window.off + sendSize }) :
      WritesTo window (after, .segment bytes sendSize part)

theorem remaining_toNat (window : SendWindow) :
    (remainingSize (unpack window.maxSizeDone).maxSize (unpack window.maxSizeDone).done).toNat =
      window.maxSize - window.outstanding := by
  have sizeLt := window.maxSize_lt
  have outstandingLt := window.outstanding_lt
  rw [remainingSize_toNat, ← maxSize, ← outstanding, Nat.mod_eq_of_lt sizeLt,
    Nat.mod_eq_of_lt outstandingLt]

theorem writeTo_ne_wait (window : SendWindow) (free : window.outstanding < window.maxSize) :
    window.writeTo.2 ≠ .wait := by
  have remain := window.remaining_toNat
  have notFull : ¬ remainingSize (unpack window.maxSizeDone).maxSize
      (unpack window.maxSizeDone).done = 0 := by
    intro full
    rw [full, UInt32.toNat_zero] at remain
    omega
  simp only [writeTo, writeToStart, if_neg notFull]
  split_ifs <;> simp

theorem pack_maxSize_toNat (window : SendWindow) (done : UInt32) (wait : Bool) :
    (unpack (pack (unpack window.maxSizeDone).maxSize done wait)).maxSize.toNat =
      window.maxSize := by
  rw [unpack_pack]
  simp only [and_mask31_toNat]
  rw [← maxSize, Nat.mod_eq_of_lt window.maxSize_lt]

theorem segmentSize_spec {left : Nat} {remain : UInt32} (leftPositive : 0 < left)
    (remainPositive : 0 < remain.toNat) :
    0 < (segmentSize left remain).toNat ∧ (segmentSize left remain).toNat ≤ left ∧
      (segmentSize left remain).toNat ≤ maximumSegmentSize ∧
      (segmentSize left remain).toNat ≤ remain.toNat := by
  have frame : (ofNat maximumSegmentSize).toNat = maximumSegmentSize := rfl
  have rest : left ≤ maximumSegmentSize → (ofNat left).toNat = left := by
    intro short
    rw [toNat_ofNat', Nat.mod_eq_of_lt (lt_of_le_of_lt short (by decide))]
  have atMost : 0 < maximumSegmentSize := by decide
  simp only [segmentSize, lt_iff_toNat_lt]
  split_ifs <;> omega

theorem sent_spec (window : SendWindow) (sentSize : UInt32)
    (fits : window.outstanding + sentSize.toNat < 2 ^ 31) :
    ∃ word, window.sent sentSize = some { window with maxSizeDone := word } ∧
      (unpack word).maxSize.toNat = window.maxSize ∧
      (unpack word).done.toNat = window.outstanding + sentSize.toNat := by
  have sum : ((unpack window.maxSizeDone).done + sentSize).toNat =
      window.outstanding + sentSize.toNat := by
    rw [UInt32.toNat_add, ← outstanding]
    omega
  refine ⟨_, if_neg ?_, window.pack_maxSize_toNat _ _, ?_⟩
  · rw [lt_iff_toNat_lt, and_mask31_toNat, sum, ← outstanding]
    omega
  · rw [unpack_pack]
    simp only [and_mask31_toNat, sum]
    omega

theorem writeToStart_spec (window : SendWindow)
    (small : window.off < ofNat window.buf.length) :
    WritesTo window window.writeToStart := by
  have left : window.off.toNat < window.buf.length := by
    rw [lt_iff_toNat_lt, toNat_ofNat'] at small
    exact lt_of_lt_of_le small (Nat.mod_le _ _)
  have remain := window.remaining_toNat
  simp only [writeToStart]
  split_ifs with full beyond wraps
  · rw [full, UInt32.toNat_zero] at remain
    refine .wait _ (by omega) (window.pack_maxSize_toNat _ _) ?_ rfl
    rw [outstanding, unpack_pack]
    simp only [and_mask31_toNat]
    rw [← outstanding, Nat.mod_eq_of_lt window.outstanding_lt]
  · exact absurd small (UInt32.lt_asymm beyond)
  · exact .overflow
  · generalize remainingSize _ _ = free at remain full wraps ⊢
    have freePositive : 0 < free.toNat :=
      Nat.pos_of_ne_zero fun isZero => full (UInt32.toNat_inj.mp isZero)
    obtain ⟨positive, leftLe, short, remainLe⟩ :=
      segmentSize_spec (Nat.sub_pos_of_lt left) freePositive
    generalize segmentSize _ _ = sendSize at positive leftLe short remainLe wraps ⊢
    have fits : window.outstanding + sendSize.toNat ≤ window.maxSize := by omega
    have noWrap : (window.off + sendSize).toNat = window.off.toNat + sendSize.toNat := by
      rw [UInt32.lt_iff_toNat_lt, UInt32.toNat_add] at wraps
      rw [UInt32.toNat_add]
      have offLt := window.off.toNat_lt
      have shortLt : maximumSegmentSize < 2 ^ 32 := by decide
      omega
    refine .segment _ _ _ _ rfl ?_ positive short fits noWrap rfl
    simp only [List.length_take, List.length_drop]
    omega

end SendWindow

end DeepNps.Mux
