import DeepNps.MuxReceiveBudget

/-!
# The receive window of a stream

Every function here is one atomic action of the code or a computation on values loaded
before; `MuxStreamReceiver` says in which order the two threads take them.
-/

namespace DeepNps.Mux

/-- A queued segment: `l` bytes at the front of `buf`, with `part` set when the
`Write` it was cut from goes on. -/
structure ListElement where
  buf : List UInt8
  l : UInt16
  part : Bool
  deriving DecidableEq, Repr

def newListElement (buf : List UInt8) (l : UInt16) (part : Bool) : Except String ListElement :=
  if UInt16.ofNat buf.length < l then .error "listElement: buf length not match"
  else .ok { buf := buf, l := l, part := part }

def ListElement.bytes (element : ListElement) : List UInt8 := element.buf.take element.l.toNat

/-- `queue`, `queueLength` and `stopped` are the receive queue: its segments, oldest first, the
byte count in its packed word, and whether it was stopped.  `element` and `off` are the segment
being read and the position in it; a released window has no segment. -/
structure ReceiveWindow where
  maxSizeDone : UInt64
  off : UInt32
  closeOp : Bool
  queue : List ListElement
  queueLength : UInt32
  stopped : Bool
  element : Option ListElement
  buffered : UInt32
  count : Int8
  priority : Bool

/-- The session counter and the counter of a stream, as two loads found them. -/
structure Counters where
  queued : UInt64
  buffered : UInt32

/-- The size after the bandwidth, latency and low fill gains, the limit by the bandwidth share if
there is one, and the counters at each of their uses. -/
structure SizeSample where
  candidate : UInt32
  bandwidthLimit : Option UInt32
  atSize : Counters
  atRemaining : Counters
  used : UInt32
  atResult : Counters

def SizeSample.unmoved (candidate : UInt32) (bandwidthLimit : Option UInt32)
    (counters : Counters) : SizeSample where
  candidate := candidate
  bandwidthLimit := bandwidthLimit
  atSize := counters
  atRemaining := counters
  used := counters.buffered
  atResult := counters

/-- The outcome of `Pop` when it is tried once. -/
inductive PopResult where
  | element (element : ListElement) (window : ReceiveWindow)
  | wait
  | eof

namespace ReceiveWindow

def new : ReceiveWindow where
  maxSizeDone := pack defaultInitialConnWindow 0 false
  off := 0
  closeOp := false
  queue := []
  queueLength := 0
  stopped := false
  element := some { buf := [], l := 0, part := false }
  buffered := 0
  count := 0
  priority := false

def reserveBytes (window : ReceiveWindow) (l : UInt16) : ReceiveWindow :=
  if l = 0 then window else { window with buffered := window.buffered + l.toUInt32 }

def releaseBytes (window : ReceiveWindow) (l : UInt16) : ReceiveWindow :=
  if l = 0 then window else { window with buffered := window.buffered + ~~~(l.toUInt32 - 1) }

/-- The size that `calcSize` settles on, from the word as it was loaded. -/
def calculatedSize (cfg : MuxConfig) (sample : SizeSample) (word : UInt64) : UInt32 :=
  let current := unpack word
  let size := effectiveMaxSize cfg sample.atSize.queued sample.atSize.buffered current.maxSize
  let limit := effectiveMaxSize cfg sample.atRemaining.queued sample.atRemaining.buffered size
  let rem := unusedSize limit sample.used 0
  let n := sample.candidate
  let minN := ((size.toUInt64 * 7) / 8).toUInt32
  let minN := if current.wait ∧ rem = 0 then size / 2 else minN
  let n := if n < minN then minN else n
  let n :=
    if n > 2 * size then
      if size = defaultInitialConnWindow then
        if n > size * 6 then size * 6 else n
      else 2 * size
    else n
  let n :=
    match sample.bandwidthLimit with
    | none => n
    | some limit => if n > limit then limit else n
  let n := if n > maxConnReceiveWindow cfg then maxConnReceiveWindow cfg else n
  effectiveMaxSize cfg sample.atResult.queued sample.atResult.buffered n

/-- The size is calculated once in ten calls; only the size in the word changes. -/
def calcSize (cfg : MuxConfig) (sample : SizeSample) (window : ReceiveWindow) : ReceiveWindow :=
  if window.count = 0 then
    let current := unpack window.maxSizeDone
    let n := calculatedSize cfg sample window.maxSizeDone
    { window with maxSizeDone := pack n current.done current.wait, count := -10 + 1 }
  else { window with count := window.count + 1 }

/-- The new word and the update to send when `Write` takes in a segment, from the effective size
and the size that remains after the segment. -/
def writeWord (word : UInt64) (maxSize remain : UInt32) : UInt64 × Option UInt64 :=
  let current := unpack word
  let read := current.done
  let wait := current.wait || remain == 0
  let segments := UInt32.ofNat (maximumSegmentSize * 4)
  if maxSize ≠ current.maxSize ∨
      (wait = false ∧ read > 0 ∧ (read ≥ maxSize / 2 ∨ read ≥ segments)) then
    (pack maxSize 0 wait, some (pack maxSize read false))
  else (pack maxSize read wait, none)

/-- The new word and the update to send when `sendStatus` accounts for `l` bytes
that were read. -/
def statusWord (word : UInt64) (maxSize remain : UInt32) (l : UInt16) : UInt64 × Option UInt64 :=
  let current := unpack word
  let read := current.done
  let overflow : Bool := (read + l.toUInt32) &&& mask31 < read
  let nextRead := if overflow then l.toUInt32 else read + l.toUInt32
  let segments := UInt32.ofNat (maximumSegmentSize * 4)
  if maxSize ≠ current.maxSize ∨ overflow ∨ (current.wait ∧ remain > 0) ∨
      nextRead ≥ maxSize / 2 ∨ nextRead ≥ segments ∨ remain = maxSize then
    (pack maxSize 0 false, some (pack maxSize nextRead false))
  else (pack maxSize nextRead current.wait, none)

def push (window : ReceiveWindow) (element : ListElement) : ReceiveWindow :=
  { window with
    queue := window.queue ++ [element]
    queueLength := window.queueLength + element.l.toUInt32 }

def tryPop (window : ReceiveWindow) : Option (ListElement × ReceiveWindow) :=
  match window.queue with
  | [] => none
  | element :: rest => some (element,
      { window with queue := rest, queueLength := window.queueLength - element.l.toUInt32 })

/-- One attempt of `receiveWindowQueue.Pop`.  It waits while the byte count is
zero and the queue is not stopped. -/
def pop (window : ReceiveWindow) : PopResult :=
  if window.queueLength = 0 then
    if window.stopped then .eof else .wait
  else
    match window.tryPop with
    | none => .wait
    | some (element, window) => .element element window

def unread (window : ReceiveWindow) : List UInt8 :=
  match window.element with
  | none => []
  | some element => element.bytes.drop window.off.toNat

def atEnd (window : ReceiveWindow) (element : ListElement) : Bool :=
  window.off == element.l.toUInt32

/-- Copy from the current segment into a buffer with `room` bytes. -/
def copy (window : ReceiveWindow) (room : Nat) : List UInt8 × ReceiveWindow :=
  let bytes := window.unread.take room
  (bytes, { window with off := window.off + UInt32.ofNat bytes.length })

def stop (window : ReceiveWindow) : ReceiveWindow := { window with stopped := true }

/-- The bytes that `release` gives back for the current segment. -/
def currentLength (window : ReceiveWindow) : UInt16 :=
  match window.element with
  | none => 0
  | some element => if window.off < element.l.toUInt32 then element.l else 0

/-- The queued segments give back their bytes one after the other. -/
def drain (window : ReceiveWindow) : ReceiveWindow :=
  window.queue.foldl (fun window element => window.releaseBytes element.l)
    { window with
      queue := []
      queueLength := window.queueLength - (window.queue.map fun element => element.l.toUInt32).sum }

def release (window : ReceiveWindow) : ReceiveWindow :=
  { window.drain.releaseBytes window.currentLength with element := none }

def closeWindow (window : ReceiveWindow) : ReceiveWindow :=
  { window with closeOp := true, stopped := true }.release

section

variable (window : ReceiveWindow)

include window

theorem reserveBytes_eq (l : UInt16) :
    window.reserveBytes l = { window with buffered := window.buffered + l.toUInt32 } := by
  rw [reserveBytes]
  split_ifs with isZero
  · simp [isZero]
  · rfl

theorem releaseBytes_eq (l : UInt16) :
    window.releaseBytes l = { window with buffered := window.buffered - l.toUInt32 } := by
  rw [releaseBytes]
  split_ifs with isZero
  · simp [isZero]
  · have complement := UInt32.neg_eq_not_add (l.toUInt32 - 1)
    congr 1
    grind

theorem drain_eq :
    window.drain =
      let length := (window.queue.map fun element => element.l.toUInt32).sum
      { window with
        queue := []
        queueLength := window.queueLength - length
        buffered := window.buffered - length } := by
  have general : ∀ (elements : List ListElement) (window : ReceiveWindow),
      elements.foldl (fun window element => window.releaseBytes element.l) window =
        { window with
          buffered := window.buffered - (elements.map fun element => element.l.toUInt32).sum } := by
    intro elements
    induction elements with
    | nil => simp
    | cons _ _ ih =>
      intro _
      rw [List.foldl_cons, ih, releaseBytes_eq, List.map_cons, List.sum_cons]
      congr 1
      grind
  rw [drain, general]

theorem closeWindow_eq :
    window.closeWindow =
      let length := (window.queue.map fun element => element.l.toUInt32).sum
      { window with
        closeOp := true
        stopped := true
        queue := []
        queueLength := window.queueLength - length
        element := none
        buffered := window.buffered - length - window.currentLength.toUInt32 } := by
  simp only [closeWindow, release, drain_eq, releaseBytes_eq]
  rfl

end

end ReceiveWindow

def wordSize (word : UInt64) : Nat := (unpack word).maxSize.toNat

def wordDone (word : UInt64) : Nat := (unpack word).done.toNat

/-- What an update reports as read, if one is sent. -/
def reported (update : Option UInt64) : Nat := (update.map wordDone).getD 0

@[simp]
theorem reported_none : reported none = 0 := rfl

variable {maxSize done : UInt32}

theorem wordSize_pack (small : maxSize.toNat < 2 ^ 31) (done : UInt32) (wait : Bool) :
    wordSize (pack maxSize done wait) = maxSize.toNat := by
  rw [wordSize, unpack_pack, and_mask31_of_lt small]

theorem wordDone_pack (maxSize : UInt32) (small : done.toNat < 2 ^ 31) (wait : Bool) :
    wordDone (pack maxSize done wait) = done.toNat := by
  rw [wordDone, unpack_pack, and_mask31_of_lt small]

theorem wordDone_lt (word : UInt64) : wordDone word < 2 ^ 31 := unpack_done_lt word

/-- A new word and the update sent with it account for `total` bytes and
advertise one size. -/
structure Accounts (total size : Nat) (result : UInt64 × Option UInt64) : Prop where
  size_eq : wordSize result.1 = size
  update_size : ∀ update, result.2 = some update → wordSize update = size
  total_eq : wordDone result.1 + reported result.2 = total

theorem accounts_sent (sizeLt : maxSize.toNat < 2 ^ 31) (doneLt : done.toNat < 2 ^ 31)
    (wait : Bool) :
    Accounts done.toNat maxSize.toNat (pack maxSize 0 wait, some (pack maxSize done false)) where
  size_eq := wordSize_pack sizeLt _ _
  update_size := by
    intro _ isUpdate
    cases isUpdate
    exact wordSize_pack sizeLt _ _
  total_eq := by
    simp only [reported, Option.map_some, Option.getD_some, wordDone_pack _ doneLt]
    rw [wordDone_pack _ (by decide)]
    simp

theorem accounts_kept (sizeLt : maxSize.toNat < 2 ^ 31) (doneLt : done.toNat < 2 ^ 31)
    (wait : Bool) :
    Accounts done.toNat maxSize.toNat (pack maxSize done wait, none) where
  size_eq := wordSize_pack sizeLt _ _
  update_size := by simp
  total_eq := by simp [reported, wordDone_pack _ doneLt]

namespace ReceiveWindow

section Accounting

variable {cfg : MuxConfig} {word : UInt64} {maxSize remain : UInt32} {l : UInt16}

theorem writeWord_accounts (sizeLt : maxSize.toNat < 2 ^ 31) :
    Accounts (wordDone word) maxSize.toNat (writeWord word maxSize remain) := by
  have doneLt := wordDone_lt word
  simp only [writeWord]
  split_ifs
  · exact accounts_sent sizeLt doneLt _
  · exact accounts_kept sizeLt doneLt _

theorem statusWord_accounts (sizeLt : maxSize.toNat < 2 ^ 31)
    (fits : wordDone word + l.toNat < 2 ^ 31) :
    Accounts (wordDone word + l.toNat) maxSize.toNat (statusWord word maxSize remain l) := by
  have lengthLt := l.toNat_lt
  have sum : ((unpack word).done + l.toUInt32).toNat = wordDone word + l.toNat := by
    rw [UInt32.toNat_add, UInt16.toNat_toUInt32, ← wordDone]
    omega
  have noOverflow : ¬ ((unpack word).done + l.toUInt32) &&& mask31 < (unpack word).done := by
    rw [UInt32.lt_iff_toNat_lt, and_mask31_toNat, sum, ← wordDone]
    omega
  simp only [statusWord, noOverflow, decide_false, Bool.false_eq_true, if_false]
  rw [← sum]
  split_ifs
  · exact accounts_sent sizeLt (by rw [sum]; exact fits) _
  · exact accounts_kept sizeLt (by rw [sum]; exact fits) _

theorem wordDone_statusWord_of_unused (unused : remain = maxSize) :
    wordDone (statusWord word maxSize remain l).1 = 0 := by
  have sent : (statusWord word maxSize remain l).1 = pack maxSize 0 false := by
    simp [statusWord, unused]
  rw [sent, wordDone_pack _ (by decide)]
  rfl

end Accounting

end ReceiveWindow

end DeepNps.Mux
