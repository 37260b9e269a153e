import DeepNps.LabelledRuns
import DeepNps.MuxHeldBytes
import Mathlib.Algebra.Order.BigOperators.Group.List
import Mathlib.Algebra.Order.Group.Nat

/-!
# Receive accounting of a session

A `Write`, one turn of the loop of a `Read` and `CloseWindow` are atomic here.  Nothing on
the receiving side keeps a peer from sending more than its window, so the 32-bit counter
of a stream is exact only while the stream holds less than `2 ^ 32` bytes.
-/

namespace DeepNps.Mux

/-- What a size calculation measures outside the window. -/
structure Measurement where
  candidate : UInt32
  bandwidthLimit : Option UInt32

def Measurement.sample (measured : Measurement) (queued : UInt64) (buffered : UInt32) :
    SizeSample :=
  .unmoved measured.candidate measured.bandwidthLimit ⟨queued, buffered⟩

structure Counted where
  window : ReceiveWindow
  queued : UInt64

/-- The outcome of one turn of `readFromQueue`. -/
inductive ReadTurn where
  | closed
  | waits
  | failed (after : Counted)
  | copied (bytes : List UInt8) (after : Counted) (again : Bool) (update : Option UInt64)

namespace ReceiveWindow

def write (cfg : MuxConfig) (measured : Measurement) (window : ReceiveWindow) (queued : UInt64)
    (buf : List UInt8) (l : UInt16) (part : Bool) : Except String (Counted × Option UInt64) :=
  if window.closeOp then .error "conn.receiveWindow: write on closed window"
  else
    match newListElement buf l part with
    | .error message => .error message
    | .ok element =>
        let window := window.calcSize cfg (measured.sample queued window.buffered)
        let maxSize := effectiveMaxSize cfg queued window.buffered
          (unpack window.maxSizeDone).maxSize
        let remain := receiveRemainingSize cfg queued window.buffered maxSize l
        let (word, update) := writeWord window.maxSizeDone maxSize remain
        let window := { window with maxSizeDone := word }.reserveBytes l
        .ok (⟨window.push element, addSessionReceive queued l.toUInt32⟩, update)

/-- `receiveWindow.CloseWindow`, with the session counter. -/
def closeCounted (window : ReceiveWindow) (queued : UInt64) : Counted :=
  let queued := window.queue.foldl
    (fun queued element => releaseSessionReceive queued element.l.toUInt32) queued
  ⟨window.closeWindow, releaseSessionReceive queued window.currentLength.toUInt32⟩

def finish (cfg : MuxConfig) (measured : Measurement) (window : ReceiveWindow) (queued : UInt64)
    (l : UInt16) : Counted × Option UInt64 :=
  let window := window.releaseBytes l
  let queued := releaseSessionReceive queued l.toUInt32
  let window := window.calcSize cfg (measured.sample queued window.buffered)
  let maxSize := effectiveMaxSize cfg queued window.buffered (unpack window.maxSizeDone).maxSize
  let remain := receiveRemainingSize cfg queued window.buffered maxSize 0
  let (word, update) := statusWord window.maxSizeDone maxSize remain l
  (⟨{ window with maxSizeDone := word }, queued⟩, update)

/-- Copy from the current segment, behind the pop of `readFromQueue`. -/
def copyTurn (cfg : MuxConfig) (measured : Measurement) (window : ReceiveWindow) (queued : UInt64)
    (element : ListElement) (room : Nat) : ReadTurn :=
  let (bytes, window) := window.copy room
  let again := bytes.length < room && element.part
  if window.atEnd element then
    let (after, update) := window.finish cfg measured queued element.l
    .copied bytes after again update
  else .copied bytes ⟨window, queued⟩ again none

/-- `Read` enters the loop only on a window that is not closed.  `expired` tells whether the
deadline passes while `Pop` waits. -/
def readTurn (cfg : MuxConfig) (measured : Measurement) (window : ReceiveWindow) (queued : UInt64)
    (room : Nat) (expired : Bool) : ReadTurn :=
  if window.closeOp then .closed
  else
    match window.element with
    | none => .closed
    | some element =>
        if window.atEnd element then
          match window.pop with
          | .wait =>
              if expired then
                .failed ({ window with element := none, off := 0 }.closeCounted queued)
              else .waits
          | .eof => .failed ({ window with element := none, off := 0 }.closeCounted queued)
          | .element element window =>
              { window with element := some element, off := 0 }.copyTurn cfg measured queued
                element room
        else window.copyTurn cfg measured queued element room

end ReceiveWindow

open ReceiveWindow Option UInt64

structure ReceiveSession where
  windows : List ReceiveWindow
  sessionRecvQueued : UInt64

inductive ReceiveCall where
  | newConn
  | write (stream : Nat) (measured : Measurement) (buf : List UInt8) (l : UInt16) (part : Bool)
  | read (stream : Nat) (measured : Measurement) (room : Nat) (expired : Bool)
  | stop (stream : Nat)
  | closeWindow (stream : Nat)

namespace ReceiveSession

def new : ReceiveSession where
  windows := []
  sessionRecvQueued := 0

def store (session : ReceiveSession) (stream : Nat) (after : Counted) : ReceiveSession where
  windows := session.windows.set stream after.window
  sessionRecvQueued := after.queued

/-- A call that fails leaves everything as it was; a `Read` that waits is not
enabled. -/
def call (cfg : MuxConfig) (session : ReceiveSession) : ReceiveCall → Option ReceiveSession
  | .newConn => some { session with windows := session.windows ++ [ReceiveWindow.new] }
  | .write stream measured buf l part =>
      (session.windows[stream]?).map fun window =>
        match window.write cfg measured session.sessionRecvQueued buf l part with
        | .error _ => session
        | .ok (after, _) => session.store stream after
  | .read stream measured room expired =>
      (session.windows[stream]?).bind fun window =>
        match window.readTurn cfg measured session.sessionRecvQueued room expired with
        | .closed => some session
        | .waits => none
        | .failed after => some (session.store stream after)
        | .copied _ after _ _ => some (session.store stream after)
  | .stop stream =>
      (session.windows[stream]?).map fun window =>
        session.store stream ⟨window.stop, session.sessionRecvQueued⟩
  | .closeWindow stream =>
      (session.windows[stream]?).map fun window =>
        session.store stream (window.closeCounted session.sessionRecvQueued)

def held (session : ReceiveSession) : Nat := (session.windows.map ReceiveWindow.held).sum

end ReceiveSession

theorem toUInt64_eq_ofNat (l : UInt16) : l.toUInt32.toUInt64 = UInt64.ofNat l.toNat := by
  apply UInt64.toNat_inj.mp
  have small := l.toNat_lt
  rw [UInt32.toNat_toUInt64, UInt16.toNat_toUInt32, UInt64.toNat_ofNat',
    Nat.mod_eq_of_lt (by omega)]

open List

theorem foldl_releaseSessionReceive (elements : List ListElement) (queued : UInt64) :
    elements.foldl (fun queued element => releaseSessionReceive queued element.l.toUInt32) queued =
      queued - ofNat (elements.map fun element => element.l.toNat).sum := by
  induction elements generalizing queued with
  | nil => simp
  | cons _ _ ih =>
    rw [foldl_cons, ih, releaseSessionReceive_eq, map_cons, sum_cons,
      ofNat_add, toUInt64_eq_ofNat]
    grind

namespace ReceiveWindow

/-- The counter is exact modulo its width, the position is in the segment, a closed window holds
nothing. -/
structure Accounted (window : ReceiveWindow) : Prop where
  buffered_eq : window.buffered = UInt32.ofNat window.held
  off_le : ∀ element, window.element = some element → window.off.toNat ≤ element.l.toNat
  closed : window.closeOp = true → window.queue = [] ∧ window.element = none

/-- A call moves the session counter by as much as the held bytes. -/
structure Moves (window : ReceiveWindow) (queued : UInt64) (after : Counted) : Prop where
  accounted : after.window.Accounted
  balance : after.queued + UInt64.ofNat window.held = queued + UInt64.ofNat after.window.held

variable {cfg : MuxConfig} {measured : Measurement} {window : ReceiveWindow} {queued : UInt64}

theorem new_accounted : new.Accounted where
  buffered_eq := rfl
  off_le := by
    intro _ isElement
    cases isElement
    rfl
  closed := by simp [new]

variable {buf : List UInt8} {l : UInt16} {part : Bool} {after : Counted} {update : Option UInt64}

section

variable (isOk : window.write cfg measured queued buf l part = .ok (after, update))

include isOk

theorem write_spec :
    window.closeOp = false ∧ ∃ element word count, element.l = l ∧ after =
      ⟨{ window with
          maxSizeDone := word
          count := count
          buffered := window.buffered + l.toUInt32
          queue := window.queue ++ [element]
          queueLength := window.queueLength + element.l.toUInt32 },
        queued + ofNat l.toNat⟩ := by
  rw [write] at isOk
  split_ifs at isOk with isClosed
  rcases made : newListElement buf l part with message | element
  · simp [made] at isOk
  have length : element.l = l := by
    rw [newListElement] at made
    split_ifs at made
    cases made
    rfl
  obtain ⟨_, count, sized⟩ := calcSize_eq cfg (measured.sample queued window.buffered) window
  simp only [made, sized, reserveBytes_eq, Except.ok.injEq, Prod.mk.injEq] at isOk
  obtain ⟨rfl, -⟩ := isOk
  rw [addSessionReceive_eq, toUInt64_eq_ofNat]
  exact ⟨by simpa using isClosed, element, _, count, length, rfl⟩

theorem held_write : after.window.held = window.held + l.toNat := by
  obtain ⟨-, element, _, _, rfl, rfl⟩ := write_spec isOk
  exact window.held_push element

end

theorem Accounted.write (accounted : window.Accounted)
    (isOk : window.write cfg measured queued buf l part = .ok (after, update)) :
    window.Moves queued after := by
  have grows := held_write isOk
  obtain ⟨isOpen, _, _, _, -, rfl⟩ := write_spec isOk
  refine ⟨⟨?_, accounted.off_le, fun closed => absurd closed (by simp [isOpen])⟩, ?_⟩
  · rw [grows, UInt32.ofNat_add, ← accounted.buffered_eq, ← toUInt32_eq_ofNat]
  · rw [grows, ofNat_add]
    grind

theorem Accounted.closeCounted (accounted : window.Accounted) :
    window.Moves queued (window.closeCounted queued) := by
  refine ⟨⟨?_, by simp [ReceiveWindow.closeCounted, closeWindow_eq],
    by simp [ReceiveWindow.closeCounted, closeWindow_eq]⟩, ?_⟩
  · show window.closeWindow.buffered = UInt32.ofNat window.closeWindow.held
    rw [held_closeWindow, closeWindow_eq, sum_toUInt32]
    simp only [accounted.buffered_eq, held, UInt32.ofNat_add, toUInt32_eq_ofNat]
    grind
  · show releaseSessionReceive _ _ + _ = queued + ofNat window.closeWindow.held
    rw [held_closeWindow, foldl_releaseSessionReceive, releaseSessionReceive_eq, held,
      ofNat_add, toUInt64_eq_ofNat]
    grind

theorem finish_moves (cfg : MuxConfig) (measured : Measurement) (queued : UInt64)
    (bufferedEq : window.buffered = UInt32.ofNat (window.held + l.toNat))
    (offLe : ∀ element, window.element = some element → window.off.toNat ≤ element.l.toNat)
    (isOpen : window.closeOp = false) :
    (window.finish cfg measured queued l).1.window.Accounted ∧
      (window.finish cfg measured queued l).1.window.held = window.held ∧
      (window.finish cfg measured queued l).1.queued = queued - ofNat l.toNat := by
  obtain ⟨_, _, sized⟩ := calcSize_eq cfg
    (measured.sample (releaseSessionReceive queued l.toUInt32) (window.releaseBytes l).buffered)
    (window.releaseBytes l)
  simp only [finish, sized]
  rw [releaseBytes_eq, releaseSessionReceive_eq, toUInt64_eq_ofNat]
  refine ⟨⟨?_, offLe, by simp [isOpen]⟩, rfl, rfl⟩
  show window.buffered - l.toUInt32 = UInt32.ofNat window.held
  rw [bufferedEq, UInt32.ofNat_add, toUInt32_eq_ofNat]
  grind

theorem Accounted.copyTurn (accounted : window.Accounted) (cfg : MuxConfig)
    (measured : Measurement) (queued : UInt64) (isOpen : window.closeOp = false)
    {element : ListElement} (isElement : window.element = some element)
    (current : window.currentLength = element.l) (room : Nat) :
    ∃ bytes after again update,
      window.copyTurn cfg measured queued element room = .copied bytes after again update ∧
        window.Moves queued after := by
  have offLe := copy_off isElement (accounted.off_le element isElement) room
  have copied : (window.copy room).2 = { window with off := (window.copy room).2.off } := rfl
  have staysElement : ({ window with off := (window.copy room).2.off } : ReceiveWindow).element =
      some element := isElement
  simp only [ReceiveWindow.copyTurn]
  rw [copied]
  generalize (window.copy room).2.off = off at offLe staysElement ⊢
  have offOk : ∀ other, ({ window with off := off } : ReceiveWindow).element = some other →
      off.toNat ≤ other.l.toNat := by
    intro _ isOther
    rw [staysElement] at isOther
    cases isOther
    exact offLe
  split_ifs with ended
  · have offEq := (atEnd_iff _ _).mp ended
    have nothing : ({ window with off := off } : ReceiveWindow).currentLength = 0 := by
      rw [currentLength_eq staysElement, if_neg (by rw [offEq]; omega)]
    have heldEq : window.held =
        ({ window with off := off } : ReceiveWindow).held + element.l.toNat := by
      rw [held, held, nothing, current]
      rfl
    obtain ⟨after, sameHeld, released⟩ := finish_moves cfg measured queued
      (by rw [← heldEq]; exact accounted.buffered_eq) offOk isOpen
    refine ⟨_, _, _, _, rfl, after, ?_⟩
    rw [sameHeld, released, heldEq, ofNat_add]
    grind
  · have inside : off.toNat < element.l.toNat :=
      lt_of_le_of_ne offLe fun same => ended ((atEnd_iff _ _).mpr same)
    have heldEq : ({ window with off := off } : ReceiveWindow).held = window.held := by
      rw [held, held, currentLength_eq staysElement, if_pos inside, current]
    refine ⟨_, _, _, _, rfl, ⟨?_, offOk, ?_⟩, ?_⟩
    · rw [heldEq]
      exact accounted.buffered_eq
    · intro closed
      exact absurd closed (by simp [isOpen])
    · rw [heldEq]

theorem Accounted.next (accounted : window.Accounted) (isOpen : window.closeOp = false)
    (nothing : window.currentLength = 0) {element : ListElement} {after : ReceiveWindow}
    (popped : window.pop = .element element after) :
    ({ after with element := some element, off := 0 } : ReceiveWindow).Accounted := by
  have heldEq := (held_next nothing popped).1
  obtain ⟨_, _, rfl⟩ := pop_eq_element popped
  refine ⟨?_, ?_, ?_⟩
  · rw [heldEq]
    exact accounted.buffered_eq
  · intro _ isOther
    cases isOther
    simp
  · intro closed
    exact absurd closed (by simp [isOpen])

theorem Accounted.fail (accounted : window.Accounted) (nothing : window.currentLength = 0) :
    window.Moves queued ({ window with element := none, off := 0 }.closeCounted queued) := by
  have heldEq := held_dropElement nothing
  have without : ({ window with element := none, off := 0 } : ReceiveWindow).Accounted := by
    refine ⟨?_, by simp, fun closed => ⟨(accounted.closed closed).1, rfl⟩⟩
    rw [heldEq]
    exact accounted.buffered_eq
  have moves : Moves _ queued _ := without.closeCounted
  exact ⟨moves.accounted, by rw [← heldEq]; exact moves.balance⟩

/-- What a turn that changes the window does to the counters. -/
def TurnMoves (window : ReceiveWindow) (queued : UInt64) : ReadTurn → Prop
  | .closed => True
  | .waits => True
  | .failed after => window.Moves queued after
  | .copied _ after _ _ => window.Moves queued after

theorem Accounted.readTurn (accounted : window.Accounted) (room : Nat) (expired : Bool) :
    window.TurnMoves queued (window.readTurn cfg measured queued room expired) := by
  rw [ReceiveWindow.readTurn]
  by_cases isClosed : window.closeOp = true
  · rw [if_pos isClosed]
    trivial
  rw [if_neg isClosed]
  have isOpen : window.closeOp = false := by simpa using isClosed
  cases isElement : window.element with
  | none => trivial
  | some element =>
    simp only
    by_cases ended : window.atEnd element = true
    · rw [if_pos ended]
      have nothing := currentLength_of_atEnd isElement ended
      cases popped : window.pop with
      | wait =>
        cases expired with
        | true => exact accounted.fail nothing
        | false => trivial
      | eof => exact accounted.fail nothing
      | element next after =>
        have nextOk := accounted.next isOpen nothing popped
        obtain ⟨sameHeld, whole⟩ := held_next nothing popped
        have nextOpen : after.closeOp = false := by
          obtain ⟨_, -, rfl⟩ := pop_eq_element popped
          exact isOpen
        obtain ⟨_, _, _, _, isCopied, moves⟩ :=
          nextOk.copyTurn cfg measured queued nextOpen rfl whole room
        simp only [isCopied]
        exact ⟨moves.accounted, by rw [← sameHeld]; exact moves.balance⟩
    · rw [if_neg ended]
      have inside := currentLength_of_inside isElement (accounted.off_le element isElement) ended
      obtain ⟨_, _, _, _, isCopied, moves⟩ :=
        accounted.copyTurn cfg measured queued isOpen isElement inside room
      rw [isCopied]
      exact moves

end ReceiveWindow

namespace ReceiveSession

/-- Every stream is accounted for and the session counts their bytes. -/
structure Accounted (session : ReceiveSession) : Prop where
  windows : ∀ window ∈ session.windows, window.Accounted
  queued_eq : session.sessionRecvQueued = UInt64.ofNat session.held

theorem new_accounted : new.Accounted where
  windows := by simp [new]
  queued_eq := rfl

theorem Accounted.store {session : ReceiveSession} (accounted : session.Accounted) {stream : Nat}
    {window : ReceiveWindow} (found : session.windows[stream]? = some window) {after : Counted}
    (moves : window.Moves session.sessionRecvQueued after) :
    (session.store stream after).Accounted := by
  obtain ⟨inside, isWindow⟩ := List.getElem?_eq_some_iff.mp found
  have split : session.windows =
      session.windows.take stream ++ window :: session.windows.drop (stream + 1) := by
    rw [← isWindow, List.cons_getElem_drop_succ, List.take_append_drop]
  have replaced : session.windows.set stream after.window =
      session.windows.take stream ++ after.window :: session.windows.drop (stream + 1) :=
    List.set_eq_take_cons_drop after.window inside
  refine ⟨?_, ?_⟩
  · intro other isMember
    rcases List.mem_or_eq_of_mem_set isMember with isMember | rfl
    · exact accounted.windows other isMember
    · exact moves.accounted
  · have before : session.held + after.window.held =
        (session.store stream after).held + window.held := by
      have total := congrArg (fun windows => (windows.map ReceiveWindow.held).sum) split
      have totalAfter := congrArg (fun windows => (windows.map ReceiveWindow.held).sum) replaced
      simp only [List.map_append, List.map_cons, List.sum_append, List.sum_cons] at total totalAfter
      show (session.windows.map ReceiveWindow.held).sum + after.window.held =
        ((session.windows.set stream after.window).map ReceiveWindow.held).sum + window.held
      omega
    have balance := moves.balance
    have total := congrArg ofNat before
    rw [ofNat_add, ofNat_add, ← accounted.queued_eq] at total
    show after.queued = _
    grind

theorem Accounted.call {cfg : MuxConfig} {session next : ReceiveSession}
    (accounted : session.Accounted) {call : ReceiveCall}
    (called : session.call cfg call = some next) : next.Accounted := by
  cases call with
  | newConn =>
    cases called
    refine ⟨?_, ?_⟩
    · intro window isMember
      rcases mem_append.mp isMember with isMember | isMember
      · exact accounted.windows window isMember
      · rw [mem_singleton.mp isMember]
        exact ReceiveWindow.new_accounted
    · rw [accounted.queued_eq]
      simp [held, ReceiveWindow.held, ReceiveWindow.new, ReceiveWindow.currentLength]
  | write _ measured buf l part =>
    obtain ⟨window, found, rfl⟩ := map_eq_some_iff.mp called
    have windowOk := accounted.windows window (mem_of_getElem? found)
    rcases isWrite : window.write cfg measured session.sessionRecvQueued buf l part with
      message | ⟨after, update⟩
    · exact accounted
    · exact accounted.store found (windowOk.write isWrite)
  | read _ measured room expired =>
    obtain ⟨window, found, isTurn⟩ := bind_eq_some_iff.mp called
    have windowOk := accounted.windows window (mem_of_getElem? found)
    have moves : window.TurnMoves session.sessionRecvQueued
      (window.readTurn cfg measured session.sessionRecvQueued room expired) :=
      windowOk.readTurn room expired
    cases turn : window.readTurn cfg measured session.sessionRecvQueued room expired with
    | closed =>
      rw [turn] at isTurn
      cases isTurn
      exact accounted
    | waits =>
      rw [turn] at isTurn
      cases isTurn
    | failed | copied =>
      rw [turn] at isTurn moves
      cases isTurn
      exact accounted.store found moves
  | stop =>
    obtain ⟨window, found, rfl⟩ := map_eq_some_iff.mp called
    have windowOk := accounted.windows window (mem_of_getElem? found)
    exact accounted.store found ⟨⟨windowOk.buffered_eq, windowOk.off_le, windowOk.closed⟩, rfl⟩
  | closeWindow =>
    obtain ⟨window, found, rfl⟩ := map_eq_some_iff.mp called
    have windowOk := accounted.windows window (mem_of_getElem? found)
    exact accounted.store found windowOk.closeCounted

end ReceiveSession

end DeepNps.Mux
