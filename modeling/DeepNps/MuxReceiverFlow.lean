import DeepNps.MuxStreamReceiver

/-!
# Credit at the receiving end

A byte that reaches a receiving end is arriving, buffered, read and not reported, or in an
update about to be sent.  Only closing the window makes any disappear.
-/

namespace DeepNps.Mux

open ReceiveWindow

def Incoming.length : Incoming → Nat
  | .idle => 0
  | .entered element => element.l.toNat
  | .sized element => element.l.toNat
  | .loaded element _ => element.l.toNat
  | .bounded element _ _ => element.l.toNat
  | .limited element _ _ _ => element.l.toNat
  | .measured element _ _ _ => element.l.toNat
  | .committed element _ => element.l.toNat
  | .reserved element _ => element.l.toNat
  | .pushed _ => 0

def Incoming.update : Incoming → Option UInt64
  | .committed _ update => update
  | .reserved _ update => update
  | .pushed update => update
  | _ => none

def Incoming.counted : Incoming → Nat
  | .reserved element _ => element.l.toNat
  | _ => 0

def Reading.length : Reading → Nat
  | .finished _ l => l.toNat
  | .released _ l => l.toNat
  | .sized _ l => l.toNat
  | .loaded _ l _ => l.toNat
  | .bounded _ l _ _ _ => l.toNat
  | .limited _ l _ _ _ => l.toNat
  | .measured _ l _ _ _ => l.toNat
  | _ => 0

def Reading.update : Reading → Option UInt64
  | .committed _ update => update
  | _ => none

def Reading.counted : Reading → Nat
  | .finished _ l => l.toNat
  | _ => 0

def Advertisable (cfg : MuxConfig) (size : Nat) : Prop :=
  0 < size ∧ size ≤ cfg.maxConnReceiveWindow.toNat

def UpdateOk (cfg : MuxConfig) (update : Option UInt64) : Prop :=
  ∀ word, update = some word → Advertisable cfg (wordSize word)

theorem updateOk_none (cfg : MuxConfig) : UpdateOk cfg none := by
  intro _ isSome
  cases isSome

def Incoming.SizeOk (cfg : MuxConfig) : Incoming → Prop
  | .bounded _ _ maxSize => Advertisable cfg maxSize.toNat
  | .limited _ _ maxSize _ => Advertisable cfg maxSize.toNat
  | .measured _ _ maxSize _ => Advertisable cfg maxSize.toNat
  | _ => True

def Reading.SizeOk (cfg : MuxConfig) : Reading → Prop
  | .bounded _ _ _ maxSize _ => Advertisable cfg maxSize.toNat
  | .limited _ _ _ maxSize _ => Advertisable cfg maxSize.toNat
  | .measured _ _ _ maxSize _ => Advertisable cfg maxSize.toNat
  | _ => True

namespace StreamReceiver

/-- The bytes read and not yet reported. -/
def unreported (receiver : StreamReceiver) : Nat :=
  wordDone receiver.window.maxSizeDone + receiver.reading.length

def reporting (receiver : StreamReceiver) : Nat :=
  reported receiver.incoming.update + reported receiver.reading.update

/-- All bytes that the receiving end owes the sender an answer for. -/
def credit (receiver : StreamReceiver) : Nat :=
  receiver.incoming.length + receiver.window.held + receiver.unreported + receiver.reporting

/-- What the current segment looks like at each point of a `Read`. -/
def ReadingOk (window : ReceiveWindow) : Reading → Prop
  | .idle => True
  | .looping _ => True
  | .copying _ => ∀ element, window.element = some element → window.currentLength = element.l
  | .failed _ _ => window.element = none
  | _ => window.currentLength = 0

/-- The invariant of the receiving end under all of its events. -/
structure WellFormed (cfg : MuxConfig) (receiver : StreamReceiver) : Prop where
  off_le : ∀ element, receiver.window.element = some element →
    receiver.window.off.toNat ≤ element.l.toNat
  reading : ReadingOk receiver.window receiver.reading
  size : Advertisable cfg (wordSize receiver.window.maxSizeDone)
  incomingSize : receiver.incoming.SizeOk cfg
  readingSize : receiver.reading.SizeOk cfg
  incomingUpdate : UpdateOk cfg receiver.incoming.update
  readingUpdate : UpdateOk cfg receiver.reading.update

def arrived : ReceiverEvent → Nat
  | .arrive bytes _ => bytes.length
  | _ => 0

/-- An event moves credit and, unless the window is closed afterwards, loses
none of it. -/
structure Flows (receiver after : StreamReceiver) (arrived : Nat) (update : Option UInt64) :
    Prop where
  le : after.credit + reported update ≤ receiver.credit + arrived
  eq : after.window.closeOp = false → after.credit + reported update = receiver.credit + arrived

/-- The invariant and the flow of an event, its update is permitted, a closed window stays
closed. -/
structure Keeps (cfg : MuxConfig) (receiver after : StreamReceiver) (arrived : Nat)
    (update : Option UInt64) : Prop where
  wellFormed : after.WellFormed cfg
  flows : Flows receiver after arrived update
  updateOk : UpdateOk cfg update
  closed : receiver.window.closeOp = true → after.window.closeOp = true

theorem new_wellFormed {cfg : MuxConfig} (normalized : cfg.Normalized) : new.WellFormed cfg where
  off_le := by
    intro _ isElement
    cases isElement
    rfl
  reading := trivial
  size := by
    have low := normalized.conn_ge
    have initial : wordSize new.window.maxSizeDone = 122550 := rfl
    rw [initial]
    exact ⟨by omega, low⟩
  incomingSize := trivial
  readingSize := trivial
  incomingUpdate := updateOk_none cfg
  readingUpdate := updateOk_none cfg

section Changes

variable {cfg : MuxConfig} {receiver after : StreamReceiver} {arrived : Nat}
  {update : Option UInt64} {element : ListElement} {call : ReadCall}

theorem Keeps.of_eq (wellFormed : after.WellFormed cfg)
    (moved : after.credit + reported update = receiver.credit + arrived)
    (updateOk : UpdateOk cfg update)
    (closed : receiver.window.closeOp = true → after.window.closeOp = true) :
    Keeps cfg receiver after arrived update :=
  ⟨wellFormed, ⟨le_of_eq moved, fun _ => moved⟩, updateOk, closed⟩

theorem Keeps.trans {middle : StreamReceiver} (first : Keeps cfg receiver middle 0 none)
    (second : Keeps cfg middle after 0 update) : Keeps cfg receiver after 0 update where
  wellFormed := second.wellFormed
  flows := by
    have firstLe := first.flows.le
    have secondLe := second.flows.le
    rw [reported_none] at firstLe
    refine ⟨by omega, ?_⟩
    intro isOpen
    have middleOpen : middle.window.closeOp = false := by
      cases isClosed : middle.window.closeOp with
      | false => rfl
      | true => rw [second.closed isClosed] at isOpen; cases isOpen
    have firstEq := first.flows.eq middleOpen
    have secondEq := second.flows.eq isOpen
    rw [reported_none] at firstEq
    omega
  updateOk := second.updateOk
  closed := fun isClosed => second.closed (first.closed isClosed)

theorem WellFormed.change (wellFormed : receiver.WellFormed cfg) {word : UInt64} {count : Int8}
    {buffered : UInt32} {incoming : Incoming} {reading : Reading}
    {returned : List UInt8} (size : Advertisable cfg (wordSize word))
    (readingOk : ReadingOk receiver.window reading) (incomingSize : incoming.SizeOk cfg)
    (readingSize : reading.SizeOk cfg) (incomingUpdate : UpdateOk cfg incoming.update)
    (readingUpdate : UpdateOk cfg reading.update) (updateOk : UpdateOk cfg update)
    (moved : incoming.length + (wordDone word + reading.length) +
        (reported incoming.update + reported reading.update) + reported update =
      receiver.incoming.length + receiver.unreported + receiver.reporting + arrived) :
    Keeps cfg receiver
      { receiver with
        window := { receiver.window with
          maxSizeDone := word, count := count, buffered := buffered }
        incoming := incoming
        reading := reading
        returned := returned } arrived update := by
  refine Keeps.of_eq
    { off_le := wellFormed.off_le
      reading := by cases reading <;> exact readingOk
      size := size
      incomingSize := incomingSize
      readingSize := readingSize
      incomingUpdate := incomingUpdate
      readingUpdate := readingUpdate } ?_ updateOk id
  have sameHeld : ({ receiver.window with
      maxSizeDone := word, count := count, buffered := buffered } : ReceiveWindow).held =
        receiver.window.held := rfl
  simp only [credit, unreported, reporting, sameHeld] at moved ⊢
  omega

theorem WellFormed.moveIncoming (wellFormed : receiver.WellFormed cfg) {incoming : Incoming}
    (incomingSize : incoming.SizeOk cfg)
    (incomingUpdate : UpdateOk cfg incoming.update) (updateOk : UpdateOk cfg update)
    (moved : incoming.length + reported incoming.update + reported update =
      receiver.incoming.length + reported receiver.incoming.update + arrived) :
    Keeps cfg receiver { receiver with incoming := incoming } arrived update := by
  refine wellFormed.change wellFormed.size wellFormed.reading incomingSize
    wellFormed.readingSize incomingUpdate wellFormed.readingUpdate updateOk ?_
  change _ + (wordDone receiver.window.maxSizeDone + _) + _ + _ = _
  simp only [unreported, reporting]
  omega

theorem WellFormed.moveReading (wellFormed : receiver.WellFormed cfg) {reading : Reading}
    {returned : List UInt8}
    (readingOk : ReadingOk receiver.window reading) (readingSize : reading.SizeOk cfg)
    (readingUpdate : UpdateOk cfg reading.update) (updateOk : UpdateOk cfg update)
    (moved : reading.length + reported reading.update + reported update =
      receiver.reading.length + reported receiver.reading.update) :
    Keeps cfg receiver { receiver with reading := reading, returned := returned } 0 update := by
  refine wellFormed.change wellFormed.size readingOk wellFormed.incomingSize readingSize
    wellFormed.incomingUpdate readingUpdate updateOk ?_
  change _ + (wordDone receiver.window.maxSizeDone + _) + _ + _ = _
  simp only [unreported, reporting]
  omega

section

variable (wellFormed : receiver.WellFormed cfg)

include wellFormed

theorem WellFormed.closeWindow (reading : Reading)
    (readingSize : reading.SizeOk cfg) (readingUpdate : UpdateOk cfg reading.update)
    (returned : List UInt8)
    (moved : reading.length + reported reading.update =
      receiver.reading.length + reported receiver.reading.update) :
    Keeps cfg receiver
      { receiver with
        window := receiver.window.closeWindow
        reading := reading
        returned := returned } 0 none := by
  have isClosed : receiver.window.closeWindow.closeOp = true := by
    rw [closeWindow_eq]
  have sameWord : receiver.window.closeWindow.maxSizeDone = receiver.window.maxSizeDone := by
    rw [closeWindow_eq]
  have noElement : receiver.window.closeWindow.element = none := by
    rw [closeWindow_eq]
  have noLength : receiver.window.closeWindow.currentLength = 0 := by
    rw [currentLength, noElement]
  refine ⟨{ wellFormed with
      off_le := by simp [closeWindow_eq]
      reading := by
        cases reading with
        | idle => trivial
        | looping => trivial
        | copying => simp [ReadingOk, noElement]
        | failed => exact noElement
        | _ => exact noLength
      size := by rw [sameWord]; exact wellFormed.size
      readingSize := readingSize
      readingUpdate := readingUpdate }, ⟨?_, ?_⟩, updateOk_none cfg, fun _ => isClosed⟩
  · simp only [credit, unreported, reporting, held_closeWindow, sameWord, reported_none]
    omega
  · intro isOpen
    rw [isClosed] at isOpen
    cases isOpen

theorem WellFormed.next {output : ReceiverOutput}
    (isNext : receiver.next element call = (after, output)) (noLength : receiver.reading.length = 0)
    (updateOk : UpdateOk cfg receiver.reading.update) :
    Keeps cfg receiver after 0 receiver.reading.update ∧ output.update = none := by
  have moved : 0 + reported none + reported receiver.reading.update =
      receiver.reading.length + reported receiver.reading.update := by
    rw [noLength, reported_none]
  rw [StreamReceiver.next] at isNext
  split_ifs at isNext
  · cases isNext
    exact ⟨wellFormed.moveReading trivial trivial (updateOk_none cfg) updateOk moved, rfl⟩
  · cases isNext
    exact ⟨wellFormed.moveReading trivial trivial (updateOk_none cfg) updateOk moved, rfl⟩

section

variable (isReading : receiver.reading = .copying call)

include isReading

theorem WellFormed.copying (isElement : receiver.window.element = some element) :
    receiver.window.currentLength = element.l := by
  have readingOk := wellFormed.reading
  rw [isReading] at readingOk
  exact readingOk element isElement

theorem WellFormed.held_copied (isElement : receiver.window.element = some element) :
    if (receiver.window.copy call.room).2.atEnd element then
      receiver.window.held = (receiver.window.copy call.room).2.held + element.l.toNat ∧
        (receiver.window.copy call.room).2.currentLength = 0
    else (receiver.window.copy call.room).2.held = receiver.window.held :=
  held_copy isElement (wellFormed.copying isReading isElement)
    (wellFormed.off_le element isElement) call.room

theorem WellFormed.copyInside (isElement : receiver.window.element = some element)
    (inside : ¬ (receiver.window.copy call.room).2.atEnd element = true) :
    Keeps cfg receiver { receiver with window := (receiver.window.copy call.room).2 } 0 none := by
  have offLe := wellFormed.off_le element isElement
  have offAfter := copy_off isElement offLe call.room
  have staysElement : (receiver.window.copy call.room).2.element = some element := isElement
  have sameWord : (receiver.window.copy call.room).2.maxSizeDone =
      receiver.window.maxSizeDone := rfl
  have held := wellFormed.held_copied isReading isElement
  rw [if_neg inside] at held
  refine Keeps.of_eq { wellFormed with
    off_le := ?_
    reading := ?_
    size := wellFormed.size } ?_ (updateOk_none cfg) id
  · intro _ isOther
    rw [staysElement] at isOther
    cases isOther
    exact offAfter
  · rw [isReading]
    intro _ isOther
    rw [staysElement] at isOther
    cases isOther
    exact currentLength_of_inside staysElement offAfter inside
  · simp only [credit, unreported, reporting, held, sameWord, reported_none]

theorem WellFormed.copyFinished (isElement : receiver.window.element = some element)
    (ended : (receiver.window.copy call.room).2.atEnd element = true) (copied : ReadCall) :
    Keeps cfg receiver
      { receiver with
        window := (receiver.window.copy call.room).2
        reading := .finished copied element.l } 0 none := by
  have offLe := wellFormed.off_le element isElement
  have staysElement : (receiver.window.copy call.room).2.element = some element := isElement
  have sameWord : (receiver.window.copy call.room).2.maxSizeDone =
      receiver.window.maxSizeDone := rfl
  have held := wellFormed.held_copied isReading isElement
  rw [if_pos ended] at held
  refine Keeps.of_eq { wellFormed with
    off_le := ?_
    reading := held.2
    size := wellFormed.size
    readingSize := trivial
    readingUpdate := updateOk_none cfg } ?_ (updateOk_none cfg) id
  · intro _ isOther
    rw [staysElement] at isOther
    cases isOther
    exact copy_off isElement offLe call.room
  · simp only [credit, unreported, reporting, isReading, Reading.length, Reading.update,
      held.1, sameWord, reported_none]
    omega

end

section

variable (isReading : receiver.reading = .popping call)

include isReading

theorem WellFormed.popping : receiver.window.currentLength = 0 := by
  have readingOk := wellFormed.reading
  rw [isReading] at readingOk
  exact readingOk

theorem WellFormed.popElement {window : ReceiveWindow}
    (popped : receiver.window.pop = .element element window) :
    Keeps cfg receiver
      { receiver with
        window := { window with element := some element, off := 0 }
        reading := .copying call } 0 none := by
  obtain ⟨sameHeld, whole⟩ := held_next (wellFormed.popping isReading) popped
  obtain ⟨sameWord, sameClosed⟩ : window.maxSizeDone = receiver.window.maxSizeDone ∧
      window.closeOp = receiver.window.closeOp := by
    obtain ⟨_, -, rfl⟩ := pop_eq_element popped
    exact ⟨rfl, rfl⟩
  refine Keeps.of_eq { wellFormed with
    off_le := ?_
    reading := ?_
    size := by rw [sameWord]; exact wellFormed.size
    readingSize := trivial
    readingUpdate := updateOk_none cfg } ?_ (updateOk_none cfg) (by rw [sameClosed]; exact id)
  · intro _ isOther
    cases isOther
    simp
  · intro _ isOther
    cases isOther
    exact whole
  · simp only [credit, unreported, reporting, isReading, Reading.length, Reading.update,
      sameHeld, reported_none]
    rw [sameWord]

theorem WellFormed.popNothing (error : ReadError) :
    Keeps cfg receiver
      { receiver with
        window := { receiver.window with element := none, off := 0 }
        reading := .failed call error } 0 none := by
  refine Keeps.of_eq { wellFormed with
    off_le := by simp
    reading := rfl
    readingSize := trivial
    readingUpdate := updateOk_none cfg } ?_ (updateOk_none cfg) id
  simp only [credit, unreported, reporting, isReading, Reading.length, Reading.update,
    held_dropElement (wellFormed.popping isReading), reported_none]

end

end

end Changes

end StreamReceiver

end DeepNps.Mux
