import DeepNps.MuxHeldBytes

/-!
# The receiving end of a stream

The session reader runs `receiveWindow.Write` for every segment, and the application runs
`Read`.  A window word is loaded, a decision is computed from it, and the word is replaced
if it has not changed; otherwise the thread loads it again.  Every load is an action of its
own: the effective size, the limit that `remainingSize` computes anew, the bytes in use.
The session counter belongs to all streams, hence the value of each load is an input.
-/

namespace DeepNps.Mux

/-- How far `receiveWindow.Write` has come with the segment that arrived. -/
inductive Incoming where
  | idle
  | entered (element : ListElement)
  | sized (element : ListElement)
  | loaded (element : ListElement) (word : UInt64)
  | bounded (element : ListElement) (word : UInt64) (maxSize : UInt32)
  | limited (element : ListElement) (word : UInt64) (maxSize limit : UInt32)
  | measured (element : ListElement) (word : UInt64) (maxSize remain : UInt32)
  | committed (element : ListElement) (update : Option UInt64)
  | reserved (element : ListElement) (update : Option UInt64)
  | pushed (update : Option UInt64)
  deriving DecidableEq

/-- A `Read` in progress: the bytes that still fit into the caller's buffer and
those that were copied to it. -/
structure ReadCall where
  room : Nat
  copied : List UInt8
  deriving DecidableEq

inductive ReadError where
  | eof
  | timeout
  deriving DecidableEq, Repr

/-- How far a `Read` has come.  `bounded` also records the session counter that
the size was computed from. -/
inductive Reading where
  | idle
  | looping (call : ReadCall)
  | popping (call : ReadCall)
  | copying (call : ReadCall)
  | finished (call : ReadCall) (l : UInt16)
  | released (call : ReadCall) (l : UInt16)
  | sized (call : ReadCall) (l : UInt16)
  | loaded (call : ReadCall) (l : UInt16) (word : UInt64)
  | bounded (call : ReadCall) (l : UInt16) (word : UInt64) (maxSize : UInt32) (queued : UInt64)
  | limited (call : ReadCall) (l : UInt16) (word : UInt64) (maxSize limit : UInt32)
  | measured (call : ReadCall) (l : UInt16) (word : UInt64) (maxSize remain : UInt32)
  | committed (call : ReadCall) (update : Option UInt64)
  | failed (call : ReadCall) (error : ReadError)
  deriving DecidableEq

/-- `delivered` and `returned` record the bytes queued and those that `Read` handed out. -/
structure StreamReceiver where
  window : ReceiveWindow
  incoming : Incoming
  reading : Reading
  deadline : Option Int
  delivered : List UInt8
  returned : List UInt8

inductive ReceiverEvent where
  | arrive (bytes : List UInt8) (part : Bool)
  | incomingSize (sample : SizeSample)
  | incomingLoad
  | incomingBound (queued : UInt64)
  | incomingLimit (queued : UInt64)
  | incomingRemain
  | incomingCommit
  | incomingReserve
  | incomingPush
  | incomingNotify
  | read (room : Nat)
  | loop
  | pop
  | expire (now : Int)
  | copy
  | release
  | statusSize (sample : SizeSample)
  | statusLoad
  | statusBound (queued : UInt64)
  | statusLimit (queued : UInt64)
  | statusRemain
  | statusCommit
  | statusNotify
  | fail
  | setDeadline (deadline : Option Int)
  | setPriority
  | stop
  | close

/-- A window update to send, the result of a `Read`, or the refusal of a segment. -/
structure ReceiverOutput where
  update : Option UInt64 := none
  result : Option (List UInt8 × Option ReadError) := none
  refused : Bool := false

namespace StreamReceiver

def new : StreamReceiver where
  window := ReceiveWindow.new
  incoming := .idle
  reading := .idle
  deadline := none
  delivered := []
  returned := []

/-- Go on while there is room and the `Write` that the segment was cut from goes on. -/
def next (receiver : StreamReceiver) (element : ListElement) (call : ReadCall) :
    StreamReceiver × ReceiverOutput :=
  if 0 < call.room ∧ element.part then ({ receiver with reading := .looping call }, {})
  else
    ({ receiver with reading := .idle, returned := receiver.returned ++ call.copied },
      { result := some (call.copied, none) })

def incomingStep (cfg : MuxConfig) (receiver : StreamReceiver) :
    ReceiverEvent → Option (StreamReceiver × ReceiverOutput)
  | .arrive bytes part =>
      match receiver.incoming with
      | .idle =>
          if receiver.window.closeOp then some (receiver, { refused := true })
          else
            match newListElement bytes (UInt16.ofNat bytes.length) part with
            | .error _ => some (receiver, { refused := true })
            | .ok element => some ({ receiver with incoming := .entered element }, {})
      | _ => none
  | .incomingSize sample =>
      match receiver.incoming with
      | .entered element => some
          ({ receiver with
              window := receiver.window.calcSize cfg sample
              incoming := .sized element }, {})
      | _ => none
  | .incomingLoad =>
      match receiver.incoming with
      | .sized element => some
          ({ receiver with incoming := .loaded element receiver.window.maxSizeDone }, {})
      | _ => none
  | .incomingBound queued =>
      match receiver.incoming with
      | .loaded element word =>
          let maxSize := effectiveMaxSize cfg queued receiver.window.buffered (unpack word).maxSize
          some ({ receiver with incoming := .bounded element word maxSize }, {})
      | _ => none
  | .incomingLimit queued =>
      match receiver.incoming with
      | .bounded element word maxSize =>
          let limit := effectiveMaxSize cfg queued receiver.window.buffered maxSize
          some ({ receiver with incoming := .limited element word maxSize limit }, {})
      | _ => none
  | .incomingRemain =>
      match receiver.incoming with
      | .limited element word maxSize limit =>
          let remain := unusedSize limit receiver.window.buffered element.l
          some ({ receiver with incoming := .measured element word maxSize remain }, {})
      | _ => none
  | .incomingCommit =>
      match receiver.incoming with
      | .measured element word maxSize remain =>
          if receiver.window.maxSizeDone = word then
            let (newWord, update) := ReceiveWindow.writeWord word maxSize remain
            some
              ({ receiver with
                  window := { receiver.window with maxSizeDone := newWord }
                  incoming := .committed element update }, {})
          else some ({ receiver with incoming := .sized element }, {})
      | _ => none
  | .incomingReserve =>
      match receiver.incoming with
      | .committed element update => some
          ({ receiver with
              window := receiver.window.reserveBytes element.l
              incoming := .reserved element update }, {})
      | _ => none
  | .incomingPush =>
      match receiver.incoming with
      | .reserved element update => some
          ({ receiver with
              window := receiver.window.push element
              incoming := .pushed update
              delivered := receiver.delivered ++ element.bytes }, {})
      | _ => none
  | .incomingNotify =>
      match receiver.incoming with
      | .pushed update => some ({ receiver with incoming := .idle }, { update := update })
      | _ => none
  | _ => none

def readStep (receiver : StreamReceiver) : ReceiverEvent → Option (StreamReceiver × ReceiverOutput)
  | .read room =>
      match receiver.reading with
      | .idle =>
          if room = 0 then none
          else if receiver.window.closeOp then some (receiver, { result := some ([], some .eof) })
          else some ({ receiver with reading := .looping ⟨room, []⟩ }, {})
      | _ => none
  | .loop =>
      match receiver.reading, receiver.window.element with
      | .looping call, some element =>
          if receiver.window.atEnd element then
            if receiver.window.closeOp then some
              ({ receiver with reading := .idle }, { result := some ([], some .eof) })
            else some ({ receiver with reading := .popping call }, {})
          else some ({ receiver with reading := .copying call }, {})
      | _, _ => none
  | .pop =>
      match receiver.reading with
      | .popping call =>
          match receiver.window.pop with
          | .element element window => some
              ({ receiver with
                  window := { window with element := some element, off := 0 }
                  reading := .copying call }, {})
          | .wait => none
          | .eof => some
              ({ receiver with
                  window := { receiver.window with element := none, off := 0 }
                  reading := .failed call .eof }, {})
      | _ => none
  | .expire now =>
      match receiver.reading, receiver.deadline with
      | .popping call, some deadline =>
          if receiver.window.queueLength = 0 ∧ deadline ≤ now then some
            ({ receiver with
                window := { receiver.window with element := none, off := 0 }
                reading := .failed call .timeout }, {})
          else none
      | _, _ => none
  | .copy =>
      match receiver.reading, receiver.window.element with
      | .copying call, some element =>
          let (bytes, window) := receiver.window.copy call.room
          let call : ReadCall := ⟨call.room - bytes.length, call.copied ++ bytes⟩
          let receiver := { receiver with window := window }
          if window.atEnd element then
            some ({ receiver with reading := .finished call element.l }, {})
          else some (receiver.next element call)
      | _, _ => none
  | .fail =>
      match receiver.reading with
      | .failed call error => some
          ({ receiver with
              window := receiver.window.closeWindow
              reading := .idle
              returned := receiver.returned ++ call.copied },
            { result := some (call.copied, some error) })
      | _ => none
  | _ => none

def statusStep (cfg : MuxConfig) (receiver : StreamReceiver) :
    ReceiverEvent → Option (StreamReceiver × ReceiverOutput)
  | .release =>
      match receiver.reading with
      | .finished call l => some
          ({ receiver with
              window := receiver.window.releaseBytes l
              reading := .released call l }, {})
      | _ => none
  | .statusSize sample =>
      match receiver.reading with
      | .released call l => some
          ({ receiver with
              window := receiver.window.calcSize cfg sample
              reading := .sized call l }, {})
      | _ => none
  | .statusLoad =>
      match receiver.reading with
      | .sized call l => some
          ({ receiver with reading := .loaded call l receiver.window.maxSizeDone }, {})
      | _ => none
  | .statusBound queued =>
      match receiver.reading with
      | .loaded call l word =>
          let maxSize := effectiveMaxSize cfg queued receiver.window.buffered (unpack word).maxSize
          some ({ receiver with reading := .bounded call l word maxSize queued }, {})
      | _ => none
  | .statusLimit queued =>
      match receiver.reading with
      | .bounded call l word maxSize _ =>
          let limit := effectiveMaxSize cfg queued receiver.window.buffered maxSize
          some ({ receiver with reading := .limited call l word maxSize limit }, {})
      | _ => none
  | .statusRemain =>
      match receiver.reading with
      | .limited call l word maxSize limit =>
          let remain := unusedSize limit receiver.window.buffered 0
          some ({ receiver with reading := .measured call l word maxSize remain }, {})
      | _ => none
  | .statusCommit =>
      match receiver.reading with
      | .measured call l word maxSize remain =>
          if receiver.window.maxSizeDone = word then
            let (newWord, update) := ReceiveWindow.statusWord word maxSize remain l
            some
              ({ receiver with
                  window := { receiver.window with maxSizeDone := newWord }
                  reading := .committed call update }, {})
          else some ({ receiver with reading := .sized call l }, {})
      | _ => none
  | .statusNotify =>
      match receiver.reading, receiver.window.element with
      | .committed call update, some element =>
          let (receiver, output) := receiver.next element call
          some (receiver, { output with update := update })
      | _, _ => none
  | _ => none

def controlStep (receiver : StreamReceiver) :
    ReceiverEvent → Option (StreamReceiver × ReceiverOutput)
  | .setDeadline deadline => some ({ receiver with deadline := deadline }, {})
  | .setPriority => some ({ receiver with window := { receiver.window with priority := true } }, {})
  | .stop => some ({ receiver with window := receiver.window.stop }, {})
  | .close => some ({ receiver with window := receiver.window.closeWindow }, {})
  | _ => none

def step (cfg : MuxConfig) (receiver : StreamReceiver) (event : ReceiverEvent) :
    Option (StreamReceiver × ReceiverOutput) :=
  (receiver.incomingStep cfg event).or
    ((receiver.readStep event).or ((receiver.statusStep cfg event).or (receiver.controlStep event)))

/-- The transitions of the receiving end, one constructor for each way in which
an event can go. -/
inductive Steps (cfg : MuxConfig) (receiver : StreamReceiver) :
    ReceiverEvent → StreamReceiver → ReceiverOutput → Prop
  | arriveRefused (bytes : List UInt8) (part : Bool) (isIncoming : receiver.incoming = .idle)
      (isClosed : receiver.window.closeOp = true) :
      Steps cfg receiver (.arrive bytes part) receiver { refused := true }
  | arrive (bytes : List UInt8) (part : Bool) (isIncoming : receiver.incoming = .idle)
      (isOpen : receiver.window.closeOp = false) :
      Steps cfg receiver (.arrive bytes part)
        { receiver with incoming := .entered ⟨bytes, UInt16.ofNat bytes.length, part⟩ } {}
  | incomingSize (sample : SizeSample) (element : ListElement)
      (isIncoming : receiver.incoming = .entered element) :
      Steps cfg receiver (.incomingSize sample)
        { receiver with
          window := receiver.window.calcSize cfg sample
          incoming := .sized element } {}
  | incomingLoad (element : ListElement) (isIncoming : receiver.incoming = .sized element) :
      Steps cfg receiver .incomingLoad
        { receiver with incoming := .loaded element receiver.window.maxSizeDone } {}
  | incomingBound (queued : UInt64) (element : ListElement) (word : UInt64)
      (isIncoming : receiver.incoming = .loaded element word) :
      Steps cfg receiver (.incomingBound queued)
        { receiver with
          incoming := .bounded element word
            (effectiveMaxSize cfg queued receiver.window.buffered (unpack word).maxSize) } {}
  | incomingLimit (queued : UInt64) (element : ListElement) (word : UInt64) (maxSize : UInt32)
      (isIncoming : receiver.incoming = .bounded element word maxSize) :
      Steps cfg receiver (.incomingLimit queued)
        { receiver with
          incoming := .limited element word maxSize
            (effectiveMaxSize cfg queued receiver.window.buffered maxSize) } {}
  | incomingRemain (element : ListElement) (word : UInt64) (maxSize limit : UInt32)
      (isIncoming : receiver.incoming = .limited element word maxSize limit) :
      Steps cfg receiver .incomingRemain
        { receiver with
          incoming := .measured element word maxSize
            (unusedSize limit receiver.window.buffered element.l) } {}
  | incomingCommit (element : ListElement) (maxSize remain : UInt32)
      (isIncoming : receiver.incoming =
        .measured element receiver.window.maxSizeDone maxSize remain)
      (result : UInt64 × Option UInt64)
      (isResult : result = ReceiveWindow.writeWord receiver.window.maxSizeDone maxSize remain) :
      Steps cfg receiver .incomingCommit
        { receiver with
          window := { receiver.window with maxSizeDone := result.1 }
          incoming := .committed element result.2 } {}
  | incomingRetry (element : ListElement) (word : UInt64) (maxSize remain : UInt32)
      (isIncoming : receiver.incoming = .measured element word maxSize remain) :
      Steps cfg receiver .incomingCommit { receiver with incoming := .sized element } {}
  | incomingReserve (element : ListElement) (update : Option UInt64)
      (isIncoming : receiver.incoming = .committed element update) :
      Steps cfg receiver .incomingReserve
        { receiver with
          window := receiver.window.reserveBytes element.l
          incoming := .reserved element update } {}
  | incomingPush (element : ListElement) (update : Option UInt64)
      (isIncoming : receiver.incoming = .reserved element update) :
      Steps cfg receiver .incomingPush
        { receiver with
          window := receiver.window.push element
          incoming := .pushed update
          delivered := receiver.delivered ++ element.bytes } {}
  | incomingNotify (update : Option UInt64) (isIncoming : receiver.incoming = .pushed update) :
      Steps cfg receiver .incomingNotify { receiver with incoming := .idle } { update := update }
  | readClosed (room : Nat) (isReading : receiver.reading = .idle)
      (isClosed : receiver.window.closeOp = true) :
      Steps cfg receiver (.read room) receiver { result := some ([], some .eof) }
  | read (room : Nat) (positive : room ≠ 0) (isReading : receiver.reading = .idle)
      (isOpen : receiver.window.closeOp = false) :
      Steps cfg receiver (.read room) { receiver with reading := .looping ⟨room, []⟩ } {}
  | loopClosed (call : ReadCall) (isReading : receiver.reading = .looping call)
      (isClosed : receiver.window.closeOp = true) :
      Steps cfg receiver .loop { receiver with reading := .idle } { result := some ([], some .eof) }
  | loopPop (call : ReadCall) (element : ListElement) (isReading : receiver.reading = .looping call)
      (isElement : receiver.window.element = some element)
      (ended : receiver.window.atEnd element = true) (isOpen : receiver.window.closeOp = false) :
      Steps cfg receiver .loop { receiver with reading := .popping call } {}
  | loopCopy (call : ReadCall) (element : ListElement)
      (isReading : receiver.reading = .looping call)
      (isElement : receiver.window.element = some element)
      (inside : ¬ receiver.window.atEnd element = true) :
      Steps cfg receiver .loop { receiver with reading := .copying call } {}
  | popElement (call : ReadCall) (element : ListElement) (window : ReceiveWindow)
      (isReading : receiver.reading = .popping call)
      (popped : receiver.window.pop = .element element window) :
      Steps cfg receiver .pop
        { receiver with
          window := { window with element := some element, off := 0 }
          reading := .copying call } {}
  | popEof (call : ReadCall) (isReading : receiver.reading = .popping call)
      (popped : receiver.window.pop = .eof) :
      Steps cfg receiver .pop
        { receiver with
          window := { receiver.window with element := none, off := 0 }
          reading := .failed call .eof } {}
  | expire (now : Int) (call : ReadCall) (deadline : Int)
      (isReading : receiver.reading = .popping call)
      (isDeadline : receiver.deadline = some deadline) (due : deadline ≤ now)
      (isEmpty : receiver.window.queueLength = 0) :
      Steps cfg receiver (.expire now)
        { receiver with
          window := { receiver.window with element := none, off := 0 }
          reading := .failed call .timeout } {}
  | copyFinished (call : ReadCall) (element : ListElement)
      (isReading : receiver.reading = .copying call)
      (isElement : receiver.window.element = some element)
      (ended : (receiver.window.copy call.room).2.atEnd element = true) :
      Steps cfg receiver .copy
        { receiver with
          window := (receiver.window.copy call.room).2
          reading := .finished ⟨call.room - (receiver.window.copy call.room).1.length,
            call.copied ++ (receiver.window.copy call.room).1⟩ element.l } {}
  | copyNext (call : ReadCall) (element : ListElement)
      (isReading : receiver.reading = .copying call)
      (isElement : receiver.window.element = some element)
      (inside : ¬ (receiver.window.copy call.room).2.atEnd element = true)
      (after : StreamReceiver) (output : ReceiverOutput)
      (isNext : { receiver with window := (receiver.window.copy call.room).2 }.next element
        ⟨call.room - (receiver.window.copy call.room).1.length,
          call.copied ++ (receiver.window.copy call.room).1⟩ = (after, output)) :
      Steps cfg receiver .copy after output
  | fail (call : ReadCall) (error : ReadError) (isReading : receiver.reading = .failed call error) :
      Steps cfg receiver .fail
        { receiver with
          window := receiver.window.closeWindow
          reading := .idle
          returned := receiver.returned ++ call.copied }
        { result := some (call.copied, some error) }
  | release (call : ReadCall) (l : UInt16) (isReading : receiver.reading = .finished call l) :
      Steps cfg receiver .release
        { receiver with
          window := receiver.window.releaseBytes l
          reading := .released call l } {}
  | statusSize (sample : SizeSample) (call : ReadCall) (l : UInt16)
      (isReading : receiver.reading = .released call l) :
      Steps cfg receiver (.statusSize sample)
        { receiver with
          window := receiver.window.calcSize cfg sample
          reading := .sized call l } {}
  | statusLoad (call : ReadCall) (l : UInt16) (isReading : receiver.reading = .sized call l) :
      Steps cfg receiver .statusLoad
        { receiver with reading := .loaded call l receiver.window.maxSizeDone } {}
  | statusBound (queued : UInt64) (call : ReadCall) (l : UInt16) (word : UInt64)
      (isReading : receiver.reading = .loaded call l word) :
      Steps cfg receiver (.statusBound queued)
        { receiver with
          reading := .bounded call l word
            (effectiveMaxSize cfg queued receiver.window.buffered (unpack word).maxSize) queued } {}
  | statusLimit (queued : UInt64) (call : ReadCall) (l : UInt16) (word : UInt64)
      (maxSize : UInt32) (boundQueued : UInt64)
      (isReading : receiver.reading = .bounded call l word maxSize boundQueued) :
      Steps cfg receiver (.statusLimit queued)
        { receiver with
          reading := .limited call l word maxSize
            (effectiveMaxSize cfg queued receiver.window.buffered maxSize) } {}
  | statusRemain (call : ReadCall) (l : UInt16) (word : UInt64) (maxSize limit : UInt32)
      (isReading : receiver.reading = .limited call l word maxSize limit) :
      Steps cfg receiver .statusRemain
        { receiver with
          reading := .measured call l word maxSize
            (unusedSize limit receiver.window.buffered 0) } {}
  | statusCommit (call : ReadCall) (l : UInt16) (maxSize remain : UInt32)
      (isReading : receiver.reading = .measured call l receiver.window.maxSizeDone maxSize remain)
      (result : UInt64 × Option UInt64)
      (isResult : result = ReceiveWindow.statusWord receiver.window.maxSizeDone maxSize remain l) :
      Steps cfg receiver .statusCommit
        { receiver with
          window := { receiver.window with maxSizeDone := result.1 }
          reading := .committed call result.2 } {}
  | statusRetry (call : ReadCall) (l : UInt16) (word : UInt64) (maxSize remain : UInt32)
      (isReading : receiver.reading = .measured call l word maxSize remain) :
      Steps cfg receiver .statusCommit { receiver with reading := .sized call l } {}
  | statusNotify (call : ReadCall) (update : Option UInt64) (element : ListElement)
      (isReading : receiver.reading = .committed call update)
      (isElement : receiver.window.element = some element)
      (after : StreamReceiver) (output : ReceiverOutput)
      (isNext : receiver.next element call = (after, output)) :
      Steps cfg receiver .statusNotify after { output with update := update }
  | setDeadline (deadline : Option Int) :
      Steps cfg receiver (.setDeadline deadline) { receiver with deadline := deadline } {}
  | setPriority :
      Steps cfg receiver .setPriority
        { receiver with window := { receiver.window with priority := true } } {}
  | stop : Steps cfg receiver .stop { receiver with window := receiver.window.stop } {}
  | close : Steps cfg receiver .close { receiver with window := receiver.window.closeWindow } {}

section Inversion

variable {cfg : MuxConfig} {receiver after : StreamReceiver} {output : ReceiverOutput}
  {event : ReceiverEvent}

theorem steps_of_incomingStep : receiver.incomingStep cfg event = some (after, output) →
    Steps cfg receiver event after output := by
  fun_cases incomingStep cfg receiver event with
  | case1 bytes part isIncoming isClosed =>
    rintro ⟨⟩
    exact .arriveRefused bytes part isIncoming isClosed
  | case2 _ _ _ _ _ isError =>
    -- A segment is never longer than its own length.
    simp [newListElement] at isError
  | case3 bytes part isIncoming isOpen _ isElement =>
    simp only [newListElement, UInt16.lt_irrefl, if_false] at isElement
    cases isElement
    rintro ⟨⟩
    exact .arrive bytes part isIncoming (by simpa using isOpen)
  | case5 sample element isIncoming =>
    rintro ⟨⟩
    exact .incomingSize sample element isIncoming
  | case7 element isIncoming =>
    rintro ⟨⟩
    exact .incomingLoad element isIncoming
  | case9 queued element word isIncoming =>
    rintro ⟨⟩
    exact .incomingBound queued element word isIncoming
  | case11 queued element word maxSize isIncoming =>
    rintro ⟨⟩
    exact .incomingLimit queued element word maxSize isIncoming
  | case13 element word maxSize limit isIncoming =>
    rintro ⟨⟩
    exact .incomingRemain element word maxSize limit isIncoming
  | case15 element maxSize remain word update isIncoming isWord =>
    rintro ⟨⟩
    exact .incomingCommit element maxSize remain isIncoming (word, update) isWord.symm
  | case16 element word maxSize remain isIncoming =>
    rintro ⟨⟩
    exact .incomingRetry element word maxSize remain isIncoming
  | case18 element update isIncoming =>
    rintro ⟨⟩
    exact .incomingReserve element update isIncoming
  | case20 element update isIncoming =>
    rintro ⟨⟩
    exact .incomingPush element update isIncoming
  | case22 update isIncoming =>
    rintro ⟨⟩
    exact .incomingNotify update isIncoming
  | _ => rintro ⟨⟩

theorem steps_of_readStep : receiver.readStep event = some (after, output) →
    Steps cfg receiver event after output := by
  fun_cases readStep receiver event with
  | case2 room isReading _ isClosed =>
    rintro ⟨⟩
    exact .readClosed room isReading isClosed
  | case3 room isReading positive isOpen =>
    rintro ⟨⟩
    exact .read room positive isReading (by simpa using isOpen)
  | case5 call _ _ isReading _ isClosed =>
    rintro ⟨⟩
    exact .loopClosed call isReading isClosed
  | case6 call element isElement isReading ended isOpen =>
    rintro ⟨⟩
    exact .loopPop call element isReading isElement ended (by simpa using isOpen)
  | case7 call element isElement isReading inside =>
    rintro ⟨⟩
    exact .loopCopy call element isReading isElement inside
  | case9 call isReading element window popped =>
    rintro ⟨⟩
    exact .popElement call element window isReading popped
  | case11 call isReading popped =>
    rintro ⟨⟩
    exact .popEof call isReading popped
  | case13 now call deadline isDeadline isReading due =>
    rintro ⟨⟩
    exact .expire now call deadline isReading isDeadline due.2 due.1
  | case16 call element isElement isReading _ window copied _ _ ended =>
    have ended : (receiver.window.copy call.room).2.atEnd element = true := by rwa [copied]
    have finished : Steps cfg receiver .copy _ _ :=
      .copyFinished call element isReading isElement ended
    rintro ⟨⟩
    rwa [copied] at finished
  | case17 call element isElement isReading _ _ copied =>
    intro isNext
    refine .copyNext call element isReading isElement (by rwa [copied]) after output ?_
    rw [copied]
    exact Option.some.inj isNext
  | case19 call error isReading =>
    rintro ⟨⟩
    exact .fail call error isReading
  | _ => rintro ⟨⟩

theorem steps_of_statusStep : receiver.statusStep cfg event = some (after, output) →
    Steps cfg receiver event after output := by
  fun_cases statusStep cfg receiver event with
  | case1 call l isReading =>
    rintro ⟨⟩
    exact .release call l isReading
  | case3 sample call l isReading =>
    rintro ⟨⟩
    exact .statusSize sample call l isReading
  | case5 call l isReading =>
    rintro ⟨⟩
    exact .statusLoad call l isReading
  | case7 queued call l word isReading =>
    rintro ⟨⟩
    exact .statusBound queued call l word isReading
  | case9 queued call l word maxSize boundQueued isReading =>
    rintro ⟨⟩
    exact .statusLimit queued call l word maxSize boundQueued isReading
  | case11 call l word maxSize limit isReading =>
    rintro ⟨⟩
    exact .statusRemain call l word maxSize limit isReading
  | case13 call l maxSize remain word update isReading isWord =>
    rintro ⟨⟩
    exact .statusCommit call l maxSize remain isReading (word, update) isWord.symm
  | case14 call l word maxSize remain isReading =>
    rintro ⟨⟩
    exact .statusRetry call l word maxSize remain isReading
  | case16 call update element isElement isReading _ _ isNext =>
    rintro ⟨⟩
    exact .statusNotify call update element isReading isElement _ _ isNext
  | _ => rintro ⟨⟩

theorem steps_of_step (stepEq : receiver.step cfg event = some (after, output)) :
    Steps cfg receiver event after output := by
  rcases Option.or_eq_some_iff.mp stepEq with incoming | ⟨-, stepEq⟩
  · exact steps_of_incomingStep incoming
  rcases Option.or_eq_some_iff.mp stepEq with read | ⟨-, stepEq⟩
  · exact steps_of_readStep read
  rcases Option.or_eq_some_iff.mp stepEq with status | ⟨-, control⟩
  · exact steps_of_statusStep status
  · cases event with
    | setDeadline deadline =>
      cases control
      exact .setDeadline deadline
    | setPriority =>
      cases control
      exact .setPriority
    | stop =>
      cases control
      exact .stop
    | close =>
      cases control
      exact .close
    | _ => simp [controlStep] at control

end Inversion

end StreamReceiver

end DeepNps.Mux
