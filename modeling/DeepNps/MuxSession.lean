import DeepNps.MuxEndpointQueue
import DeepNps.TwoParty

/-!
# Two endpoints over a transport

The session writer packs the next frame of the write queue onto the transport, a reliable
ordered byte stream, and the reader of the peer unpacks it.  The codec is a parameter: a
session over bytes behaves as one over frames.
-/

namespace DeepNps.Mux

open Option List

/-- How a frame is put onto a transport, and how the next one is taken off it, if it is
complete. -/
structure Carrier (Wire : Type) where
  empty : Wire
  emit : Wire → MuxPackager → Wire
  take : Wire → Option (Except String MuxPackager × Wire)

def byteCarrier : Carrier (List UInt8) where
  empty := []
  emit := fun wire packager => wire ++ packager.pack
  take := MuxPackager.unPack

def frameCarrier : Carrier (List MuxPackager) where
  empty := []
  emit := fun wire packager => wire ++ [packager.onWire]
  take
    | [] => none
    | packager :: wire => some (.ok packager, wire)

/-- `wires.get side` is on its way from `side` to its peer. -/
structure Session (Wire : Type) where
  ends : Both Endpoint
  wires : Both Wire

/-- An action of one endpoint, its session writer, or its session reader. -/
inductive SessionEvent where
  | act (side : Side) (event : EndpointEvent)
  | transmit (side : Side)
  | receive (side : Side)

namespace Session

variable {Wire : Type}

def new (carrier : Carrier Wire) : Session Wire where
  ends := { left := Endpoint.new true, right := Endpoint.new false }
  wires := { left := carrier.empty, right := carrier.empty }

def step (carrier : Carrier Wire) (cfg : MuxConfig) (session : Session Wire) :
    SessionEvent → Option (Session Wire)
  | .act side event =>
      ((session.ends.get side).step cfg event).map fun endpoint =>
        { session with ends := session.ends.set side endpoint }
  | .transmit side =>
      match (session.ends.get side).writeQueue.tryPop with
      | (none, _) => none
      | (some packager, queue) => some
          { ends := session.ends.set side { session.ends.get side with writeQueue := queue }
            wires := session.wires.set side (carrier.emit (session.wires.get side) packager) }
  | .receive side =>
      (carrier.take (session.wires.get side.other)).bind fun (packager, wire) =>
        let session := { session with wires := session.wires.set side.other wire }
        match packager with
        | .error _ => some
            { session with ends := session.ends.set side (session.ends.get side).closeMux }
        | .ok packager =>
            ((session.ends.get side).handle cfg packager).map fun endpoint =>
              { session with ends := session.ends.set side endpoint }

end Session

abbrev FrameSession := Session (List MuxPackager)

abbrev ByteSession := Session (List UInt8)

namespace Session

inductive Steps (cfg : MuxConfig) (session : FrameSession) : SessionEvent → FrameSession → Prop
  | act (side : Side) (event : EndpointEvent) (after : Endpoint)
      (steps : (session.ends.get side).Steps cfg event after) :
      Steps cfg session (.act side event) { session with ends := session.ends.set side after }
  | transmit (side : Side) (packager : MuxPackager) (queue : PriorityQueue)
      (popped : (session.ends.get side).writeQueue.tryPop = (some packager, queue)) :
      Steps cfg session (.transmit side)
        { ends := session.ends.set side { session.ends.get side with writeQueue := queue }
          wires := session.wires.set side (session.wires.get side ++ [packager.onWire]) }
  | receive (side : Side) (packager : MuxPackager) (wire : List MuxPackager)
      (isWire : session.wires.get side.other = packager :: wire)
      (isIdle : (session.ends.get side).reader = .idle) (after : Endpoint)
      (handles : (session.ends.get side).Handles cfg packager after) :
      Steps cfg session (.receive side)
        { ends := session.ends.set side after
          wires := session.wires.set side.other wire }

section Inversion

variable {cfg : MuxConfig} {session next : FrameSession}

theorem steps_of_step {event : SessionEvent}
    (stepEq : session.step frameCarrier cfg event = some next) : Steps cfg session event next := by
  cases event with
  | act side event =>
    obtain ⟨after, isAfter, rfl⟩ := map_eq_some_iff.mp stepEq
    exact .act side event after (Endpoint.steps_of_step isAfter)
  | transmit side =>
    simp only [step] at stepEq
    generalize popped : (session.ends.get side).writeQueue.tryPop = outcome at stepEq
    obtain ⟨packager, queue⟩ := outcome
    cases packager with
    | none => cases stepEq
    | some packager =>
      cases stepEq
      exact .transmit side packager queue popped
  | receive side =>
    simp only [step] at stepEq
    cases isWire : session.wires.get side.other with
    | nil => simp [isWire, frameCarrier] at stepEq
    | cons packager wire =>
      simp only [isWire, frameCarrier, bind_some] at stepEq
      obtain ⟨after, isAfter, rfl⟩ := map_eq_some_iff.mp stepEq
      obtain ⟨isIdle, handles⟩ := Endpoint.handles_of_handle isAfter
      exact .receive side packager wire isWire isIdle after handles

end Inversion

def QueuesOk {Wire : Type} (session : Session Wire) : Prop :=
  ∀ side, (session.ends.get side).QueueOk

theorem QueuesOk.steps {cfg : MuxConfig} {session next : FrameSession}
    (queuesOk : session.QueuesOk) {event : SessionEvent} (steps : Steps cfg session event next) :
    next.QueuesOk := by
  cases steps with
  | act side _ _ steps => exact Both.forall_set ((queuesOk side).steps steps) (queuesOk side.other)
  | transmit side _ _ popped =>
    exact Both.forall_set ((queuesOk side).tryPop popped).2.2 (queuesOk side.other)
  | receive side _ _ _ _ _ handles =>
    exact Both.forall_set ((queuesOk side).handles handles) (queuesOk side.other)

end Session

/-- The bytes are the packed frames. -/
structure WireEncodes (bytes : List UInt8) (frames : List MuxPackager) : Prop where
  packed : bytes = frames.flatMap MuxPackager.pack
  encodable : ∀ packager ∈ frames, packager.Encodable
  onWire : ∀ packager ∈ frames, packager.onWire = packager

/-- A session over bytes and one over frames with the same endpoints: the bytes on
the way are the packed frames. -/
structure Encodes (bytes : ByteSession) (frames : FrameSession) : Prop where
  ends : bytes.ends = frames.ends
  wires : ∀ side, WireEncodes (bytes.wires.get side) (frames.wires.get side)

theorem new_encodes : Encodes (Session.new byteCarrier) (Session.new frameCarrier) where
  ends := rfl
  wires := by
    intro side
    cases side <;> exact ⟨rfl, by simp [Session.new, frameCarrier, Both.get],
      by simp [Session.new, frameCarrier, Both.get]⟩

section Simulation

variable {cfg : MuxConfig} {bytes bytesNext : ByteSession} {frames : FrameSession}

theorem WireEncodes.emit {bytes : List UInt8} {frames : List MuxPackager}
    (encodes : WireEncodes bytes frames) {packager : MuxPackager}
    (encodable : packager.Encodable) :
    WireEncodes (byteCarrier.emit bytes packager) (frameCarrier.emit frames packager) where
  packed := by
    simp only [byteCarrier, frameCarrier, flatMap_append, encodes.packed]
    simp [MuxPackager.pack, MuxPackager.onWire]
  encodable := by
    intro other isMember
    rcases mem_append.mp isMember with isMember | isMember
    · exact encodes.encodable other isMember
    · rw [mem_singleton.mp isMember]
      exact ⟨encodable.content_le, encodable.noContent, encodable.noWindow⟩
  onWire := by
    intro other isMember
    rcases mem_append.mp isMember with isMember | isMember
    · exact encodes.onWire other isMember
    · rw [mem_singleton.mp isMember]
      rfl

theorem WireEncodes.take {bytes rest : List UInt8} {frames : List MuxPackager}
    (encodes : WireEncodes bytes frames) {found : Except String MuxPackager}
    (taken : byteCarrier.take bytes = some (found, rest)) :
    ∃ packager wire, frames = packager :: wire ∧ found = .ok packager ∧ WireEncodes rest wire := by
  obtain ⟨packed, encodable, onWire⟩ := encodes
  cases frames with
  | nil =>
    rw [packed] at taken
    cases taken
  | cons packager wire =>
    have front := MuxPackager.unPack_pack_append (encodable packager mem_cons_self)
      (wire.flatMap MuxPackager.pack)
    rw [onWire packager mem_cons_self] at front
    rw [packed, flatMap_cons] at taken
    cases front.symm.trans taken
    exact ⟨packager, wire, rfl, rfl, rfl,
      fun other isMember => encodable other (mem_cons_of_mem _ isMember),
      fun other isMember => onWire other (mem_cons_of_mem _ isMember)⟩

theorem Encodes.step (encodes : Encodes bytes frames) (queuesOk : frames.QueuesOk)
    {event : SessionEvent} (stepEq : bytes.step byteCarrier cfg event = some bytesNext) :
    ∃ framesNext, frames.step frameCarrier cfg event = some framesNext ∧
      Encodes bytesNext framesNext := by
  obtain ⟨sameEnds, wires⟩ := encodes
  cases event with
  | act side =>
    obtain ⟨after, isAfter, rfl⟩ := map_eq_some_iff.mp stepEq
    rw [sameEnds] at isAfter
    refine ⟨{ frames with ends := frames.ends.set side after }, ?_, by rw [sameEnds], wires⟩
    simp only [Session.step, isAfter, map_some]
  | transmit side =>
    simp only [Session.step, sameEnds] at stepEq
    generalize popped : (frames.ends.get side).writeQueue.tryPop = outcome at stepEq
    obtain ⟨packager, queue⟩ := outcome
    cases packager with
    | none => cases stepEq
    | some packager =>
      cases stepEq
      have encodable := ((queuesOk side).tryPop popped).2.1
      refine ⟨{ ends := frames.ends.set side { frames.ends.get side with writeQueue := queue }
                wires := frames.wires.set side
                  (frameCarrier.emit (frames.wires.get side) packager) }, ?_, rfl, ?_⟩
      · simp only [Session.step, popped]
      · exact Both.forall_set_set wires ((wires side).emit encodable)
  | receive side =>
    obtain ⟨⟨found, rest⟩, taken, stepEq⟩ := bind_eq_some_iff.mp stepEq
    obtain ⟨_, wire, isWire, rfl, encodesRest⟩ := (wires side.other).take taken
    obtain ⟨after, isAfter, rfl⟩ := map_eq_some_iff.mp stepEq
    simp only [sameEnds] at isAfter
    refine ⟨{ ends := frames.ends.set side after
              wires := frames.wires.set side.other wire }, ?_, by simp only [sameEnds], ?_⟩
    · simp only [Session.step, isWire, frameCarrier, bind_some, isAfter, map_some]
    · exact Both.forall_set_set wires encodesRest

theorem encodes_of_meets {allowed : ByteSession → SessionEvent → Prop}
    {invariant : FrameSession → Prop}
    (queues : ∀ frames, invariant frames → frames.QueuesOk)
    (preserved : ∀ bytes frames event next, Encodes bytes frames → invariant frames →
      allowed bytes event → Session.Steps cfg frames event next → invariant next)
    (initially : invariant (Session.new frameCarrier)) {session : ByteSession}
    {events : List SessionEvent}
    (meets : Runs.Meets (Session.step byteCarrier cfg) allowed (Session.new byteCarrier) events)
    (reaches : Runs.execute (Session.step byteCarrier cfg) (Session.new byteCarrier) events =
      some session) :
    ∃ frames, Encodes session frames ∧ invariant frames := by
  have stepwise : ∀ bytes event next, (∃ frames, Encodes bytes frames ∧ invariant frames) →
      allowed bytes event → bytes.step byteCarrier cfg event = some next →
      ∃ frames, Encodes next frames ∧ invariant frames := by
    rintro bytes event next ⟨frames, encodes, holds⟩ isAllowed stepEq
    obtain ⟨framesNext, framesStep, encodesNext⟩ := encodes.step (queues frames holds) stepEq
    exact ⟨framesNext, encodesNext,
      preserved bytes frames event framesNext encodes holds isAllowed
        (Session.steps_of_step framesStep)⟩
  exact Runs.invariant_of_meets _ stepwise ⟨_, new_encodes, initially⟩ meets reaches

end Simulation

end DeepNps.Mux
