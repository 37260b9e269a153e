import DeepNps.MuxIdAllocation

/-!
# Stream ids of the two ends of a connection

As long as no end reaches an id of its peer when it opens a stream, no end is asked for a
stream under one of its own ids.
-/

namespace DeepNps.Mux

open Both List

def SessionEvent.opener : SessionEvent → Option Side
  | .act side .openConn => some side
  | _ => none

/-- Each id is registered, or further ahead of the counter than there are connections to skip. -/
def Endpoint.Avoids (endpoint : Endpoint) (ids : List Int32) : Prop :=
  ∀ id ∈ ids, (endpoint.connMap.get id).isSome ∨
    id ∉ upcomingIds endpoint.isInitiator (endpoint.connMap.size + 1) endpoint.id

instance (endpoint : Endpoint) (ids : List Int32) : Decidable (endpoint.Avoids ids) :=
  List.decidableBAll _ ids

namespace Session

/-- Whoever opens a stream avoids the ids of its peer. -/
def OpensApart {Wire : Type} (session : Session Wire) (event : SessionEvent) : Prop :=
  ∀ side ∈ event.opener, (session.ends.get side).Avoids (session.ends.get side.other).allocated

instance {Wire : Type} (session : Session Wire) (event : SessionEvent) :
    Decidable (session.OpensApart event) :=
  inferInstanceAs (Decidable (∀ side ∈ event.opener, _))

/-- The invariant of the ids of a session. -/
structure IdsOk (session : FrameSession) : Prop where
  queues : session.QueuesOk
  ends : ∀ side, (session.ends.get side).IdsOk
  wires : ∀ side, ∀ packager ∈ session.wires.get side, packager.flag = muxNewConn →
    packager.id ∈ (session.ends.get side).allocated
  apart : ∀ side, (session.ends.get side).allocated.Disjoint (session.ends.get side.other).allocated

theorem new_idsOk : (new frameCarrier).IdsOk where
  queues := by
    intro side
    cases side with
    | left => exact Endpoint.new_queueOk true
    | right => exact Endpoint.new_queueOk false
  ends := by
    intro side
    cases side with
    | left => exact Endpoint.new_idsOk true
    | right => exact Endpoint.new_idsOk false
  wires := by
    intro side
    cases side <;> simp [new, frameCarrier, Both.get]
  apart := by
    intro side
    cases side with
    | left | right => exact disjoint_nil_left _

section Steps

variable {cfg : MuxConfig} {session next : FrameSession}

theorem apart_of_side {ends : Both Endpoint} (side : Side)
    (apart : (ends.get side).allocated.Disjoint (ends.get side.other).allocated) (party : Side) :
    (ends.get party).allocated.Disjoint (ends.get party.other).allocated := by
  rcases side.eq_or_eq_other party with rfl | rfl
  · exact apart
  · rw [Side.other_other]
    exact apart.symm

theorem IdsOk.steps (idsOk : session.IdsOk) {event : SessionEvent}
    (opensApart : session.OpensApart event) (steps : Steps cfg session event next) :
    next.IdsOk := by
  have queues := idsOk.queues.steps steps
  cases steps with
  | act side _ _ steps =>
    refine ⟨queues, ?_, ?_, ?_⟩
    · exact forall_set ((idsOk.ends side).steps (idsOk.queues side) steps) (idsOk.ends side.other)
    · intro party packager isMember isFlag
      have isAllocated := idsOk.wires party packager isMember isFlag
      rcases side.eq_or_eq_other party with rfl | rfl
      · rw [get_set_self]
        rcases steps.allocated_eq with same | ⟨-, id, -, more⟩
        · rw [same]
          exact isAllocated
        · rw [more]
          exact mem_append_left _ isAllocated
      · rw [get_set_other]
        exact isAllocated
    · apply apart_of_side side
      rw [get_set_self, get_set_other]
      rcases steps.allocated_eq with same | ⟨rfl, id, isId, more⟩
      · rw [same]
        exact idsOk.apart side
      · -- the end that opens a stream stays apart from its peer
        rw [more, disjoint_append_left]
        refine ⟨idsOk.apart side, ?_⟩
        rw [singleton_disjoint]
        intro isPeers
        obtain ⟨isFree, isUpcoming⟩ := getId_spec isId
        rcases opensApart side rfl id isPeers with isRegistered | notUpcoming
        · simp [isFree] at isRegistered
        · exact notUpcoming isUpcoming
  | transmit side _ _ popped =>
    refine ⟨queues, ?_, ?_, ?_⟩
    · refine forall_set ((idsOk.ends side).of_same rfl rfl rfl (idsOk.ends side).unsent ?_)
        (idsOk.ends side.other)
      intro id isQueued
      exact (idsOk.ends side).queued id ((idsOk.queues side).queued_tryPop popped isQueued)
    · intro party other isMember isFlag
      rcases side.eq_or_eq_other party with rfl | rfl
      · rw [get_set_self] at isMember ⊢
        rcases mem_append.mp isMember with isMember | isMember
        · exact idsOk.wires party other isMember isFlag
        · have isQueued := (idsOk.queues party).queued_of_tryPop popped
          rw [mem_singleton.mp isMember] at isFlag ⊢
          exact (idsOk.ends party).queued _ (isFlag ▸ isQueued)
      · rw [get_set_other] at isMember ⊢
        exact idsOk.wires side.other other isMember isFlag
    · apply apart_of_side side
      rw [get_set_self, get_set_other]
      exact idsOk.apart side
  | receive side _ _ isWire _ _ handles =>
    have sameIds := handles.allocated_eq
    refine ⟨queues, ?_, ?_, ?_⟩
    · exact forall_set ((idsOk.ends side).handles handles) (idsOk.ends side.other)
    · intro party other isMember isFlag
      rcases side.eq_or_eq_other party with rfl | rfl
      · rw [get_other_set] at isMember
        rw [get_set_self, sameIds]
        exact idsOk.wires party other isMember isFlag
      · rw [get_set_self] at isMember
        rw [get_set_other]
        refine idsOk.wires side.other other ?_ isFlag
        rw [isWire]
        exact mem_cons_of_mem _ isMember
    · apply apart_of_side side
      rw [get_set_self, get_set_other, sameIds]
      exact idsOk.apart side

end Steps

/-- The parity of an id tells the ends apart only while one of them has opened nothing. -/
structure IdsApart (session : ByteSession) : Prop where
  fresh : ∀ side id,
    getId (session.ends.get side).isInitiator (session.ends.get side).connMap
      (session.ends.get side).id = some id →
    0 < id ∧ (session.ends.get side).connMap.get id = none
  returns : ∀ side, (session.ends.get side).connMap.size < idCount →
    ∃ id, ∀ fuel, (session.ends.get side).connMap.size < fuel →
      getIdLoop (session.ends.get side).isInitiator (session.ends.get side).connMap fuel
        (session.ends.get side).id = some id
  positive : ∀ side, ∀ id ∈ (session.ends.get side).allocated, 0 < id
  disjoint : session.ends.left.allocated.Disjoint session.ends.right.allocated
  incoming : ∀ side packager rest,
    byteCarrier.take (session.wires.get side.other) = some (.ok packager, rest) →
    packager.flag = muxNewConn → packager.id ∉ (session.ends.get side).allocated
  parity : (∃ side, (∀ id ∈ (session.ends.get side).allocated, id.toInt % 2 = 1) ∧
      ∀ id ∈ (session.ends.get side.other).allocated, id.toInt % 2 = 0) ↔
    ∃ side, (session.ends.get side).allocated = []

theorem IdsOk.even {session : FrameSession} (idsOk : session.IdsOk) {side : Side} {id : Int32}
    (isAllocated : id ∈ (session.ends.get side).allocated) : id.toInt % 2 = 0 := by
  obtain ⟨place, rfl⟩ := (idsOk.ends side).places id isAllocated
  rw [idAt_toInt]
  omega

theorem IdsOk.apart_bytes {session : FrameSession} {bytes : ByteSession}
    (idsOk : session.IdsOk) (encodes : Encodes bytes session) : bytes.IdsApart where
  fresh := by
    intro side _ isId
    rw [encodes.ends] at isId ⊢
    rw [(idsOk.ends side).isInitiator] at isId
    obtain ⟨place, isPlace⟩ := getId_idAt (idsOk.ends side).counting isId
    refine ⟨?_, (getId_spec isId).1⟩
    rw [isPlace]
    exact idAt_pos place
  returns := by
    intro side few
    rw [encodes.ends] at few ⊢
    rw [(idsOk.ends side).isInitiator]
    have counting := (idsOk.ends side).counting
    obtain ⟨id, isId⟩ := Option.isSome_iff_exists.mp (getId_isSome counting few)
    refine ⟨id, ?_⟩
    intro _ enough
    rw [getIdLoop_eq_getId counting few enough]
    exact isId
  positive := by
    intro side id isAllocated
    rw [encodes.ends] at isAllocated
    obtain ⟨place, rfl⟩ := (idsOk.ends side).places id isAllocated
    exact idAt_pos place
  disjoint := by
    rw [encodes.ends]
    exact idsOk.apart .left
  incoming := by
    intro side packager _ taken isFlag isAllocated
    obtain ⟨_, _, isWire, isFound, -⟩ := (encodes.wires side.other).take taken
    cases isFound
    rw [encodes.ends] at isAllocated
    have isPeers := idsOk.wires side.other packager (by rw [isWire]; exact mem_cons_self) isFlag
    exact idsOk.apart side isAllocated isPeers
  parity := by
    rw [encodes.ends]
    constructor
    · rintro ⟨side, odd, -⟩
      refine ⟨side, eq_nil_iff_forall_not_mem.mpr ?_⟩
      intro id isAllocated
      have isOdd := odd id isAllocated
      rw [idsOk.even isAllocated] at isOdd
      cases isOdd
    · rintro ⟨side, isEmpty⟩
      refine ⟨side, ?_, fun id isAllocated => idsOk.even isAllocated⟩
      rw [isEmpty]
      simp

end Session

/-- If no end opens a stream that reaches an id of its peer, the ids of the two ends do not
collide. -/
theorem streamIds_apart (cfg : MuxConfig) (events : List SessionEvent) (session : ByteSession)
    (opensApart : Runs.Meets (Session.step byteCarrier cfg) Session.OpensApart
      (Session.new byteCarrier) events)
    (reaches : Runs.execute (Session.step byteCarrier cfg) (Session.new byteCarrier) events =
      some session) : session.IdsApart := by
  have preserved : ∀ bytes frames event next, Encodes bytes frames → frames.IdsOk →
      bytes.OpensApart event → Session.Steps cfg frames event next → next.IdsOk := by
    intro _ _ _ _ encodes idsOk apart steps
    refine idsOk.steps ?_ steps
    intro side isOpener
    have avoids := apart side isOpener
    rw [encodes.ends] at avoids
    exact avoids
  obtain ⟨_, encodes, idsOk⟩ := encodes_of_meets (fun _ idsOk => idsOk.queues) preserved
    Session.new_idsOk opensApart reaches
  exact idsOk.apart_bytes encodes

/-- One end opens a stream and sends its request, which is handed over. -/
def openEvents (side : Side) : List SessionEvent :=
  [.act side .openConn, .act side (.conn 0 .register), .act side (.conn 0 .request)]

def openInTurn : List SessionEvent :=
  openEvents .left ++
    [.transmit .left, .transmit .left, .receive .right, .receive .right,
      .act .right .readerStep, .act .right .openConn]

/-- Streams that are opened in turn get different ids. -/
theorem streamIds_apart_inTurn :
    ∃ session, Runs.execute (Session.step byteCarrier defaultMuxConfig) (Session.new byteCarrier)
        openInTurn = some session ∧
      session.ends.left.allocated = [2] ∧ session.ends.right.allocated = [4] ∧
      session.IdsApart :=
  ⟨_, rfl, rfl, rfl, streamIds_apart defaultMuxConfig openInTurn _ (by decide) rfl⟩

def openAtOnce : List SessionEvent :=
  openEvents .left ++ openEvents .right ++ [.transmit .left, .transmit .left, .receive .right]

/-- The right end has registered the id that the next request on its wire names. -/
theorem streamIds_collide :
    ∃ session, Runs.execute (Session.step byteCarrier defaultMuxConfig) (Session.new byteCarrier)
        openAtOnce = some session ∧
      session.ends.left.allocated = [2] ∧ session.ends.right.allocated = [2] ∧
      (session.ends.right.connMap.get 2).isSome ∧
      ∃ packager rest, byteCarrier.take session.wires.left = some (.ok packager, rest) ∧
        packager.flag = muxNewConn ∧ packager.id = 2 :=
  ⟨_, rfl, rfl, rfl, rfl, _, _, rfl, rfl, rfl⟩

end DeepNps.Mux
