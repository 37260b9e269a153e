import DeepNps.CopyBuffer
import DeepNps.LabelledRuns

/-!
# Joining two connections

Two goroutines copy between two connections.  The one that is done first closes both, and
the other one fails at its next read or write.
-/

namespace DeepNps.Goroutine

/-- The two connections, and the endpoints behind them. -/
inductive End
  | first
  | second
  deriving DecidableEq

def End.other : End → End
  | .first => .second
  | .second => .first

theorem End.eq_or_eq_other (side source : End) : side = source ∨ side = source.other := by
  cases side <;> cases source <;> simp [End.other]

/-- Before a read, before the write of what was read (and whether the read also reported the end),
closing the connections, or done. -/
inductive CopyStage
  | reading
  | writing (chunk : List UInt8) (atEnd : Bool)
  | closing (left : List End)
  | done
  deriving DecidableEq

namespace CopyStage

def pending : CopyStage → List UInt8
  | writing chunk _ => chunk
  | reading | closing _ | done => []

def pastEnd : CopyStage → Bool
  | reading => false
  | writing _ atEnd => atEnd
  | closing _ | done => true

def afterWrite (left : List End) (atEnd : Bool) : CopyStage :=
  if atEnd then closing left else reading

@[simp]
theorem pending_afterWrite (left : List End) (atEnd : Bool) :
    (afterWrite left atEnd).pending = [] := by
  cases atEnd <;> rfl

@[simp]
theorem pastEnd_afterWrite (left : List End) (atEnd : Bool) :
    (afterWrite left atEnd).pastEnd = atEnd := by
  cases atEnd <;> rfl

end CopyStage

/-- What the endpoint has written and whether it has closed its write side, the bytes that wait,
the goroutine that copies them, and what it has passed on. -/
structure Lane where
  written : List UInt8
  writeClosed : Bool
  input : List UInt8
  stage : CopyStage
  copier : Copier
  delivered : List UInt8
  deriving DecidableEq

namespace Lane

def new (hasTask : Bool) : Lane where
  written := []
  writeClosed := false
  input := []
  stage := .reading
  copier := Copier.new hasTask
  delivered := []

/-- The endpoint writes; nobody gets what is written to a closed connection. -/
def write (lane : Lane) (isClosed : Bool) (bytes : List UInt8) : Lane :=
  { lane with
    written := lane.written ++ bytes
    input := if isClosed then lane.input else lane.input ++ bytes }

def closeWrite (lane : Lane) : Lane := { lane with writeClosed := true }

def read (lane : Lane) (count : Nat) (atEnd : Bool) : Lane :=
  { lane with
    input := lane.input.drop count
    stage := .writing (lane.input.take count) atEnd
    copier := (lane.copier.probe (lane.input.take count)).2 }

def finish (lane : Lane) (left : List End) : Lane := { lane with stage := .closing left }

def pass (lane : Lane) (chunk : List UInt8) (next : CopyStage) : Lane :=
  { lane with
    stage := next
    copier := lane.copier.count chunk
    delivered := lane.delivered ++ chunk }

def setStage (lane : Lane) (stage : CopyStage) : Lane := { lane with stage }

end Lane

/-- The two directions, the connections closed, whether the task is HTTP, and the bytes
charged. -/
structure Relay where
  lanes : End → Lane
  closed : End → Bool
  isHttp : Bool
  charged : Nat

/-- Which direction knows the task, and in which order a direction closes the connections. -/
structure RelayKind where
  hasTask : End → Bool
  closeOrder : End → List End

namespace RelayKind

/-- `Join`: both directions close the first connection first. -/
def join (hasTask : Bool) : RelayKind where
  hasTask := fun source => source = .first ∧ hasTask
  closeOrder := fun _ => [.first, .second]

/-- `copyConns`: a direction closes its source first. -/
def copyConns (hasTask : Bool) : RelayKind where
  hasTask := fun source => source = .second ∧ hasTask
  closeOrder := fun source => [source, source.other]

end RelayKind

/-- What the endpoints and the goroutines do; a goroutine is named by its source. -/
inductive RelayEvent
  | write (source : End) (bytes : List UInt8)
  | closeWrite (source : End)
  | read (source : End) (count : Nat) (atEnd : Bool)
  | readEnd (source : End)
  | pass (source : End)
  | close (source : End)
  deriving DecidableEq

namespace Relay

def new (kind : RelayKind) : Relay where
  lanes := fun source => Lane.new (kind.hasTask source)
  closed := fun _ => false
  isHttp := false
  charged := 0

def setLane (relay : Relay) (source : End) (lane : Lane) : Relay :=
  { relay with lanes := Function.update relay.lanes source lane }

def CanRead (lane : Lane) (isClosed : Bool) (count : Nat) (atEnd : Bool) : Prop :=
  lane.stage = .reading ∧ isClosed = false ∧ lane.input ≠ [] ∧ 0 < count ∧
    count ≤ poolSizeCopy ∧ (atEnd = true → lane.writeClosed = true ∧ lane.input.length ≤ count)

instance (lane : Lane) (isClosed : Bool) (count : Nat) (atEnd : Bool) :
    Decidable (CanRead lane isClosed count atEnd) :=
  inferInstanceAs (Decidable (_ ∧ _))

def ReadEnds (lane : Lane) (isClosed : Bool) : Prop :=
  lane.stage = .reading ∧ (isClosed = true ∨ (lane.input = [] ∧ lane.writeClosed = true))

instance (lane : Lane) (isClosed : Bool) : Decidable (ReadEnds lane isClosed) :=
  inferInstanceAs (Decidable (_ ∧ _))

/-- Nothing else fails but reads and writes on closed connections. -/
def step (kind : RelayKind) (relay : Relay) : RelayEvent → Option Relay
  | .write source bytes =>
      let lane := relay.lanes source
      if lane.writeClosed then none
      else some (relay.setLane source (lane.write (relay.closed source) bytes))
  | .closeWrite source =>
      let lane := relay.lanes source
      if lane.writeClosed then none else some (relay.setLane source lane.closeWrite)
  | .read source count atEnd =>
      let lane := relay.lanes source
      if CanRead lane (relay.closed source) count atEnd then
        some
          { relay.setLane source (lane.read count atEnd) with
            isHttp := relay.isHttp || (lane.copier.probe (lane.input.take count)).1 }
      else none
  | .readEnd source =>
      let lane := relay.lanes source
      if ReadEnds lane (relay.closed source) then
        some (relay.setLane source (lane.finish (kind.closeOrder source)))
      else none
  | .pass source =>
      let lane := relay.lanes source
      match lane.stage with
      | .writing chunk atEnd =>
          if relay.closed source.other then
            some (relay.setLane source (lane.finish (kind.closeOrder source)))
          else
            let next := CopyStage.afterWrite (kind.closeOrder source) atEnd
            some
              { relay.setLane source (lane.pass chunk next) with
                charged := relay.charged + chunk.length }
      | .reading | .closing _ | .done => none
  | .close source =>
      let lane := relay.lanes source
      match lane.stage with
      | .closing [] => some (relay.setLane source (lane.setStage .done))
      | .closing (target :: left) =>
          some
            { relay.setLane source (lane.setStage (.closing left)) with
              closed := Function.update relay.closed target true }
      | .reading | .writing _ _ | .done => none

end Relay

end DeepNps.Goroutine
