import DeepNps.Relay

/-!
# What a relay delivers

A relay delivers every byte if it closes the connections only after the last byte of both
directions, but the direction that is done first closes them.
-/

namespace DeepNps.Goroutine

open Function List

namespace Lane

/-- Nothing that the endpoint has written waits any more, and it will write nothing else. -/
structure Drained (lane : Lane) : Prop where
  writeClosed : lane.writeClosed = true
  input : lane.input = []
  pending : lane.stage.pending = []

instance (lane : Lane) : Decidable lane.Drained :=
  decidable_of_iff (lane.writeClosed = true ∧ lane.input = [] ∧ lane.stage.pending = [])
    ⟨fun ⟨writeClosed, input, pending⟩ => ⟨writeClosed, input, pending⟩,
      fun ⟨writeClosed, input, pending⟩ => ⟨writeClosed, input, pending⟩⟩

/-- No byte is lost, and the goroutine stops at the end of the stream only. -/
structure Sound (lane : Lane) : Prop where
  account : lane.written = lane.delivered ++ (lane.stage.pending ++ lane.input)
  exhausted : lane.stage.pastEnd = true → lane.writeClosed = true ∧ lane.input = []

variable {lane : Lane}

section

variable (sound : lane.Sound)

include sound

theorem Sound.delivered_of_drained (drained : lane.Drained) : lane.delivered = lane.written := by
  rw [sound.account, drained.pending, drained.input, append_nil, append_nil]

theorem Sound.drained_of_closing {left : List End} (isClosing : lane.stage = .closing left) :
    lane.Drained := by
  obtain ⟨writeClosed, input⟩ := sound.exhausted (by rw [isClosing]; rfl)
  exact ⟨writeClosed, input, by rw [isClosing]; rfl⟩

theorem Sound.drained_of_done (isDone : lane.stage = .done) : lane.Drained := by
  obtain ⟨writeClosed, input⟩ := sound.exhausted (by rw [isDone]; rfl)
  exact ⟨writeClosed, input, by rw [isDone]; rfl⟩

theorem Sound.write (bytes : List UInt8) (isOpen : lane.writeClosed = false) :
    (lane.write false bytes).Sound := by
  refine ⟨?_, ?_⟩
  · change lane.written ++ bytes = lane.delivered ++ (lane.stage.pending ++ (lane.input ++ bytes))
    rw [sound.account]
    simp only [append_assoc]
  · intro pastEnd
    have isClosed := (sound.exhausted pastEnd).1
    rw [isOpen] at isClosed
    cases isClosed

theorem Sound.closeWrite : lane.closeWrite.Sound :=
  ⟨sound.account, fun pastEnd => ⟨rfl, (sound.exhausted pastEnd).2⟩⟩

theorem Sound.read {count : Nat} {atEnd : Bool} (isReading : lane.stage = .reading)
    (ends : atEnd = true → lane.writeClosed = true ∧ lane.input.length ≤ count) :
    (lane.read count atEnd).Sound := by
  refine ⟨?_, ?_⟩
  · change lane.written = lane.delivered ++ (lane.input.take count ++ lane.input.drop count)
    rw [sound.account, isReading, take_append_drop]
    rfl
  · intro pastEnd
    obtain ⟨writeClosed, isShort⟩ := ends pastEnd
    exact ⟨writeClosed, drop_eq_nil_of_le isShort⟩

end

theorem Drained.setStage (drained : lane.Drained) {stage : CopyStage}
    (pending : stage.pending = []) : (lane.setStage stage).Drained :=
  ⟨drained.writeClosed, drained.input, pending⟩

theorem Sound.setStage (sound : lane.Sound) (drained : lane.Drained) {stage : CopyStage}
    (pending : stage.pending = []) : (lane.setStage stage).Sound := by
  refine ⟨?_, fun _ => ⟨drained.writeClosed, drained.input⟩⟩
  change lane.written = lane.delivered ++ (stage.pending ++ lane.input)
  rw [pending, drained.input, sound.delivered_of_drained drained, append_nil, append_nil]

theorem Sound.pass (sound : lane.Sound) {chunk : List UInt8} {atEnd : Bool} {next : CopyStage}
    (isWriting : lane.stage = .writing chunk atEnd) (pending : next.pending = [])
    (pastEnd : next.pastEnd = true → atEnd = true) : (lane.pass chunk next).Sound := by
  refine ⟨?_, ?_⟩
  · change lane.written = lane.delivered ++ chunk ++ (next.pending ++ lane.input)
    rw [sound.account, isWriting, pending, append_assoc]
    rfl
  · intro isPast
    exact sound.exhausted (by rw [isWriting]; exact pastEnd isPast)

end Lane

namespace Relay

/-- Both directions are sound, and a connection is closed only when nothing waits any more. -/
structure Sound (relay : Relay) : Prop where
  lanes : ∀ source, (relay.lanes source).Sound
  closed : ∀ target, relay.closed target = true → ∀ source, (relay.lanes source).Drained

variable {kind : RelayKind} {relay next : Relay} {source : End} {lane : Lane}

theorem sound_new : (new kind).Sound where
  lanes := fun _ => ⟨rfl, nofun⟩
  closed := nofun

theorem Sound.isOpen (sound : relay.Sound) {target : End}
    (notDrained : ¬ (relay.lanes source).Drained) : relay.closed target = false := by
  cases isClosed : relay.closed target with
  | false => rfl
  | true => exact absurd (sound.closed target isClosed source) notDrained

theorem Sound.of_setLane (sound : relay.Sound) (laneSound : lane.Sound)
    (drained : ∀ target, relay.closed target = true → lane.Drained)
    (lanesEq : next.lanes = Function.update relay.lanes source lane)
    (closedEq : next.closed = relay.closed) : next.Sound := by
  refine ⟨fun other => ?_, fun target isClosed other => ?_⟩
  · rw [lanesEq, update_apply]
    split_ifs
    · exact laneSound
    · exact sound.lanes other
  · rw [closedEq] at isClosed
    rw [lanesEq, update_apply]
    split_ifs
    · exact drained target isClosed
    · exact sound.closed target isClosed other

/-- A direction closes the connections only when all of the other direction was passed on. -/
def Allowed (relay : Relay) : RelayEvent → Prop
  | .close source => (relay.lanes source.other).Drained
  | .write _ _ | .closeWrite _ | .read _ _ _ | .readEnd _ | .pass _ => True

instance : (relay : Relay) → (event : RelayEvent) → Decidable (relay.Allowed event)
  | relay, .close source => inferInstanceAs (Decidable (relay.lanes source.other).Drained)
  | _, .write _ _ | _, .closeWrite _ | _, .read _ _ _ | _, .readEnd _ | _, .pass _ =>
    .isTrue trivial

theorem Sound.of_step {event : RelayEvent} (sound : relay.Sound) (allowed : relay.Allowed event)
    (stepEq : relay.step kind event = some next) : next.Sound := by
  have settles : ∀ {source stage}, (relay.lanes source).Drained → stage.pending = [] →
      (relay.setLane source ((relay.lanes source).setStage stage)).Sound :=
    fun drained pending => sound.of_setLane ((sound.lanes _).setStage drained pending)
      (fun _ _ => drained.setStage pending) rfl rfl
  revert stepEq
  fun_cases step kind relay event with
  | case2 source bytes _ isClosed =>
    rintro ⟨⟩
    have notDrained : ¬ (relay.lanes source).Drained := fun drained => isClosed drained.writeClosed
    rw [sound.isOpen notDrained]
    refine sound.of_setLane ((sound.lanes source).write bytes (by simpa using isClosed)) ?_ rfl rfl
    intro _ targetClosed
    rw [sound.isOpen notDrained] at targetClosed
    cases targetClosed
  | case4 source _ isClosed =>
    rintro ⟨⟩
    refine sound.of_setLane (sound.lanes source).closeWrite ?_ rfl rfl
    intro target targetClosed
    exact absurd (sound.closed target targetClosed source).writeClosed isClosed
  | case5 source _ _ _ canRead =>
    rintro ⟨⟩
    obtain ⟨isReading, -, hasInput, -, -, ends⟩ := canRead
    refine sound.of_setLane ((sound.lanes source).read isReading ends) ?_ rfl rfl
    intro target targetClosed
    exact absurd (sound.closed target targetClosed source).input hasInput
  | case7 source _ ends =>
    rintro ⟨⟩
    obtain ⟨isReading, isClosed | ⟨input, writeClosed⟩⟩ := ends
    · exact settles (sound.closed source isClosed source) rfl
    · exact settles ⟨writeClosed, input, by rw [isReading]; rfl⟩ rfl
  | case9 source _ _ _ _ isClosed =>
    rintro ⟨⟩
    exact settles (sound.closed source.other isClosed source) rfl
  | case10 source _ _ _ isWriting _ after =>
    rintro ⟨⟩
    refine sound.of_setLane
      ((sound.lanes source).pass isWriting (by simp [after]) (by simp [after])) ?_ rfl rfl
    intro target targetClosed
    have drained := sound.closed target targetClosed source
    exact ⟨drained.writeClosed, drained.input, by simp [Lane.pass, after]⟩
  | case14 source _ isClosing =>
    rintro ⟨⟩
    exact settles ((sound.lanes source).drained_of_closing isClosing) rfl
  | case15 source _ _ _ isClosing =>
    rintro ⟨⟩
    have drained := (sound.lanes source).drained_of_closing isClosing
    refine ⟨(settles drained rfl).lanes, fun _ _ side => ?_⟩
    change (update relay.lanes source _ side).Drained
    rw [update_apply]
    split_ifs with isSource
    · exact drained.setStage rfl
    · obtain rfl := (End.eq_or_eq_other side source).resolve_left isSource
      exact allowed
  | _ => nofun

/-! ## What waits can be passed on -/

def IsCopy (source : End) : RelayEvent → Prop
  | .read side _ _ | .pass side => side = source
  | .write _ _ | .closeWrite _ | .readEnd _ | .close _ => False

/-- How many reads and writes of single bytes are left to a goroutine. -/
def turnsLeft (lane : Lane) : Nat :=
  2 * lane.input.length +
    match lane.stage with
    | .writing _ _ => 1
    | .reading | .closing _ | .done => 0

theorem Sound.exists_turn (kind : RelayKind) (sound : relay.Sound) (source : End)
    (waits : (relay.lanes source).stage.pending ++ (relay.lanes source).input ≠ []) :
    ∃ event next, IsCopy source event ∧ relay.step kind event = some next ∧ next.Sound ∧
      (next.lanes source).written = (relay.lanes source).written ∧
      turnsLeft (next.lanes source) < turnsLeft (relay.lanes source) := by
  have notDrained : ¬ (relay.lanes source).Drained := by
    intro drained
    rw [drained.pending, drained.input] at waits
    exact waits rfl
  cases stageEq : (relay.lanes source).stage with
  | reading =>
    have hasInput : (relay.lanes source).input ≠ [] := by
      rw [stageEq] at waits
      exact waits
    have canRead : CanRead (relay.lanes source) (relay.closed source) 1 false :=
      ⟨stageEq, sound.isOpen notDrained, hasInput, by decide, by decide, nofun⟩
    obtain ⟨next, stepEq, laneEq⟩ : ∃ next, relay.step kind (.read source 1 false) = some next ∧
        next.lanes source = (relay.lanes source).read 1 false :=
      ⟨_, if_pos canRead, update_self ..⟩
    have allowed : relay.Allowed (.read source 1 false) := trivial
    have nextSound := sound.of_step allowed stepEq
    refine ⟨.read source 1 false, next, rfl, stepEq, nextSound, ?_, ?_⟩
    · rw [laneEq]
      rfl
    · rw [laneEq]
      have := length_pos_of_ne_nil hasInput
      simp only [turnsLeft, Lane.read, stageEq, length_drop]
      omega
  | writing chunk atEnd =>
    obtain ⟨next, stepEq, laneEq⟩ : ∃ next, relay.step kind (.pass source) = some next ∧
        next.lanes source = (relay.lanes source).pass chunk
          (CopyStage.afterWrite (kind.closeOrder source) atEnd) := by
      simp only [step, stageEq, sound.isOpen notDrained, Bool.false_eq_true, if_false]
      exact ⟨_, rfl, update_self ..⟩
    have allowed : relay.Allowed (.pass source) := trivial
    have nextSound := sound.of_step allowed stepEq
    refine ⟨.pass source, next, rfl, stepEq, nextSound, ?_, ?_⟩
    · rw [laneEq]
      rfl
    · rw [laneEq]
      cases atEnd <;> simp [turnsLeft, Lane.pass, CopyStage.afterWrite, stageEq]
  | closing => exact absurd ((sound.lanes source).drained_of_closing stageEq) notDrained
  | done => exact absurd ((sound.lanes source).drained_of_done stageEq) notDrained

theorem Sound.exists_copy (sound : relay.Sound) (source : End) :
    ∃ events next, (∀ event ∈ events, IsCopy source event) ∧
      Runs.execute (step kind) relay events = some next ∧
      (next.lanes source).delivered = (relay.lanes source).written := by
  generalize turnsEq : turnsLeft (relay.lanes source) = turns
  induction turns using Nat.strong_induction_on generalizing relay with
  | _ _ ih =>
    by_cases waits : (relay.lanes source).stage.pending ++ (relay.lanes source).input = []
    · refine ⟨[], relay, nofun, rfl, ?_⟩
      rw [(sound.lanes source).account, waits, append_nil]
    · obtain ⟨event, middle, isCopy, stepEq, middleSound, writtenEq, fewer⟩ :=
        sound.exists_turn kind source waits
      obtain ⟨events, next, areCopies, reaches, delivered⟩ := ih _ (turnsEq ▸ fewer) middleSound rfl
      refine ⟨event :: events, next, ?_, ?_, delivered.trans writtenEq⟩
      · intro other isMember
        rcases mem_cons.mp isMember with rfl | isMember
        · exact isCopy
        · exact areCopies other isMember
      · exact Runs.execute_cons_eq_some.mpr ⟨middle, stepEq, reaches⟩

/-- If the connections are closed only when nothing waits, a goroutine that is done has passed on
every byte, and one that is not done can. -/
theorem relay_delivers (kind : RelayKind) (events : List RelayEvent) (relay : Relay)
    (meets : Runs.Meets (step kind) Allowed (new kind) events)
    (reaches : Runs.execute (step kind) (new kind) events = some relay) (source : End) :
    ((relay.lanes source).stage = .done →
      (relay.lanes source).delivered = (relay.lanes source).written) ∧
    (∃ copying next, (∀ event ∈ copying, IsCopy source event) ∧
      Runs.execute (step kind) relay copying = some next ∧
      (next.lanes source).delivered = (relay.lanes source).written) := by
  have sound : relay.Sound :=
    Runs.invariant_of_meets Sound (fun _ _ _ sound => sound.of_step) sound_new meets reaches
  refine ⟨?_, sound.exists_copy source⟩
  intro isDone
  exact (sound.lanes source).delivered_of_drained ((sound.lanes source).drained_of_done isDone)

/-- The first endpoint closes its write side; the answer is passed on before anything is
closed. -/
def answeredInTime : List RelayEvent :=
  [.write .first [1, 2], .closeWrite .first, .read .first 2 true, .pass .first,
    .write .second [3], .closeWrite .second, .read .second 1 false, .pass .second,
    .close .first, .close .first, .close .first,
    .readEnd .second, .close .second, .close .second, .close .second]

theorem relay_delivers_in_time :
    ∃ relay, Runs.execute (step (.join false)) (new (.join false)) answeredInTime = some relay ∧
      (relay.lanes .second).written = [3] ∧
      (relay.lanes .second).delivered = (relay.lanes .second).written := by
  obtain ⟨relay, reaches, isDone, written⟩ :
      ∃ relay, Runs.execute (step (.join false)) (new (.join false)) answeredInTime = some relay ∧
        (relay.lanes .second).stage = .done ∧ (relay.lanes .second).written = [3] :=
    Runs.exists_of_any (by decide +kernel)
  exact ⟨relay, reaches, written, (relay_delivers (.join false) answeredInTime relay
    (by decide +kernel) reaches .second).1 isDone⟩

/-- The second endpoint answers when the bytes of the first one were passed on, and the
connections are closed. -/
def answeredLate : List RelayEvent :=
  [.write .first [1, 2], .closeWrite .first, .read .first 2 false, .pass .first, .readEnd .first,
    .write .second [3], .closeWrite .second, .close .first, .close .first, .close .first,
    .readEnd .second, .close .second, .close .second, .close .second]

theorem relay_loses_answer :
    ∃ relay, Runs.execute (step (.join false)) (new (.join false)) answeredLate = some relay ∧
      (relay.lanes .first).stage = .done ∧ (relay.lanes .second).stage = .done ∧
      (relay.lanes .second).written = [3] ∧ (relay.lanes .second).delivered = [] := by
  exact Runs.exists_of_any (by decide +kernel)

end Relay

end DeepNps.Goroutine
