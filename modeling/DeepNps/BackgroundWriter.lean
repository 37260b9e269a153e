import DeepNps.LabelledRuns
import DeepNps.WriteBehind

/-!
# The background writers of the runtime state

`nodeRuntimeStateWriter` and `nodeRuntimeAppendWriter` differ in their medium: how stored
data joins what waits, and what a write does to the file.  The loop `run`, `Flush` and
`Close` take the data under the lock and write it afterwards, in one step.
-/

namespace DeepNps.Node

variable {Item : Type}

/-- Who takes data or writes on its own: the loop, `Close`, or a caller of `Flush` or `Store`. -/
inductive Flusher
  | run
  | close
  | call (caller : Nat)
deriving DecidableEq, Repr

/-- Where the loop is.  `stopping` says that its wait ended because the writer stopped. -/
inductive RunStage
  | idle
  | waiting
  | flushing (stopping : Bool)
  | flushed (stopping : Bool)
deriving DecidableEq, Repr

inductive CloseStage
  | before
  | closed
  | stopped
  | flushing
  | flushed
  | waited
  | flushingLast
  | returned
deriving DecidableEq, Repr

/-- A writer with its threads.  `stored` lists the data of the `Store` calls that found
the writer open. -/
structure BackgroundWriter (Item : Type) where
  buffer : WriteBehind Flusher Item
  scheduled : Bool
  isClosed : Bool
  isStopped : Bool
  run : RunStage
  close : CloseStage
  stored : List (List Item)

inductive WriterEvent (Item : Type)
  | store (caller : Nat) (data : List Item)
  | run (stopping : Bool)
  | flush (caller : Nat)
  | close

namespace BackgroundWriter

def new (file : List Item) : BackgroundWriter Item where
  buffer := ⟨[], [], file⟩
  scheduled := false
  isClosed := false
  isStopped := false
  run := .idle
  close := .before
  stored := []

variable (medium : Medium Item)

/-- `Store` with the data marshalled.  A closed writer leaves the caller with a write of
its own. -/
def store (writer : BackgroundWriter Item) (caller : Nat) (data : List Item) :
    BackgroundWriter Item :=
  if writer.isClosed then
    { writer with
      buffer := { writer.buffer with taken := (.call caller, data) :: writer.buffer.taken } }
  else
    { writer with
      buffer := writer.buffer.store medium data
      scheduled := true
      run := if writer.scheduled then writer.run else .waiting
      stored := writer.stored ++ [data] }

def takePending (writer : BackgroundWriter Item) (flusher : Flusher) : BackgroundWriter Item :=
  { writer with buffer := writer.buffer.take flusher }

/-- Its second half, and the write of a `Store` that found the writer closed. -/
def writeTaken (writer : BackgroundWriter Item) (flusher : Flusher) : BackgroundWriter Item :=
  { writer with buffer := writer.buffer.write medium flusher }

/-- One step of the loop.  With the end of the loop `wg.Done` follows at once: nothing of
the loop is left to do. -/
def stepRun (writer : BackgroundWriter Item) (stopping : Bool) : Option (BackgroundWriter Item) :=
  match writer.run with
  | .idle => none
  | .waiting =>
      if stopping ∧ ¬ writer.isStopped then none
      else some { writer.takePending .run with run := .flushing stopping }
  | .flushing stopping => some { writer.writeTaken medium .run with run := .flushed stopping }
  | .flushed stopping =>
      if stopping ∨ writer.buffer.pending = [] then
        some { writer with scheduled := false, run := .idle }
      else some { writer with run := .waiting }

def stepClose (writer : BackgroundWriter Item) : Option (BackgroundWriter Item) :=
  match writer.close with
  | .before => some { writer with isClosed := true, close := .closed }
  | .closed => some { writer with isStopped := true, close := .stopped }
  | .stopped => some { writer.takePending .close with close := .flushing }
  | .flushing => some { writer.writeTaken medium .close with close := .flushed }
  | .flushed => if writer.run = .idle then some { writer with close := .waited } else none
  | .waited => some { writer.takePending .close with close := .flushingLast }
  | .flushingLast => some { writer.writeTaken medium .close with close := .returned }
  | .returned => none

def stepFlush (writer : BackgroundWriter Item) (caller : Nat) : BackgroundWriter Item :=
  match writer.buffer.taken.lookup (.call caller) with
  | none => writer.takePending (.call caller)
  | some _ => writer.writeTaken medium (.call caller)

def step (writer : BackgroundWriter Item) : WriterEvent Item → Option (BackgroundWriter Item)
  | .store caller data => some (writer.store medium caller data)
  | .run stopping => writer.stepRun medium stopping
  | .flush caller => some (writer.stepFlush medium caller)
  | .close => writer.stepClose medium

def taker (writer : BackgroundWriter Item) : WriterEvent Item → Option Flusher
  | .store _ _ => none
  | .run _ => if writer.run = .waiting then some .run else none
  | .flush caller =>
      if (writer.buffer.taken.lookup (.call caller)).isNone then some (.call caller) else none
  | .close => if writer.close = .stopped ∨ writer.close = .waited then some .close else none

/-- Data is stored before `Close`; a value that was marshalled is not empty. -/
def StoresOpen (writer : BackgroundWriter Item) : WriterEvent Item → Prop
  | .store _ data => writer.isClosed = false ∧ data ≠ []
  | _ => True

/-- The pending data is taken only while no flusher has data that it has not written. -/
def TakesAlone (writer : BackgroundWriter Item) (event : WriterEvent Item) : Prop :=
  (writer.taker event).isSome → writer.buffer.Quiet

instance [DecidableEq Item] (writer : BackgroundWriter Item) (event : WriterEvent Item) :
    Decidable (writer.StoresOpen event) :=
  match event with
  | .store _ data => inferInstanceAs (Decidable (writer.isClosed = false ∧ data ≠ []))
  | .run _ | .flush _ | .close => .isTrue trivial

instance [DecidableEq Item] (writer : BackgroundWriter Item) (event : WriterEvent Item) :
    Decidable (writer.TakesAlone event) :=
  inferInstanceAs (Decidable ((writer.taker event).isSome → writer.buffer.Quiet))

variable {medium} {writer next : BackgroundWriter Item}

/-! ## What the steps of the threads do -/

@[simp]
theorem close_store (caller : Nat) (data : List Item) :
    (writer.store medium caller data).close = writer.close := by
  rw [store]
  split_ifs <;> rfl

@[simp]
theorem isClosed_store (caller : Nat) (data : List Item) :
    (writer.store medium caller data).isClosed = writer.isClosed := by
  rw [store]
  split_ifs <;> rfl

theorem buffer_store (isOpen : writer.isClosed = false) (caller : Nat) (data : List Item) :
    (writer.store medium caller data).buffer = writer.buffer.store medium data := by
  rw [store, isOpen, if_neg Bool.false_ne_true]

structure SameClose (writer next : BackgroundWriter Item) : Prop where
  stored_eq : next.stored = writer.stored
  isClosed_eq : next.isClosed = writer.isClosed
  close_eq : next.close = writer.close

theorem flush_of_stepRun {stopping : Bool} (alone : writer.TakesAlone (.run stopping))
    (steps : writer.stepRun medium stopping = some next) :
    writer.buffer.Flush medium next.buffer ∧ SameClose writer next := by
  revert steps
  rw [TakesAlone, taker] at alone
  fun_cases stepRun medium writer stopping with
  | case1 | case2 => nofun
  | case3 isWaiting =>
    rintro ⟨⟩
    exact ⟨.took Flusher.run (alone (by rw [if_pos isWaiting]; rfl)), rfl, rfl, rfl⟩
  | case4 =>
    rintro ⟨⟩
    exact ⟨.wrote Flusher.run, rfl, rfl, rfl⟩
  | case5 | case6 =>
    rintro ⟨⟩
    exact ⟨.kept, rfl, rfl, rfl⟩

theorem flush_of_stepFlush (medium : Medium Item) {caller : Nat}
    (alone : writer.TakesAlone (.flush caller)) :
    writer.buffer.Flush medium (writer.stepFlush medium caller).buffer ∧
      SameClose writer (writer.stepFlush medium caller) := by
  rw [stepFlush]
  rw [TakesAlone, taker] at alone
  cases isTaken : writer.buffer.taken.lookup (.call caller) with
  | none =>
    rw [isTaken] at alone
    exact ⟨.took (Flusher.call caller) (alone rfl), rfl, rfl, rfl⟩
  | some => exact ⟨.wrote (Flusher.call caller), rfl, rfl, rfl⟩

/-- What `Close` has achieved where it stands. -/
structure Closing (writer : BackgroundWriter Item) : Prop where
  closed : writer.close ≠ .before → writer.isClosed = true
  drained : writer.close = .flushingLast → writer.buffer.DrainedBy .close
  settled : writer.close = .returned → writer.buffer.Settled

theorem closing_of_before (isBefore : writer.close = .before) : writer.Closing where
  closed := fun notBefore => absurd isBefore notBefore
  drained := fun isLast => absurd (isBefore.symm.trans isLast) nofun
  settled := fun isReturned => absurd (isBefore.symm.trans isReturned) nofun

theorem Closing.flush (closing : writer.Closing) (flush : writer.buffer.Flush medium next.buffer)
    (same : SameClose writer next) : next.Closing := by
  refine ⟨?_, ?_, ?_⟩
  · rw [same.close_eq, same.isClosed_eq]
    exact closing.closed
  · rw [same.close_eq]
    exact fun isLast => (closing.drained isLast).flush flush
  · rw [same.close_eq]
    exact fun isReturned => (closing.settled isReturned).flush flush

theorem flush_of_stepClose (closing : writer.Closing) (alone : writer.TakesAlone .close)
    (steps : writer.stepClose medium = some next) :
    writer.buffer.Flush medium next.buffer ∧ next.stored = writer.stored ∧ next.Closing := by
  revert steps
  rw [TakesAlone, taker] at alone
  have closed : ∀ {stage}, writer.close = stage → stage ≠ .before → writer.isClosed = true := by
    rintro _ rfl
    exact closing.closed
  fun_cases stepClose medium writer with
  | case1 =>
    rintro ⟨⟩
    exact ⟨.kept, rfl, fun _ => rfl, nofun, nofun⟩
  | case2 isClose | case5 isClose =>
    rintro ⟨⟩
    exact ⟨.kept, rfl, fun _ => closed isClose nofun, nofun, nofun⟩
  | case3 isClose =>
    rintro ⟨⟩
    have quiet := alone (by rw [if_pos (.inl isClose)]; rfl)
    exact ⟨.took Flusher.close quiet, rfl, fun _ => closed isClose nofun, nofun, nofun⟩
  | case4 isClose =>
    rintro ⟨⟩
    exact ⟨.wrote Flusher.close, rfl, fun _ => closed isClose nofun, nofun, nofun⟩
  | case7 isClose =>
    rintro ⟨⟩
    have quiet := alone (by rw [if_pos (.inr isClose)]; rfl)
    exact ⟨.took Flusher.close quiet, rfl, fun _ => closed isClose nofun,
      fun _ => WriteBehind.drainedBy_take quiet Flusher.close, nofun⟩
  | case8 isClose =>
    rintro ⟨⟩
    exact ⟨.wrote Flusher.close, rfl, fun _ => closed isClose nofun, nofun,
      fun _ => (closing.drained isClose).settled_write⟩
  | case6 | case9 => nofun

/-! ## Runs -/

/-- The writer carries the value of all stores. -/
structure Sound (medium : Medium Item) (file : List Item) (writer : BackgroundWriter Item) :
    Prop where
  carries : writer.buffer.Carries medium (writer.stored.foldl medium.put file)
  some_data : ∀ data ∈ writer.stored, data ≠ []
  closing : writer.Closing

theorem sound_new (file : List Item) : Sound medium file (new file) where
  carries := ⟨.close, nofun, by rw [new]; exact medium.put_nil _ ▸ medium.put_nil _⟩
  some_data := nofun
  closing := closing_of_before rfl

theorem Sound.flush {file : List Item} (sound : Sound medium file writer)
    (flush : writer.buffer.Flush medium next.buffer) (storedEq : next.stored = writer.stored)
    (closing : next.Closing) : Sound medium file next := by
  refine ⟨?_, ?_, closing⟩
  · rw [storedEq]
    exact sound.carries.flush flush
  · rw [storedEq]
    exact sound.some_data

theorem sound_step {file : List Item} (sound : Sound medium file writer) {event : WriterEvent Item}
    (isOpen : writer.StoresOpen event) (alone : writer.TakesAlone event)
    (steps : writer.step medium event = some next) : Sound medium file next := by
  cases event with
  | store =>
    obtain ⟨isOpen, some_data⟩ := isOpen
    have isBefore : writer.close = .before := by
      by_contra notBefore
      rw [sound.closing.closed notBefore] at isOpen
      cases isOpen
    obtain rfl := Option.some.inj steps
    rw [store, isOpen, if_neg Bool.false_ne_true]
    refine ⟨?_, ?_, closing_of_before isBefore⟩
    · rw [List.foldl_concat]
      exact sound.carries.store some_data
    · intro other isOther
      rcases List.mem_append.mp isOther with isOld | isNew
      · exact sound.some_data other isOld
      · rw [List.mem_singleton.mp isNew]
        exact some_data
  | run =>
    obtain ⟨flush, same⟩ := flush_of_stepRun alone steps
    exact sound.flush flush same.stored_eq (sound.closing.flush flush same)
  | flush =>
    obtain rfl := Option.some.inj steps
    obtain ⟨flush, same⟩ := flush_of_stepFlush medium alone
    exact sound.flush flush same.stored_eq (sound.closing.flush flush same)
  | close =>
    obtain ⟨flush, storedEq, closing⟩ := flush_of_stepClose sound.closing alone steps
    exact sound.flush flush storedEq closing

/-- If nobody takes data while a flusher has some that it has not written, `Close` leaves the data
of the last `Store` in the file. -/
theorem close_leaves_last_store {file : List Item} {events : List (WriterEvent Item)}
    {writer : BackgroundWriter Item}
    (runs : Runs.execute (step Medium.replace) (new file) events = some writer)
    (meets : Runs.Meets (step Medium.replace)
      (fun writer event => writer.StoresOpen event ∧ writer.TakesAlone event) (new file) events)
    (returned : writer.close = .returned) :
    writer.buffer.file = writer.stored.getLast?.getD file := by
  have sound : Sound Medium.replace file writer :=
    Runs.invariant_of_meets _ (fun _ _ _ sound allowed => sound_step sound allowed.1 allowed.2)
      (sound_new file) meets runs
  have settled := sound.closing.settled returned
  rw [sound.carries.file_eq settled.quiet settled.nothing]
  exact Medium.foldl_replace file writer.stored sound.some_data

/-- Two stores, the first written by a caller of `Flush` before the second is made. -/
theorem close_leaves_last_store_two :
    ∃ writer : BackgroundWriter Nat,
      Runs.execute (step Medium.replace) (new [])
          [.store 0 [1], .flush 1, .flush 1, .store 0 [2], .run false, .run false, .run false,
            .close, .close, .close, .close, .close, .close, .close] = some writer ∧
        writer.buffer.file = [2] := by
  obtain ⟨writer, runs, returned, storedEq⟩ : ∃ writer : BackgroundWriter Nat,
      Runs.execute (step Medium.replace) (new [])
          [.store 0 [1], .flush 1, .flush 1, .store 0 [2], .run false, .run false, .run false,
            .close, .close, .close, .close, .close, .close, .close] = some writer ∧
        writer.close = .returned ∧ writer.stored = [[1], [2]] :=
    Runs.exists_of_any (by decide +kernel)
  refine ⟨writer, runs, ?_⟩
  have leaves := close_leaves_last_store runs (by decide +kernel) returned
  rwa [storedEq] at leaves

/-- `Close` takes and writes the second value while the loop has not written the first one yet. -/
theorem close_leaves_stale_value :
    ∃ (events : List (WriterEvent Nat)) (writer : BackgroundWriter Nat),
      Runs.execute (step Medium.replace) (new []) events = some writer ∧
        Runs.Meets (step Medium.replace) StoresOpen (new []) events ∧
        writer.close = .returned ∧ writer.stored = [[1], [2]] ∧ writer.buffer.file = [1] := by
  exact ⟨[.store 0 [1], .run false, .store 0 [2], .close, .close, .close, .close, .run false,
    .run false, .close, .close, .close], Runs.exists_of_any (by decide +kernel)⟩

end BackgroundWriter

end DeepNps.Node
