import DeepNps.EventLogFiles

/-!
# Reopening the event log

With calls of `Record` that do not overlap, and data taken only while no flusher holds
any, `Close` leaves files from which `load` builds the log again.
-/

namespace DeepNps.Node

open Option List BackgroundWriter NodeEventLog Sequenced

variable {Payload : Type}

theorem tailEventList_eq_rtake {Entry : Type} (events : List Entry) {limit : Nat}
    (positive : 0 < limit) : tailEventList events limit = events.rtake limit :=
  trimNodeEventWindowInPlace_eq_rtake events positive

/-! ## Files that hold a log -/

/-- The content of the state file: the state of the log, or nothing for a log in which
nothing was recorded. -/
def StateOf (log : NodeEventLog Payload) (state : List (NodeEventLogPersistedState Payload)) :
    Prop :=
  state = [log.persistedStateLocked] ∨ (state = [] ∧ log.nextSeq = 0 ∧ log.history = [])

/-- Lines whose newest ones are the history of the log, all of them readable. -/
structure JournalOf (lineLength : Event Payload → Nat) (log : NodeEventLog Payload)
    (lines : List (Event Payload)) : Prop where
  tail_eq : lines.rtake log.historyMax = log.history
  fits : ∀ line ∈ lines, lineLength line < maxJournalLine

structure Durable (lineLength : Event Payload → Nat) (log : NodeEventLog Payload)
    (recorded : List (Event Payload)) (files : LogFiles Payload) : Prop where
  keeps : log.Keeps recorded
  stateOf : StateOf log files.state
  journalOf : JournalOf lineLength log files.journal

variable {lineLength : Event Payload → Nat} {log : NodeEventLog Payload}
  {recorded : List (Event Payload)} {files : LogFiles Payload}

theorem foldl_max_sequence {entries : List (Event Payload)} {nextSeq : Int}
    (bounded : ∀ entry ∈ entries, entry.sequence ≤ nextSeq) :
    entries.foldl (fun nextSeq entry => max nextSeq entry.sequence) nextSeq = nextSeq := by
  induction entries with
  | nil => rfl
  | cons entry _ ih =>
    rw [foldl_cons, Int.max_eq_left (bounded entry mem_cons_self)]
    exact ih fun other isOther => bounded other (mem_cons_of_mem _ isOther)

variable {empty : NodeEventLog Payload}

section

variable (durable : Durable lineLength log recorded files)
  (maxEntries_eq : empty.maxEntries = log.maxEntries)
  (historyMax_eq : empty.historyMax = log.historyMax)
  (isEmpty : empty.nextSeq = 0 ∧ empty.entries = [] ∧ empty.history = [])

include durable maxEntries_eq historyMax_eq isEmpty

theorem load_eq :
    empty.load lineLength files =
      { empty with
        nextSeq := log.nextSeq
        entries := log.entries
        history := log.history } := by
  obtain ⟨keeps, stateOf, tail_eq, fits⟩ := durable
  have historyPos : 0 < log.historyMax := Nat.lt_of_lt_of_le keeps.positive keeps.wider
  have bounded : ∀ entry ∈ log.entries, entry.sequence ≤ log.nextSeq := fun entry isEntry =>
    (keeps.numbered entry ((source_sublist keeps false).subset isEntry)).2
  have entriesOfHistory : log.history.rtake log.maxEntries = log.entries := by
    rw [keeps.history_eq, rtake_rtake keeps.wider, keeps.entries_eq]
  rcases stateOf with isState | ⟨isMissing, nextSeqEq, historyEq⟩
  · have linesEq : files.journal.takeWhile (fun event => lineLength event < maxJournalLine) =
        files.journal :=
      takeWhile_eq_self_iff.mpr fun line isLine => by simpa using fits line isLine
    have short : ¬ log.maxEntries < log.entries.length := by
      rw [keeps.entries_eq, rtake, length_drop]
      omega
    rw [load, isState, head?_cons]
    dsimp only [persistedStateLocked, loadJournalLocked]
    rw [linesEq, historyMax_eq, maxEntries_eq, tailEventList_eq_rtake _ historyPos, tail_eq,
      foldl_max_sequence bounded, if_neg short]
    cases isLast : log.history.getLast? with
    | none =>
      have historyEq := getLast?_eq_none_iff.mp isLast
      have entriesEq : log.entries = [] := by rw [← entriesOfHistory, historyEq, rtake_nil]
      simp [historyEq, entriesEq]
    | some last =>
      have some_history : log.history ≠ [] := by
        rintro nothing
        rw [nothing] at isLast
        cases isLast
      have last_le : last.sequence ≤ log.nextSeq :=
        (keeps.numbered last ((source_sublist keeps true).subset (mem_of_getLast? isLast))).2
      have some_entries : log.entries ≠ [] := by
        rw [← entriesOfHistory]
        exact fun nothing => some_history (eq_nil_of_rtake keeps.positive nothing)
      rw [if_neg (by simpa using some_history), isLast]
      dsimp only
      rw [tailEventList_eq_rtake _ keeps.positive, entriesOfHistory,
        if_neg (by simpa using some_entries), Int.max_eq_left last_le]
  · have entriesEq : log.entries = [] := by
      rw [← entriesOfHistory, historyEq, rtake_nil]
    rw [load, isMissing, head?_nil, nextSeqEq, historyEq, entriesEq]
    obtain ⟨_, _, _⟩ := isEmpty
    cases empty
    simp_all

theorem Durable.load : Durable lineLength (empty.load lineLength files) recorded files := by
  rw [load_eq durable maxEntries_eq historyMax_eq isEmpty]
  obtain ⟨⟨positive, wider, entries_eq, history_eq, ordered, numbered, nextSeq_nonneg⟩, stateOf,
    tail_eq, fits⟩ := durable
  rw [← maxEntries_eq] at positive wider entries_eq
  rw [← historyMax_eq] at wider history_eq tail_eq
  exact ⟨⟨positive, wider, entries_eq, history_eq, ordered, numbered, nextSeq_nonneg⟩, stateOf,
    tail_eq, fits⟩

end

/-! ## What the writers carry -/

theorem record_hands_on (log : NodeEventLog Payload) (payload : Payload) :
    (log.record payload true).persisted = some (log.record payload true).log.persistedStateLocked ∧
      ((log.record payload true).compactHistory = [] ∧
          (log.record payload true).appendJournal = some (log.record payload true).event ∨
        (log.record payload true).compactHistory = (log.record payload true).log.history) := by
  refine ⟨rfl, ?_⟩
  simp only [record, if_true]
  generalize decide (nodeEventLogCompactThreshold log.historyMax log.maxEntries ≤ _) = compacts
  cases compacts with
  | false => exact .inl ⟨rfl, rfl⟩
  | true => exact .inr rfl

theorem JournalOf.record (keeps : log.Keeps recorded) {lines : List (Event Payload)}
    (journalOf : JournalOf lineLength log lines) (payload : Payload)
    (fits : lineLength (log.record payload true).event < maxJournalLine) :
    JournalOf lineLength (log.record payload true).log
      (lines ++ [(log.record payload true).event]) := by
  have historyPos : 0 < log.historyMax := Nat.lt_of_lt_of_le keeps.positive keeps.wider
  refine ⟨?_, fun line isLine => ?_⟩
  · rw [(record_keeps keeps payload).history_eq]
    change (lines ++ [_]).rtake log.historyMax = (recorded ++ [_]).rtake log.historyMax
    rw [← rtake_rtake_concat historyPos, journalOf.tail_eq, keeps.history_eq,
      rtake_rtake_concat historyPos]
  · rcases mem_append.mp isLine with isOld | isNew
    · exact journalOf.fits line isOld
    · rwa [mem_singleton.mp isNew]

namespace LogSystem

variable {system next : LogSystem Payload}

/-- The state writer carries the state of the log. -/
def StateCarried (system : LogSystem Payload) : Prop :=
  ∃ state, system.writer.buffer.Carries Medium.replace state ∧ StateOf system.log state

/-- The journal writer carries the history of the log. -/
def JournalCarried (lineLength : Event Payload → Nat) (system : LogSystem Payload) : Prop :=
  ∃ lines, system.journal.buffer.Carries Medium.append lines ∧ JournalOf lineLength system.log lines

/-- What a compaction of the journal has achieved. -/
def Compacting (journal : BackgroundWriter (Event Payload)) (flusher : Flusher) :
    CompactStage → Prop
  | .take => True
  | .write => journal.buffer.DrainedBy flusher
  | .rewrite => journal.buffer.Settled

/-- The journal lacks the event that a call has recorded, or is to be replaced. -/
def JournalDue (lineLength : Event Payload → Nat) (system : LogSystem Payload)
    (recording : Recording Payload) : Prop :=
  (recording.compactHistory = [] ∧ ∃ event lines, recording.appendJournal = some event ∧
      system.journal.buffer.Carries Medium.append lines ∧
      JournalOf lineLength system.log (lines ++ [event])) ∨
    (recording.compactHistory = system.log.history ∧ system.log.history ≠ [])

/-- What is left to do for the one call of `Record` that has not returned. -/
def CallDue (lineLength : Event Payload → Nat) (system : LogSystem Payload) (caller : Nat) :
    RecordStage Payload → Prop
  | .persist recording =>
      recording.persisted = some system.log.persistedStateLocked ∧
        (∃ state, system.writer.buffer.Carries Medium.replace state) ∧
        system.JournalDue lineLength recording
  | .journal recording => system.StateCarried ∧ system.JournalDue lineLength recording
  | .compact history stage =>
      system.StateCarried ∧ history = system.log.history ∧
        Compacting system.journal (.call caller) stage

/-- What `Close` finds, or has done to the journal. -/
def CloseDue (lineLength : Event Payload → Nat) (system : LogSystem Payload) :
    LogCloseStage Payload → Prop
  | .compact history stage => history = system.log.history ∧ Compacting system.journal .close stage
  | .running | .writer | .journal | .closed => system.JournalCarried lineLength

/-- No call is unfinished, or one before `Close`. -/
inductive Due (lineLength : Event Payload → Nat) (system : LogSystem Payload) : Prop
  | rest (noCalls : system.calls = []) (state : system.StateCarried)
      (journal : system.CloseDue lineLength system.close)
  | call (caller : Nat) (stage : RecordStage Payload) (oneCall : system.calls = [(caller, stage)])
      (running : system.close.isRunning = true) (due : system.CallDue lineLength caller stage)

variable {writer : BackgroundWriter (NodeEventLogPersistedState Payload)}
  {journal : BackgroundWriter (Event Payload)} {caller : Nat}

theorem StateCarried.flush (state : system.StateCarried)
    (flush : system.writer.buffer.Flush Medium.replace writer.buffer)
    (journal : BackgroundWriter (Event Payload)) :
    StateCarried { system with writer := writer, journal := journal } := by
  obtain ⟨value, carries, stateOf⟩ := state
  exact ⟨value, carries.flush flush, stateOf⟩

theorem Compacting.flush {after : BackgroundWriter (Event Payload)} {flusher : Flusher}
    {stage : CompactStage} (compacting : Compacting journal flusher stage)
    (flush : journal.buffer.Flush Medium.append after.buffer) : Compacting after flusher stage := by
  cases stage with
  | take => trivial
  | write => exact WriteBehind.DrainedBy.flush compacting flush
  | rewrite => exact WriteBehind.Settled.flush compacting flush

theorem JournalDue.flush {recording : Recording Payload}
    (due : system.JournalDue lineLength recording)
    (flush : system.journal.buffer.Flush Medium.append journal.buffer)
    (writer : BackgroundWriter (NodeEventLogPersistedState Payload)) :
    JournalDue lineLength { system with writer := writer, journal := journal } recording := by
  rcases due with ⟨appends, event, lines, isEvent, carries, journalOf⟩ | compacts
  · exact .inl ⟨appends, event, lines, isEvent, carries.flush flush, journalOf⟩
  · exact .inr compacts

theorem Due.flush (due : system.Due lineLength)
    (writerFlush : system.writer.buffer.Flush Medium.replace writer.buffer)
    (journalFlush : system.journal.buffer.Flush Medium.append journal.buffer) :
    Due lineLength { system with writer := writer, journal := journal } := by
  cases due with
  | rest noCalls state closeDue =>
    refine .rest noCalls (state.flush writerFlush journal) ?_
    have carried : system.JournalCarried lineLength →
        JournalCarried lineLength { system with writer := writer, journal := journal } := by
      rintro ⟨lines, carries, journalOf⟩
      exact ⟨lines, carries.flush journalFlush, journalOf⟩
    change CloseDue lineLength { system with writer := writer, journal := journal } system.close
    cases isClose : system.close with
    | running | writer | journal | closed => exact carried (by rwa [isClose] at closeDue)
    | compact =>
      rw [isClose] at closeDue
      exact ⟨closeDue.1, closeDue.2.flush journalFlush⟩
  | call caller stage oneCall running callDue =>
    refine .call caller stage oneCall running ?_
    cases stage with
    | persist =>
      obtain ⟨persistedEq, ⟨value, carries⟩, journalDue⟩ := callDue
      exact ⟨persistedEq, ⟨value, carries.flush writerFlush⟩, journalDue.flush journalFlush writer⟩
    | journal => exact ⟨callDue.1.flush writerFlush journal, callDue.2.flush journalFlush writer⟩
    | compact =>
      exact ⟨callDue.1.flush writerFlush journal, callDue.2.1, callDue.2.2.flush journalFlush⟩

/-! ## Runs -/

structure Ready (lineLength : Event Payload → Nat) (opened : NodeEventLog Payload)
    (system : LogSystem Payload) : Prop where
  keeps : system.log.Keeps system.recorded
  maxEntries_eq : opened.maxEntries = system.log.maxEntries
  historyMax_eq : opened.historyMax = system.log.historyMax
  fits : ∀ event ∈ system.log.history, lineLength event < maxJournalLine
  writerClosing : system.writer.Closing
  journalClosing : system.journal.Closing
  isOpen : system.close.beforeWriters = true →
    system.writer.close = .before ∧ system.writer.isClosed = false ∧
      system.journal.close = .before ∧ system.journal.isClosed = false
  writerReturned : system.close = .journal ∨ system.close = .closed →
    system.writer.close = .returned
  journalReturned : system.close = .closed → system.journal.close = .returned
  due : system.Due lineLength

variable {opened : NodeEventLog Payload}

theorem ready_start (durable : Durable lineLength log recorded files)
    (maxEntries_eq : opened.maxEntries = log.maxEntries)
    (historyMax_eq : opened.historyMax = log.historyMax) :
    (start log recorded files).Ready lineLength opened := by
  have historyFits : ∀ event ∈ log.history, lineLength event < maxJournalLine := by
    rw [← durable.journalOf.tail_eq]
    exact fun event isEvent => durable.journalOf.fits event (mem_of_mem_drop isEvent)
  exact {
    keeps := durable.keeps
    maxEntries_eq := maxEntries_eq
    historyMax_eq := historyMax_eq
    fits := historyFits
    writerClosing := closing_of_before rfl
    journalClosing := closing_of_before rfl
    isOpen := fun _ => ⟨rfl, rfl, rfl, rfl⟩
    writerReturned := nofun
    journalReturned := nofun
    due := .rest rfl
      ⟨_, (sound_new files.state).carries, durable.stateOf⟩
      ⟨_, (sound_new files.journal).carries, durable.journalOf⟩ }

theorem Ready.journalOf_history (ready : system.Ready lineLength opened) :
    JournalOf lineLength system.log system.log.history := by
  refine ⟨?_, ready.fits⟩
  rw [ready.keeps.history_eq, rtake_rtake (Nat.le_refl _)]

theorem compacting_step {flusher : Flusher} {stage : CompactStage} (history : List (Event Payload))
    (compacting : Compacting journal flusher stage) (alone : stage = .take → journal.buffer.Quiet) :
    (∀ left, (stepCompact journal flusher history stage).2 = some left →
        Compacting (stepCompact journal flusher history stage).1 flusher left) ∧
      ((stepCompact journal flusher history stage).2 = none →
        (stepCompact journal flusher history stage).1.buffer.Carries Medium.append history) := by
  cases stage with
  | take =>
    refine ⟨?_, nofun⟩
    rintro _ ⟨⟩
    exact WriteBehind.drainedBy_take (alone rfl) flusher
  | write =>
    refine ⟨?_, nofun⟩
    rintro _ ⟨⟩
    exact WriteBehind.DrainedBy.settled_write compacting
  | rewrite => exact ⟨nofun, fun _ => WriteBehind.Settled.carries_file compacting flusher history⟩

section

variable (ready : system.Ready lineLength opened)

include ready

theorem ready_record {payload : Payload} (running : system.close.isRunning = true)
    (noCalls : system.calls = [])
    (fits : lineLength (system.log.record payload true).event < maxJournalLine)
    (steps : system.step (.record caller payload) = some next) : next.Ready lineLength opened := by
  have isRunning := LogCloseStage.eq_running running
  have keeps := record_keeps ready.keeps payload
  obtain ⟨persistedEq, handsOn⟩ := record_hands_on system.log payload
  simp only [step, noCalls, lookup_nil, isSome_none, Bool.false_eq_true, if_false,
    some.injEq] at steps
  cases ready.due with
  | call _ _ oneCall => rw [noCalls] at oneCall; cases oneCall
  | rest _ state closeDue =>
    rw [isRunning] at closeDue
    obtain ⟨lines, carries, journalOf⟩ := closeDue
    have recordedOf := journalOf.record ready.keeps payload fits
    have some_history : (system.log.record payload true).log.history ≠ [] := by
      rw [keeps.history_eq]
      intro nothing
      have allNothing := eq_nil_of_rtake (Nat.lt_of_lt_of_le keeps.positive keeps.wider) nothing
      simp at allNothing
    obtain ⟨value, writerCarries, -⟩ := state
    obtain rfl := steps
    exact { ready with
      keeps := keeps
      fits := by
        rw [← recordedOf.tail_eq]
        exact fun event isEvent => recordedOf.fits event (mem_of_mem_drop isEvent)
      due := by
        refine .call caller _ rfl running ⟨persistedEq, ⟨value, writerCarries⟩, ?_⟩
        rcases handsOn with ⟨appends, isEvent⟩ | compacts
        · exact .inl ⟨appends, _, lines, isEvent, carries, recordedOf⟩
        · exact .inr ⟨compacts, some_history⟩ }

end

theorem calls_setCall {old : RecordStage Payload} (oneCall : system.calls = [(caller, old)])
    (stage : Option (RecordStage Payload)) :
    (system.setCall caller stage).calls = (stage.map fun stage => (caller, stage)).toList := by
  rw [setCall, oneCall]
  exact Assoc.set_singleton old stage

@[simp]
theorem close_stepCompact (journal : BackgroundWriter (Event Payload)) (flusher : Flusher)
    (history : List (Event Payload)) (stage : CompactStage) :
    (stepCompact journal flusher history stage).1.close = journal.close := by
  cases stage <;> rfl

@[simp]
theorem isClosed_stepCompact (journal : BackgroundWriter (Event Payload)) (flusher : Flusher)
    (history : List (Event Payload)) (stage : CompactStage) :
    (stepCompact journal flusher history stage).1.isClosed = journal.isClosed := by
  cases stage <;> rfl

section

variable (ready : system.Ready lineLength opened)

include ready

theorem Ready.proceed
    (running : system.close.isRunning = true) (logEq : next.log = system.log)
    (recordedEq : next.recorded = system.recorded) (closeEq : next.close = system.close)
    (writerEq : next.writer.close = system.writer.close ∧
      next.writer.isClosed = system.writer.isClosed)
    (journalEq : next.journal.close = system.journal.close ∧
      next.journal.isClosed = system.journal.isClosed)
    (due : next.Due lineLength) : next.Ready lineLength opened := by
  have isRunning := LogCloseStage.eq_running running
  have isOpen := ready.isOpen (by rw [isRunning]; rfl)
  exact {
    keeps := by rw [logEq, recordedEq]; exact ready.keeps
    maxEntries_eq := by rw [logEq]; exact ready.maxEntries_eq
    historyMax_eq := by rw [logEq]; exact ready.historyMax_eq
    fits := by rw [logEq]; exact ready.fits
    writerClosing := closing_of_before (writerEq.1.trans isOpen.1)
    journalClosing := closing_of_before (journalEq.1.trans isOpen.2.2.1)
    isOpen := fun _ => by
      rw [writerEq.1, writerEq.2, journalEq.1, journalEq.2]
      exact isOpen
    writerReturned := by
      rw [closeEq, isRunning]
      simp
    journalReturned := by
      rw [closeEq, isRunning]
      nofun
    due := due }

theorem ready_proceed (alone : system.TakesAlone (.proceed caller))
    (steps : system.step (.proceed caller) = some next) : next.Ready lineLength opened := by
  obtain ⟨stage, found, rfl⟩ := map_eq_some_iff.mp steps
  rw [TakesAlone, found] at alone
  cases ready.due with
  | rest noCalls =>
    rw [noCalls] at found
    cases found
  | call _ _ oneCall running due =>
    rw [oneCall] at found
    obtain ⟨rfl, rfl⟩ := Assoc.lookup_singleton found
    have isRunning := LogCloseStage.eq_running running
    obtain ⟨-, writerOpen, -, journalOpen⟩ := ready.isOpen (by rw [isRunning]; rfl)
    cases stage with
    | persist recording =>
      obtain ⟨persistedEq, ⟨value, carries⟩, journalDue⟩ := due
      refine ready.proceed running rfl rfl rfl ⟨close_store .., isClosed_store ..⟩ ⟨rfl, rfl⟩ ?_
      refine .call caller (.journal recording) (calls_setCall oneCall _) running ⟨?_, journalDue⟩
      refine ⟨[system.log.persistedStateLocked], ?_, .inl rfl⟩
      have stored := carries.store (cons_ne_nil system.log.persistedStateLocked [])
      rw [← buffer_store writerOpen caller] at stored
      dsimp only [LogSystem.proceed, setCall]
      rw [persistedEq]
      exact stored
    | journal recording =>
      obtain ⟨state, journalDue⟩ := due
      rcases journalDue with ⟨appends, event, lines, isEvent, carries, journalOf⟩ |
        ⟨compacts, some_history⟩
      · have stored := carries.store (cons_ne_nil event [])
        rw [← buffer_store journalOpen caller] at stored
        have proceedEq : system.proceed caller (.journal recording) =
            { system with
              journal := system.journal.store Medium.append caller [event] }.setCall
                caller none := by
          simp [LogSystem.proceed, appends, isEvent]
        rw [proceedEq]
        refine ready.proceed running rfl rfl rfl ⟨rfl, rfl⟩ ⟨close_store .., isClosed_store ..⟩ ?_
        refine .rest (calls_setCall oneCall _) state ?_
        change CloseDue lineLength _ system.close
        rw [isRunning]
        exact ⟨lines ++ [event], stored, journalOf⟩
      · have proceedEq : system.proceed caller (.journal recording) =
            system.setCall caller (some (.compact recording.compactHistory .take)) := by
          simp [LogSystem.proceed, compacts, some_history]
        rw [proceedEq]
        refine ready.proceed running rfl rfl rfl ⟨rfl, rfl⟩ ⟨rfl, rfl⟩ ?_
        exact .call caller _ (calls_setCall oneCall _) running ⟨state, compacts, trivial⟩
    | compact history stage =>
      obtain ⟨state, historyEq, compacting⟩ := due
      have quiet : stage = .take → system.journal.buffer.Quiet := by
        rintro rfl
        exact alone rfl
      obtain ⟨goesOn, ends⟩ := compacting_step history compacting quiet
      refine ready.proceed running rfl rfl rfl ⟨rfl, rfl⟩
        ⟨close_stepCompact .., isClosed_stepCompact ..⟩ ?_
      cases isLeft : (stepCompact system.journal (.call caller) history stage).2 with
      | none =>
        refine .rest ?_ state ?_
        · dsimp only [LogSystem.proceed]
          rw [isLeft]
          exact calls_setCall oneCall _
        · change CloseDue lineLength _ system.close
          rw [isRunning]
          exact ⟨history, ends isLeft, historyEq ▸ ready.journalOf_history⟩
      | some left =>
        refine .call caller (.compact history left) ?_ running
          ⟨state, historyEq, goesOn left isLeft⟩
        dsimp only [LogSystem.proceed]
        rw [isLeft]
        exact calls_setCall oneCall _

theorem ready_close (noCalls : system.calls = []) (alone : system.TakesAlone .close)
    (steps : system.step .close = some next) : next.Ready lineLength opened := by
  cases ready.due with
  | call _ _ oneCall => rw [noCalls] at oneCall; cases oneCall
  | rest _ state closeDue =>
    rw [step, stepClose] at steps
    cases isClose : system.close with
    | running =>
      simp only [isClose] at steps closeDue
      have isOpen := ready.isOpen (by rw [isClose]; rfl)
      split_ifs at steps
      · obtain rfl := some.inj steps
        exact { ready with
          isOpen := fun _ => isOpen
          writerReturned := by simp
          journalReturned := nofun
          due := .rest noCalls state ⟨rfl, trivial⟩ }
      · obtain rfl := some.inj steps
        exact { ready with
          isOpen := nofun
          writerReturned := by simp
          journalReturned := nofun
          due := .rest noCalls state closeDue }
    | compact history stage =>
      rw [isClose] at closeDue
      simp only [isClose, some.injEq] at steps
      obtain ⟨historyEq, compacting⟩ := closeDue
      have quiet : stage = .take → system.journal.buffer.Quiet := by
        rintro rfl
        exact alone.1 (by rw [isClose]; rfl)
      obtain ⟨goesOn, ends⟩ := compacting_step history compacting quiet
      have isOpen := ready.isOpen (by rw [isClose]; rfl)
      have journalBefore : (stepCompact system.journal .close history stage).1.close = .before :=
        (close_stepCompact ..).trans isOpen.2.2.1
      obtain rfl := steps
      cases isLeft : (stepCompact system.journal .close history stage).2 with
      | none =>
        exact { ready with
          journalClosing := closing_of_before journalBefore
          isOpen := nofun
          writerReturned := by simp
          journalReturned := nofun
          due := .rest noCalls state ⟨history, ends isLeft, historyEq ▸ ready.journalOf_history⟩ }
      | some left =>
        exact { ready with
          journalClosing := closing_of_before journalBefore
          isOpen := fun _ => ⟨isOpen.1, isOpen.2.1, journalBefore,
            (isClosed_stepCompact ..).trans isOpen.2.2.2⟩
          writerReturned := by simp
          journalReturned := nofun
          due := .rest noCalls state ⟨historyEq, goesOn left isLeft⟩ }
    | writer =>
      simp only [isClose] at steps closeDue
      split_ifs at steps with isReturned
      · obtain rfl := some.inj steps
        exact { ready with
          isOpen := nofun
          writerReturned := fun _ => isReturned
          journalReturned := nofun
          due := .rest noCalls state closeDue }
      · obtain ⟨_, stepped, rfl⟩ := map_eq_some_iff.mp steps
        obtain ⟨flush, -, closing⟩ :=
          flush_of_stepClose ready.writerClosing (alone.2.1 isClose) stepped
        exact { ready with
          writerClosing := closing
          isOpen := nofun
          writerReturned := by simp
          journalReturned := nofun
          due := .rest noCalls (state.flush flush system.journal) closeDue }
    | journal =>
      simp only [isClose] at steps closeDue
      have writerReturned := ready.writerReturned (.inl isClose)
      split_ifs at steps with isReturned
      · obtain rfl := some.inj steps
        exact { ready with
          isOpen := nofun
          writerReturned := fun _ => writerReturned
          journalReturned := fun _ => isReturned
          due := .rest noCalls state closeDue }
      · obtain ⟨_, stepped, rfl⟩ := map_eq_some_iff.mp steps
        obtain ⟨flush, -, closing⟩ :=
          flush_of_stepClose ready.journalClosing (alone.2.2 isClose) stepped
        obtain ⟨lines, carries, journalOf⟩ := closeDue
        exact { ready with
          journalClosing := closing
          isOpen := nofun
          writerReturned := fun _ => writerReturned
          journalReturned := nofun
          due := .rest noCalls state ⟨lines, carries.flush flush, journalOf⟩ }
    | closed => simp only [isClose, reduceCtorEq] at steps

end

/-- `Record` and `Close` come in order, calls do not overlap, data is taken by one flusher at a
time and lines fit. -/
def Scheduled (lineLength : Event Payload → Nat) (system : LogSystem Payload)
    (event : LogEvent Payload) : Prop :=
  system.InOrder event ∧ system.OneCall event ∧ system.TakesAlone event ∧
    system.LineFits lineLength event

instance [DecidableEq Payload] (event : LogEvent Payload) :
    Decidable (system.Scheduled lineLength event) :=
  inferInstanceAs (Decidable (_ ∧ _ ∧ _ ∧ _))

theorem ready_step (ready : system.Ready lineLength opened) {event : LogEvent Payload}
    (scheduled : system.Scheduled lineLength event) (steps : system.step event = some next) :
    next.Ready lineLength opened := by
  obtain ⟨inOrder, oneCall, alone, fits⟩ := scheduled
  cases event with
  | record => exact ready_record ready inOrder (isEmpty_iff.mp oneCall) fits steps
  | recordLiveOnly =>
    obtain rfl := some.inj steps
    exact { ready with }
  | proceed => exact ready_proceed ready alone steps
  | writerRun =>
    obtain ⟨_, stepped, rfl⟩ := map_eq_some_iff.mp steps
    obtain ⟨flush, same⟩ := flush_of_stepRun alone stepped
    exact { ready with
      writerClosing := ready.writerClosing.flush flush same
      isOpen := by
        rw [same.close_eq, same.isClosed_eq]
        exact ready.isOpen
      writerReturned := by
        rw [same.close_eq]
        exact ready.writerReturned
      due := ready.due.flush flush .kept }
  | journalRun =>
    obtain ⟨_, stepped, rfl⟩ := map_eq_some_iff.mp steps
    obtain ⟨flush, same⟩ := flush_of_stepRun alone stepped
    exact { ready with
      journalClosing := ready.journalClosing.flush flush same
      isOpen := by
        rw [same.close_eq, same.isClosed_eq]
        exact ready.isOpen
      journalReturned := by
        rw [same.close_eq]
        exact ready.journalReturned
      due := ready.due.flush .kept flush }
  | close => exact ready_close ready (isEmpty_iff.mp inOrder) alone steps

theorem Ready.durable (ready : system.Ready lineLength opened) (closed : system.close = .closed) :
    Durable lineLength system.log system.recorded system.files := by
  have writerSettled := ready.writerClosing.settled (ready.writerReturned (.inr closed))
  have journalSettled := ready.journalClosing.settled (ready.journalReturned closed)
  cases ready.due with
  | call _ _ _ running => rw [closed] at running; cases running
  | rest _ state closeDue =>
    rw [closed] at closeDue
    obtain ⟨_, carries, stateOf⟩ := state
    obtain ⟨_, journalCarries, journalOf⟩ := closeDue
    refine ⟨ready.keeps, ?_, ?_⟩
    · rw [files, carries.file_eq writerSettled.quiet writerSettled.nothing]
      exact stateOf
    · rw [files, journalCarries.file_eq journalSettled.quiet journalSettled.nothing]
      exact journalOf

end LogSystem

theorem limits_load (lineLength : Event Payload → Nat) (log : NodeEventLog Payload)
    (files : LogFiles Payload) :
    (log.load lineLength files).maxEntries = log.maxEntries ∧
      (log.load lineLength files).historyMax = log.historyMax := by
  rw [load]
  cases files.state.head? with
  | none => exact ⟨rfl, rfl⟩
  | some =>
    dsimp only
    split
    · exact ⟨rfl, rfl⟩
    · exact ⟨rfl, rfl⟩

/-- If calls of `Record` do not overlap, data is taken by one flusher at a time and every line
fits, the log opened on the files of the closed one holds the same events and goes on with larger
numbers, and so on with its own run. -/
theorem reopened_log_eq (lineLength : Event Payload → Nat) (maxEntries : Int)
    {files : LogFiles Payload} {recorded : List (Event Payload)}
    (durable : Durable lineLength (newNodeEventLog lineLength maxEntries files) recorded files)
    {events : List (LogEvent Payload)} {system : LogSystem Payload}
    (runs : Runs.execute LogSystem.step
      (.start (newNodeEventLog lineLength maxEntries files) recorded files) events = some system)
    (meets : Runs.Meets LogSystem.step (LogSystem.Scheduled lineLength)
      (.start (newNodeEventLog lineLength maxEntries files) recorded files) events)
    (closed : system.close = .closed) :
    let reopened := newNodeEventLog lineLength maxEntries system.files
    reopened.entries = system.log.entries ∧ reopened.history = system.log.history ∧
      Ordered Event.sequence reopened.entries ∧ Ordered Event.sequence reopened.history ∧
      (∀ event ∈ system.recorded, ∀ payload,
        event.sequence < (reopened.record payload true).event.sequence) ∧
      Durable lineLength reopened system.recorded system.files := by
  intro reopened
  have limits := limits_load lineLength (new maxEntries) files
  have ready : system.Ready lineLength (new maxEntries) :=
    Runs.invariant_of_meets _ (fun _ _ _ ready scheduled => LogSystem.ready_step ready scheduled)
      (LogSystem.ready_start durable limits.1.symm limits.2.symm) meets runs
  have closedDurable := ready.durable closed
  have loaded := load_eq closedDurable ready.maxEntries_eq ready.historyMax_eq ⟨rfl, rfl, rfl⟩
  have reopenedDurable : Durable lineLength reopened system.recorded system.files :=
    closedDurable.load ready.maxEntries_eq ready.historyMax_eq ⟨rfl, rfl, rfl⟩
  have entriesEq := congrArg entries loaded
  have historyEq := congrArg history loaded
  refine ⟨entriesEq, historyEq, ?_, ?_, ?_, reopenedDurable⟩
  · exact reopenedDurable.keeps.ordered.sublist (source_sublist reopenedDurable.keeps false)
  · exact reopenedDurable.keeps.ordered.sublist (source_sublist reopenedDurable.keeps true)
  · intro event isEvent _
    exact Int.lt_add_one_of_le (reopenedDurable.keeps.numbered event isEvent).2

theorem durable_new (lineLength : Event Payload → Nat) (maxEntries : Int) :
    Durable lineLength (newNodeEventLog lineLength maxEntries ⟨[], []⟩) [] ⟨[], []⟩ where
  keeps := new_keeps maxEntries
  stateOf := .inr ⟨rfl, rfl, rfl⟩
  journalOf := ⟨rtake_nil _, nofun⟩

def callsInTurn : List (LogEvent Nat) :=
  [.record 0 10, .proceed 0, .proceed 0, .record 1 20, .proceed 1, .proceed 1,
    .writerRun false, .writerRun false, .writerRun false] ++ List.replicate 13 .close ++
    [.journalRun true, .journalRun true, .journalRun true] ++ List.replicate 4 .close

theorem reopened_log_eq_in_turn :
    ∃ system : LogSystem Nat,
      Runs.execute LogSystem.step (.start (newNodeEventLog (fun _ => 100) 5 ⟨[], []⟩) [] ⟨[], []⟩)
          callsInTurn = some system ∧
        (newNodeEventLog (fun _ => 100) 5 system.files).history = [⟨1, 10⟩, ⟨2, 20⟩] := by
  obtain ⟨system, runs, closed, historyEq⟩ : ∃ system : LogSystem Nat,
      Runs.execute LogSystem.step (.start (newNodeEventLog (fun _ => 100) 5 ⟨[], []⟩) [] ⟨[], []⟩)
          callsInTurn = some system ∧
        system.close = .closed ∧ system.log.history = [⟨1, 10⟩, ⟨2, 20⟩] :=
    Runs.exists_of_any (by decide +kernel)
  obtain ⟨-, same, -⟩ := reopened_log_eq (fun _ => 100) 5 (durable_new _ 5) runs
    (by decide +kernel) closed
  exact ⟨system, runs, same.trans historyEq⟩

/-- Two calls of `Record` that overlap: the first gets its number first and writes last. -/
def overlappingCalls : List (LogEvent Nat) :=
  [.record 0 10, .record 1 20, .proceed 1, .proceed 0, .proceed 1, .proceed 0,
    .writerRun false, .writerRun false, .writerRun false] ++ List.replicate 13 .close ++
    [.journalRun true, .journalRun true, .journalRun true] ++ List.replicate 4 .close

/-- The state file is left with the state of the first call, and the log opened on it issues the
second number again. -/
theorem reopened_log_repeats_number :
    ∃ system : LogSystem Nat,
      Runs.execute LogSystem.step (.start (newNodeEventLog (fun _ => 100) 5 ⟨[], []⟩) [] ⟨[], []⟩)
          overlappingCalls = some system ∧
        Runs.Meets LogSystem.step
          (fun system event => system.InOrder event ∧ system.TakesAlone event ∧
            system.LineFits (fun _ => 100) event)
          (.start (newNodeEventLog (fun _ => 100) 5 ⟨[], []⟩) [] ⟨[], []⟩) overlappingCalls ∧
        system.close = .closed ∧ system.log.history = [⟨1, 10⟩, ⟨2, 20⟩] ∧
        (newNodeEventLog (fun _ => 100) 5 system.files).history = [⟨2, 20⟩, ⟨1, 10⟩] ∧
        ((newNodeEventLog (fun _ => 100) 5 system.files).record 30 true).event.sequence = 2 := by
  exact Runs.exists_of_any (by decide +kernel)

end DeepNps.Node
