import DeepNps.BackgroundWriter
import DeepNps.EventLog

/-!
# The files of the event log

`record` changes the log under its lock and writes afterwards: the state, and the event
or, once enough were trimmed, the whole history.  A line of the journal is its event; the
scanner of `load` gives up at a line that does not fit its buffer.
-/

namespace DeepNps.Node

variable {Payload : Type}

def tailEventList {Entry : Type} (events : List Entry) (limit : Nat) : List Entry :=
  if limit = 0 ∨ events.length ≤ limit then events else events.drop (events.length - limit)

/-- The largest line, with its end, that the scanner of `loadJournalLocked` takes. -/
def maxJournalLine : Nat := 2 * 1024 * 1024

/-- The state file, without content if it does not exist, and the journal. -/
structure LogFiles (Payload : Type) where
  state : List (NodeEventLogPersistedState Payload)
  journal : List (Event Payload)

namespace NodeEventLog

variable (lineLength : Event Payload → Nat)

def loadJournalLocked (historyMax : Nat) (journal : List (Event Payload)) : List (Event Payload) :=
  tailEventList (journal.takeWhile fun event => lineLength event < maxJournalLine) historyMax

def load (log : NodeEventLog Payload) (files : LogFiles Payload) : NodeEventLog Payload :=
  match files.state.head? with
  | none => log
  | some persisted =>
      let nextSeq := persisted.entries.foldl (fun nextSeq entry => max nextSeq entry.sequence)
        persisted.nextSeq
      let entries :=
        if log.maxEntries < persisted.entries.length then
          trimNodeEventWindowInPlace persisted.entries log.maxEntries
        else persisted.entries
      let history := loadJournalLocked lineLength log.historyMax files.journal
      let history := if history.isEmpty then entries else history
      match history.getLast? with
      | none => { log with nextSeq := nextSeq, entries := entries, history := history }
      | some last =>
          let tail := tailEventList history log.maxEntries
          { log with
            nextSeq := max nextSeq last.sequence
            entries := if tail.isEmpty then entries else tail
            history := history }

end NodeEventLog

def newNodeEventLog (lineLength : Event Payload → Nat) (maxEntries : Int)
    (files : LogFiles Payload) : NodeEventLog Payload :=
  (NodeEventLog.new maxEntries).load lineLength files

/-! ## Calls and their writes -/

/-- The parts of `compactJournal`: the two halves of its flush and the new file. -/
inductive CompactStage
  | take
  | write
  | rewrite
deriving DecidableEq, Repr

inductive RecordStage (Payload : Type)
  | persist (recording : Recording Payload)
  | journal (recording : Recording Payload)
  | compact (history : List (Event Payload)) (stage : CompactStage)

/-- The next step of the call takes the lines that wait for the journal. -/
def RecordStage.takes : RecordStage Payload → Bool
  | .compact _ .take => true
  | _ => false

inductive LogCloseStage (Payload : Type)
  | running
  | compact (history : List (Event Payload)) (stage : CompactStage)
  | writer
  | journal
  | closed
deriving DecidableEq

def LogCloseStage.isRunning : LogCloseStage Payload → Bool
  | .running => true
  | _ => false

def LogCloseStage.takes : LogCloseStage Payload → Bool
  | .compact _ .take => true
  | _ => false

theorem LogCloseStage.eq_running {stage : LogCloseStage Payload}
    (running : stage.isRunning = true) : stage = .running := by
  cases stage with
  | running => rfl
  | compact | writer | journal | closed => cases running

def LogCloseStage.beforeWriters : LogCloseStage Payload → Bool
  | .running | .compact _ _ => true
  | .writer | .journal | .closed => false

/-- The log, its writers, the unfinished calls of `Record` and, for the statements, all events. -/
structure LogSystem (Payload : Type) where
  log : NodeEventLog Payload
  writer : BackgroundWriter (NodeEventLogPersistedState Payload)
  journal : BackgroundWriter (Event Payload)
  calls : List (Nat × RecordStage Payload)
  close : LogCloseStage Payload
  recorded : List (Event Payload)

inductive LogEvent (Payload : Type)
  | record (caller : Nat) (payload : Payload)
  | recordLiveOnly (payload : Payload)
  | proceed (caller : Nat)
  | writerRun (stopping : Bool)
  | journalRun (stopping : Bool)
  | close

namespace LogSystem

def start (log : NodeEventLog Payload) (recorded : List (Event Payload))
    (files : LogFiles Payload) : LogSystem Payload where
  log := log
  writer := .new files.state
  journal := .new files.journal
  calls := []
  close := .running
  recorded := recorded

def files (system : LogSystem Payload) : LogFiles Payload where
  state := system.writer.buffer.file
  journal := system.journal.buffer.file

/-- One step of `compactJournal`, and what is left of it. -/
def stepCompact (journal : BackgroundWriter (Event Payload)) (flusher : Flusher)
    (history : List (Event Payload)) :
    CompactStage → BackgroundWriter (Event Payload) × Option CompactStage
  | .take => (journal.takePending flusher, some .write)
  | .write => (journal.writeTaken Medium.append flusher, some .rewrite)
  | .rewrite => ({ journal with buffer := { journal.buffer with file := history } }, none)

def setCall (system : LogSystem Payload) (caller : Nat) (stage : Option (RecordStage Payload)) :
    LogSystem Payload :=
  { system with calls := Assoc.set system.calls caller stage }

def proceed (system : LogSystem Payload) (caller : Nat) : RecordStage Payload → LogSystem Payload
  | .persist recording =>
      { system with
        writer := system.writer.store Medium.replace caller recording.persisted.toList }.setCall
          caller (some (.journal recording))
  | .journal recording =>
      if ¬ recording.compactHistory.isEmpty then
        system.setCall caller (some (.compact recording.compactHistory .take))
      else
        match recording.appendJournal with
        | none => system.setCall caller none
        | some event =>
            { system with
              journal := system.journal.store Medium.append caller [event] }.setCall caller none
  | .compact history stage =>
      let (journal, left) := stepCompact system.journal (.call caller) history stage
      { system with journal := journal }.setCall caller (left.map (.compact history))

def stepClose (system : LogSystem Payload) : Option (LogSystem Payload) :=
  match system.close with
  | .running =>
      let needsCompact : Bool := 0 < system.log.trimmed
      if needsCompact ∧ ¬ system.log.history.isEmpty then
        some { system with close := .compact system.log.history .take }
      else some { system with close := .writer }
  | .compact history stage =>
      let (journal, left) := stepCompact system.journal .close history stage
      some { system with
        journal := journal
        close := (left.map (.compact history)).getD .writer }
  | .writer =>
      if system.writer.close = .returned then some { system with close := .journal }
      else
        (system.writer.stepClose Medium.replace).map fun writer =>
          { system with writer := writer }
  | .journal =>
      if system.journal.close = .returned then some { system with close := .closed }
      else
        (system.journal.stepClose Medium.append).map fun journal =>
          { system with journal := journal }
  | .closed => none

def step (system : LogSystem Payload) : LogEvent Payload → Option (LogSystem Payload)
  | .record caller payload =>
      if (system.calls.lookup caller).isSome then none
      else
        let recording := system.log.record payload true
        some { system with
          log := recording.log
          calls := (caller, .persist recording) :: system.calls
          recorded := system.recorded ++ [recording.event] }
  | .recordLiveOnly payload => some { system with log := (system.log.record payload false).log }
  | .proceed caller => (system.calls.lookup caller).map (system.proceed caller)
  | .writerRun stopping =>
      (system.writer.stepRun Medium.replace stopping).map fun writer =>
        { system with writer := writer }
  | .journalRun stopping =>
      (system.journal.stepRun Medium.append stopping).map fun journal =>
        { system with journal := journal }
  | .close => system.stepClose

/-- `Record` is called before `Close`, and `Close` once every call has returned. -/
def InOrder (system : LogSystem Payload) : LogEvent Payload → Prop
  | .record _ _ | .recordLiveOnly _ => system.close.isRunning = true
  | .close => system.calls.isEmpty = true
  | _ => True

def OneCall (system : LogSystem Payload) : LogEvent Payload → Prop
  | .record _ _ => system.calls.isEmpty = true
  | _ => True

/-- Pending data is taken only while no flusher of the same writer has data that it has
not written. -/
def TakesAlone (system : LogSystem Payload) : LogEvent Payload → Prop
  | .record _ _ | .recordLiveOnly _ => True
  | .proceed caller =>
      (system.calls.lookup caller).any RecordStage.takes → system.journal.buffer.Quiet
  | .writerRun stopping => system.writer.TakesAlone (.run stopping)
  | .journalRun stopping => system.journal.TakesAlone (.run stopping)
  | .close =>
      (system.close.takes → system.journal.buffer.Quiet) ∧
        (system.close = .writer → system.writer.TakesAlone .close) ∧
        (system.close = .journal → system.journal.TakesAlone .close)

/-- The line of an event that is recorded fits the buffer of the scanner. -/
def LineFits (lineLength : Event Payload → Nat) (system : LogSystem Payload) :
    LogEvent Payload → Prop
  | .record _ payload => lineLength (system.log.record payload true).event < maxJournalLine
  | _ => True

section Decidable

variable (lineLength : Event Payload → Nat) (system : LogSystem Payload) (event : LogEvent Payload)

instance : Decidable (system.InOrder event) :=
  match event with
  | .record _ _ | .recordLiveOnly _ => inferInstanceAs (Decidable (system.close.isRunning = true))
  | .close => inferInstanceAs (Decidable (system.calls.isEmpty = true))
  | .proceed _ | .writerRun _ | .journalRun _ => .isTrue trivial

instance : Decidable (system.OneCall event) :=
  match event with
  | .record _ _ => inferInstanceAs (Decidable (system.calls.isEmpty = true))
  | .recordLiveOnly _ | .proceed _ | .writerRun _ | .journalRun _ | .close => .isTrue trivial

instance : Decidable (system.LineFits lineLength event) :=
  match event with
  | .record _ payload => inferInstanceAs
      (Decidable (lineLength (system.log.record payload true).event < maxJournalLine))
  | .recordLiveOnly _ | .proceed _ | .writerRun _ | .journalRun _ | .close => .isTrue trivial

instance [DecidableEq Payload] : Decidable (system.TakesAlone event) :=
  match event with
  | .record _ _ | .recordLiveOnly _ => .isTrue trivial
  | .proceed caller => inferInstanceAs (Decidable
      ((system.calls.lookup caller).any RecordStage.takes → system.journal.buffer.Quiet))
  | .writerRun stopping => inferInstanceAs (Decidable (system.writer.TakesAlone (.run stopping)))
  | .journalRun stopping => inferInstanceAs (Decidable (system.journal.TakesAlone (.run stopping)))
  | .close => inferInstanceAs (Decidable
      ((system.close.takes → system.journal.buffer.Quiet) ∧
        (system.close = .writer → system.writer.TakesAlone .close) ∧
        (system.close = .journal → system.journal.TakesAlone .close)))

end Decidable

end LogSystem

end DeepNps.Node
