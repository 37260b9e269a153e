import DeepNps.BridgeP2PSession
import DeepNps.Broadcast
import Mathlib.Logic.Relation

/-!
# What a step of a session can do

Every event of a session is one of a few changes, and the duties of a goroutine are read
off the stage it is in.
-/

namespace DeepNps.Bridge

namespace SessionStage

/-- The roles to which a goroutine still has to write a message. -/
def left (message : BridgeMessage) : SessionStage → Option (List P2PRole)
  | sending current left => if current = message then some left else none
  | _ => none

def sends (message : BridgeMessage) : SessionStage → Bool
  | sending current (_ :: _) => current = message
  | failed current _ => current = message
  | _ => false

/-- The goroutine has claimed the summary and not unregistered the probe state since. -/
def owes : SessionStage → Bool
  | sending .summary _ => true
  | failed .summary _ => true
  | scheduled => true
  | _ => false

def steps : SessionStage → List CompletionStep
  | completing left _ => left
  | _ => []

def creates : SessionStage → Bool
  | armed => true
  | stored => true
  | _ => false

def serves : SessionStage → Bool
  | reading => true
  | recorded => true
  | readied => true
  | sending _ _ => true
  | failed _ _ => true
  | scheduled => true
  | aborting _ ending => ending = .reads
  | completing _ ending => ending = .reads
  | _ => false

def aborts : SessionStage → Bool
  | aborting _ _ => true
  | _ => false

structure Calm (stage : SessionStage) : Prop where
  left : ∀ message, stage.left message = none
  sends : ∀ message, stage.sends message = false
  owes : stage.owes = false
  steps : stage.steps = []
  creates : stage.creates = false

theorem calm_idle : idle.Calm := by
  constructor <;> intros <;> rfl

theorem calm_starting : starting.Calm := by
  constructor <;> intros <;> rfl

theorem calm_closing : closing.Calm := by
  constructor <;> intros <;> rfl

theorem calm_completing {ending : Ending} : (completing [] ending).Calm := by
  constructor <;> intros <;> rfl

theorem calm_reading : reading.Calm := by
  constructor <;> intros <;> rfl

theorem calm_recorded : recorded.Calm := by
  constructor <;> intros <;> rfl

theorem calm_readied : readied.Calm := by
  constructor <;> intros <;> rfl

theorem calm_returned : returned.Calm := by
  constructor <;> intros <;> rfl

theorem calm_aborting {reason : String} {ending : Ending} : (aborting reason ending).Calm := by
  constructor <;> intros <;> rfl

theorem calm_pendingAbort {role : P2PRole} {reason : String} : (pendingAbort role reason).Calm := by
  constructor <;> intros <;> rfl

theorem calm_ending (ending : Ending) : ending.stage.Calm := by
  cases ending <;> constructor <;> intros <;> rfl

end SessionStage

open SessionStage

namespace P2PBridgeSession

def flag (session : P2PBridgeSession) : BridgeMessage → Bool
  | .summary => session.summarySent
  | .go => session.goSent

structure Notes (role : P2PRole) (before after : P2PBridgeSession) : Prop where
  closed : after.closed = before.closed
  flag : ∀ message, after.flag message = before.flag message
  finalLogged : after.finalLogged = before.finalLogged
  attached : after.attached = before.attached
  pending : after.pending = before.pending
  reported : ∀ other, before.reported other → after.reported other
  ready : ∀ other, before.ready other → after.ready other
  newlyReported : ∀ other, after.reported other → before.reported other ∨ other = role
  newlyReady : ∀ other, after.ready other →
    before.ready other ∨ other = role ∧ before.summarySent = true
  established : ∀ other, before.established other → after.established other

variable {session : P2PBridgeSession} {role : P2PRole}

theorem update_true {holds : P2PRole → Bool} {other : P2PRole} :
    Function.update holds role true other = true ↔ other = role ∨ holds other = true := by
  rw [Function.update_apply]
  split_ifs with same <;> simp [same]

theorem both_eq_true {holds : P2PRole → Bool} : both holds = true ↔ ∀ role, holds role = true := by
  constructor
  · intro isBoth role
    rw [both, Bool.and_eq_true] at isBoth
    cases role with
    | visitor => exact isBoth.1
    | provider => exact isBoth.2
  · intro isBoth
    rw [both, isBoth, isBoth, Bool.and_self]

theorem Notes.refl : Notes role session session := by
  constructor <;> simp +contextual

theorem recordReport_cases (session : P2PBridgeSession) (role : P2PRole)
    (report : ProbeReport) :
    ∃ accepted noted, session.recordReport role report = (accepted, noted) ∧
      Notes role session noted := by
  rw [recordReport]
  split_ifs
  · exact ⟨_, _, rfl, Notes.refl⟩
  · refine ⟨_, _, rfl, ?_⟩
    constructor <;> simp +contextual [noteReport, update_true, flag, or_comm]

theorem recordReady_cases (session : P2PBridgeSession) (role : P2PRole)
    (ready : PunchReady) :
    ∃ accepted noted, session.recordReady role ready = (accepted, noted) ∧
      Notes role session noted ∧ (accepted = true → ∀ other, noted.ready other = true) := by
  rw [recordReady]
  split_ifs with isRefused
  · exact ⟨_, _, rfl, Notes.refl, nofun⟩
  · push Not at isRefused
    refine ⟨_, _, rfl, ?_, ?_⟩
    · constructor <;> simp +contextual [noteReady, update_true, flag, or_comm, isRefused.2.2.2]
    intro isReady
    rw [Bool.and_eq_true, both_eq_true] at isReady
    exact isReady.1

/-- Both roles have established a transport after they were told to go. -/
structure Established (session : P2PBridgeSession) : Prop where
  isOpen : session.closed = false
  flag : ∀ message, session.flag message = true
  established : ∀ role, session.established role = true

theorem finalize_cases (isOpen : session.closed = false) :
    session.finalize = (false, session) ∨
      session.finalize = (true, session.close) ∧ session.Established := by
  rw [finalize]
  split_ifs with isFinal
  · obtain ⟨summarySent, goSent, -, established⟩ := isFinal
    refine .inr ⟨rfl, isOpen, ?_, both_eq_true.mp established⟩
    intro message
    cases message with
    | summary => exact summarySent
    | go => exact goSent
  · exact .inl rfl

theorem recordProgress_cases (session : P2PBridgeSession) (role : P2PRole)
    (progress : PunchProgress) :
    ∃ noted, Notes role session noted ∧
      (session.recordProgress role progress = (false, noted) ∨
        session.recordProgress role progress = (true, noted.close) ∧ noted.Established) := by
  rw [recordProgress]
  split_ifs with isRefused
  · exact ⟨session, Notes.refl, .inl rfl⟩
  · have notes : Notes role session (session.noteProgress role progress) := by
      rw [noteProgress]
      split_ifs
      · constructor <;> simp +contextual [update_true, flag]
      · exact Notes.refl
    push Not at isRefused
    exact ⟨_, notes, finalize_cases (notes.closed.trans (by simpa using isRefused.1))⟩

theorem prepareTransportEstablishedCompletion_cases :
    session.prepareTransportEstablishedCompletion = (false, session) ∨
      session.prepareTransportEstablishedCompletion = (true, session.close) ∧
        session.Established := by
  rw [prepareTransportEstablishedCompletion]
  split_ifs with isClosed
  · exact .inl rfl
  · exact finalize_cases (by simpa using isClosed)

theorem recipients_of_attached (attached : ∀ role, session.attached role = true) :
    session.recipients = [.visitor, .provider] := by
  simp [recipients, attached]

end P2PBridgeSession

open P2PBridgeSession

namespace SessionSystem

def sendsGo (system : SessionSystem) : Bool :=
  (system.threads (.serve .visitor)).sends .go || (system.threads (.serve .provider)).sends .go

/-- What an allowed event does to a system. -/
inductive Change (system : SessionSystem) : SessionSystem → Prop
  | stays : Change system system
  | stores (isArmed : system.threads .connect = .armed) :
      Change system ({ system with inManager := true }.setStage .connect .stored)
  | registers (isStored : system.threads .connect = .stored) :
      Change system ({ system with registered := true }.setStage .connect .starting)
  | spawns (isCreated : system.creating = false)
      (isIdle : system.threads (.serve .visitor) = .idle) :
      Change system (system.setStage (.serve .visitor) .reading)
  | forgets (isClosed : system.session.closed = true) : Change system system.delete
  | attaches (isCreated : system.creating = false)
      (isIdle : system.threads (.serve .provider) = .idle) :
      Change system
        ((system.setSession (system.session.attachControl .provider)).setStage
          (.serve .provider) .reading)
  | fires (index : Nat) (reason : String) (isCreated : system.creating = false)
      (isIdle : system.threads (.timer index) = .idle) :
      Change system
        ((system.setSession system.session.fire).setStage (.timer index)
          (.aborting reason .returns))
  | notes (role : P2PRole) (session : P2PBridgeSession) (stage : SessionStage)
      (isReading : system.threads (.serve role) = .reading)
      (notes : P2PBridgeSession.Notes role system.session session) (calm : stage.Calm)
      (isBusy : stage ≠ .idle)
      (isReady : stage = .readied → ∀ other, session.ready other = true) :
      Change system ((system.setSession session).setStage (.serve role) stage)
  | moves (thread : SessionThread) (stage : SessionStage) (opened : P2PRole → Bool)
      (wasCalm : (system.threads thread).Calm) (calm : stage.Calm)
      (unready : stage ≠ .readied)
      (serves : stage.serves = true → (system.threads thread).serves = true)
      (idles : stage = .idle ↔ system.threads thread = .idle)
      (aborts : (system.threads thread).aborts = true → system.session.closed = true) :
      Change system ({ system with opened }.setStage thread stage)
  | claimsSummary (thread : SessionThread) (isRecorded : system.threads thread = .recorded)
      (isOpen : system.session.closed = false) (fresh : system.session.summarySent = false)
      (reported : ∀ role, system.session.reported role = true) :
      Change system
        ((system.setSession system.session.claimSummary).setStage thread
          (.sending .summary system.session.recipients))
  | claimsGo (thread : SessionThread) (isReadied : system.threads thread = .readied)
      (isOpen : system.session.closed = false) (fresh : system.session.goSent = false)
      (attached : ∀ role, system.session.attached role = true) :
      Change system
        ((system.setSession system.session.claimGo).setStage thread
          (.sending .go system.session.recipients))
  | writes (thread : SessionThread) (message : BridgeMessage) (role : P2PRole)
      (left : List P2PRole) (isSending : system.threads thread = .sending message (role :: left)) :
      Change system ((system.deliver message role).setStage thread (.sending message left))
  | fails (thread : SessionThread) (message : BridgeMessage) (role : P2PRole)
      (left : List P2PRole) (isSending : system.threads thread = .sending message (role :: left)) :
      Change system (system.setStage thread (.failed message role))
  | schedules (thread : SessionThread) (reason : String)
      (isSending : system.threads thread = .sending .summary []) :
      Change system ((system.setSession (system.session.rearm reason)).setStage thread .scheduled)
  | unregisters (thread : SessionThread) (isScheduled : system.threads thread = .scheduled) :
      Change system (system.unregister.setStage thread .reading)
  | drops (thread : SessionThread)
      (isDone : system.threads thread = .sending .go [] ∨
        system.session.closed = true ∧ (system.threads thread = .sending .summary [] ∨
          ∃ message role, system.threads thread = .failed message role)) :
      Change system (system.setStage thread .reading)
  | establishes (role : P2PRole) (session : P2PBridgeSession)
      (isReading : system.threads (.serve role) = .reading)
      (notes : P2PBridgeSession.Notes role system.session session)
      (established : session.Established) (isQuiet : system.sendsGo = false) :
      Change system
        (((system.setSession session.close).setStage (.serve role)
          (.completing (system.session.completion "" false) .reads)).log .established)
  | finalizes (thread : SessionThread) (isSending : system.threads thread = .sending .go [])
      (established : system.session.Established) :
      Change system
        (((system.setSession system.session.close).setStage thread
          (.completing (system.session.completion "" false) .reads)).log .established)
  | aborts (thread : SessionThread) (reason : String) (ending : Ending)
      (isOpen : system.session.closed = false)
      (isAborting : system.threads thread = .aborting reason ending ∨
        ending = .reads ∧ ∃ message role, system.threads thread = .failed message role) :
      Change system
        (((system.setSession system.session.close).setStage thread
          (.completing (system.session.completion reason true) ending)).log .aborted)
  | completes (thread : SessionThread) (step : CompletionStep) (left : List CompletionStep)
      (ending : Ending) (isCompleting : system.threads thread = .completing (step :: left) ending) :
      Change system ((system.complete step).setStage thread (.completing left ending))

/-- The timer does not fire before the session was created, and no progress is noted while a
goroutine is about to write the go messages. -/
def Allowed (system : SessionSystem) : SessionEvent → Prop
  | .timeout _ => system.creating = false
  | .message _ (.progress _) => system.sendsGo = false
  | _ => True

instance (system : SessionSystem) (event : SessionEvent) : Decidable (system.Allowed event) := by
  unfold Allowed
  split <;> infer_instance

variable {system next : SessionSystem} {thread : SessionThread} {role : P2PRole}

theorem Change.goes {stage after : SessionStage} (stageEq : system.threads thread = stage)
    (wasCalm : stage.Calm) (calm : after.Calm) (isPlain : after ≠ .readied ∧ after ≠ .idle)
    (serves : after.serves = true → stage.serves = true) (wasBusy : stage ≠ .idle)
    (aborts : stage.aborts = true → system.session.closed = true)
    (opened : P2PRole → Bool) :
    Change system ({ system with opened }.setStage thread after) := by
  subst stageEq
  exact .moves thread after opened wasCalm calm isPlain.1 serves
    (iff_of_false isPlain.2 wasBusy) aborts

theorem Change.reads {after : SessionStage} (isReading : system.threads (.serve role) = .reading)
    (calm : after.Calm) (isPlain : after ≠ .readied ∧ after ≠ .idle) :
    Change system (system.setStage (.serve role) after) :=
  .goes isReading calm_reading calm isPlain (fun _ => rfl) nofun nofun system.opened

theorem change_abort {reason : String} {ending : Ending}
    (isAborting : system.threads thread = .aborting reason ending ∨
      ending = .reads ∧ ∃ message role, system.threads thread = .failed message role) :
    Change system (system.abort thread reason ending) := by
  rw [abort, conclude, prepareAbortCompletion]
  by_cases isClosed : system.session.closed = true
  · rw [if_pos isClosed]
    obtain isAborting | ⟨rfl, isFailed⟩ := isAborting
    · refine .goes isAborting calm_aborting (calm_ending ending) ?_ ?_
        nofun (fun _ => isClosed) system.opened
      · cases ending <;> exact ⟨nofun, nofun⟩
      · cases ending <;> simp [Ending.stage, serves]
    · exact .drops thread (.inr ⟨isClosed, .inr isFailed⟩)
  · rw [if_neg isClosed]
    exact .aborts thread reason ending (by simpa using isClosed) isAborting

theorem change_message {message : ControlMessage}
    (isReading : system.threads (.serve role) = .reading)
    (isAllowed : system.Allowed (.message role message)) :
    Change system (system.handleControlMessage role message) := by
  cases message with
  | report report =>
    obtain ⟨accepted, noted, recordEq, notes⟩ := system.session.recordReport_cases role report
    rw [handleControlMessage, recordEq]
    apply Change.notes role noted _ isReading notes
    · cases accepted with
      | false => exact calm_reading
      | true => exact calm_recorded
    · cases accepted <;> nofun
    · cases accepted <;> nofun
  | progress progress =>
    obtain ⟨noted, notes, refuses | ⟨accepts, established⟩⟩ :=
      system.session.recordProgress_cases role progress
    · rw [handleControlMessage, refuses]
      exact .notes role noted .reading isReading notes calm_reading nofun nofun
    · rw [handleControlMessage, accepts]
      exact .establishes role noted isReading notes established isAllowed
  | ready ready =>
    obtain ⟨accepted, noted, recordEq, notes, isReady⟩ :=
      system.session.recordReady_cases role ready
    rw [handleControlMessage, recordEq]
    apply Change.notes role noted _ isReading notes
    · cases accepted with
      | false => exact calm_reading
      | true => exact calm_readied
    · cases accepted <;> nofun
    · cases accepted with
      | false => nofun
      | true => exact fun _ => isReady rfl
  | abort =>
    apply Change.reads isReading
    · split_ifs
      · exact calm_aborting
      · exact calm_reading
    · split_ifs <;> exact ⟨nofun, nofun⟩
  | malformed => exact .reads isReading calm_pendingAbort ⟨nofun, nofun⟩
  | unknown => exact .stays

theorem change_advance {written : Bool}
    (isConnect : (system.threads thread).creates = true → thread = .connect)
    (advances : system.advance thread written = some next) : Change system next := by
  revert advances
  rw [advance]
  cases stageEq : system.threads thread with
  | idle | starting | reading | returned => nofun
  | armed =>
    rintro ⟨⟩
    obtain rfl := isConnect (by rw [stageEq]; rfl)
    exact .stores stageEq
  | stored =>
    rintro ⟨⟩
    obtain rfl := isConnect (by rw [stageEq]; rfl)
    exact .registers stageEq
  | recorded =>
    rintro ⟨⟩
    rw [prepareSummaryDispatch]
    split_ifs with isRefused
    · exact .goes stageEq calm_recorded calm_reading ⟨nofun, nofun⟩
        (fun _ => rfl) nofun nofun system.opened
    · push Not at isRefused
      obtain ⟨isOpen, fresh, reported⟩ := isRefused
      exact .claimsSummary thread stageEq (by simpa using isOpen) (by simpa using fresh)
        (both_eq_true.mp reported)
  | readied =>
    rintro ⟨⟩
    rw [prepareGoDispatch]
    split_ifs with isRefused
    · exact .goes stageEq calm_readied calm_reading ⟨nofun, nofun⟩
        (fun _ => rfl) nofun nofun system.opened
    · push Not at isRefused
      obtain ⟨isOpen, -, fresh, attached⟩ := isRefused
      exact .claimsGo thread stageEq (by simpa using isOpen) (by simpa using fresh)
        (both_eq_true.mp attached)
  | sending message left =>
    cases left with
    | cons =>
      rintro ⟨⟩
      rw [write]
      split_ifs
      · exact .writes thread message _ _ stageEq
      · exact .fails thread message _ _ stageEq
    | nil =>
      cases message with
      | summary =>
        rintro ⟨⟩
        rw [schedulePostSummaryTimeout]
        split_ifs with isClosed
        · exact .drops thread (.inr ⟨isClosed, .inl stageEq⟩)
        · exact .schedules thread _ stageEq
      | go =>
        rintro ⟨⟩
        obtain refuses | ⟨accepts, established⟩ :=
          system.session.prepareTransportEstablishedCompletion_cases
        · rw [refuses]
          exact .drops thread (.inl stageEq)
        · rw [accepts]
          exact .finalizes thread stageEq established
  | failed message role =>
    rintro ⟨⟩
    exact change_abort (.inr ⟨rfl, message, role, stageEq⟩)
  | scheduled =>
    rintro ⟨⟩
    exact .unregisters thread stageEq
  | pendingAbort =>
    rintro ⟨⟩
    split_ifs
    · exact .goes stageEq calm_pendingAbort calm_aborting
        ⟨nofun, nofun⟩ (by simp [serves]) nofun nofun system.opened
    · exact .goes stageEq calm_pendingAbort calm_returned
        ⟨nofun, nofun⟩ nofun nofun nofun system.opened
  | aborting =>
    rintro ⟨⟩
    exact change_abort (.inl stageEq)
  | completing left ending =>
    cases left with
    | nil =>
      rintro ⟨⟩
      refine .goes stageEq calm_completing (calm_ending ending) ?_ ?_ nofun nofun system.opened
      · cases ending <;> exact ⟨nofun, nofun⟩
      · cases ending <;> simp [Ending.stage, serves]
    | cons step left =>
      rintro ⟨⟩
      exact .completes thread step left ending stageEq
  | closing =>
    rintro ⟨⟩
    exact .goes stageEq calm_closing calm_returned ⟨nofun, nofun⟩ nofun nofun nofun _

theorem changes_step {event : SessionEvent}
    (isConnect : ∀ thread, (system.threads thread).creates = true → thread = .connect)
    (isAllowed : system.Allowed event) (steps : system.step event = some next) :
    Relation.ReflTransGen Change system next := by
  cases event with
  | started failure =>
    rw [step] at steps
    split_ifs at steps with isStarting
    cases steps
    cases failure with
    | none =>
      have returns : Change system (system.setStage .connect .returned) :=
        .goes isStarting.1 calm_starting calm_returned
          ⟨nofun, nofun⟩ nofun nofun nofun system.opened
      exact .tail (.single returns) (.spawns rfl isStarting.2)
    | some role =>
      refine .single ?_
      cases role <;>
        exact .goes isStarting.1 calm_starting calm_aborting
          ⟨nofun, nofun⟩ (by simp [serves]) nofun nofun system.opened
  | get =>
    cases steps
    split_ifs with isClosed
    · exact .single (.forgets isClosed)
    · exact .refl
  | join =>
    rw [step] at steps
    split_ifs at steps with isEnabled
    cases steps
    rw [attachProvider]
    refine .single ?_
    split_ifs
    · exact .moves _ .idle system.opened (isEnabled.2 ▸ calm_idle)
        calm_idle nofun nofun (iff_of_true rfl isEnabled.2)
        (by simp [isEnabled.2, aborts])
    · exact .attaches (by simpa using isEnabled.1) isEnabled.2
  | message =>
    rw [step] at steps
    split_ifs at steps with isReading
    cases steps
    exact .single (change_message isReading isAllowed)
  | readFails =>
    rw [step] at steps
    split_ifs at steps with isReading
    cases steps
    exact .single (.reads isReading calm_pendingAbort ⟨nofun, nofun⟩)
  | timeout index =>
    rw [step] at steps
    split_ifs at steps with isPending
    cases steps
    exact .single (.fires index _ isAllowed isPending.2)
  | advance thread => exact .single (change_advance (isConnect thread) steps)

end SessionSystem

end DeepNps.Bridge
