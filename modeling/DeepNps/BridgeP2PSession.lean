import DeepNps.LabelledRuns

/-!
# Sessions of the bridge

When a visitor and a provider have reported, the bridge sends each a summary; when both
are ready it tells them to go; when both have a transport the session is closed.  A step
of a goroutine is a critical section, or one thing done outside: a write, the close of a
connection, a change of the probe state or of the session manager.
-/

namespace DeepNps.Bridge

inductive P2PRole
  | visitor
  | provider
  deriving DecidableEq

/-- `WORK_P2P_VISITOR` and `WORK_P2P_PROVIDER` -/
def P2PRole.name : P2PRole → String
  | .visitor => "p2pv"
  | .provider => "p2pp"

/-- The messages of a role, as far as the session looks at them. -/
structure ProbeReport where
  sessionID : String
  token : String
  role : String
  deriving DecidableEq

structure PunchProgress where
  sessionID : String
  role : String
  stage : String
  status : String
  deriving DecidableEq

structure PunchReady where
  sessionID : String
  role : String
  deriving DecidableEq

structure PunchAbort where
  sessionID : String
  role : String
  reason : String
  deriving DecidableEq

/-- A control message; the payload of a malformed one cannot be decoded. -/
inductive ControlMessage
  | report (report : ProbeReport)
  | progress (progress : PunchProgress)
  | ready (ready : PunchReady)
  | abort (abort : PunchAbort)
  | malformed (flag : String)
  | unknown
  deriving DecidableEq

def sessionControlReadFailureReason (role : P2PRole) (flag : String) : String :=
  if flag = "p2pr" then role.name ++ " report read failed"
  else if flag = "p2pg" then role.name ++ " progress read failed"
  else if flag = "p2rd" then role.name ++ " ready read failed"
  else if flag = "p2ab" then role.name ++ " abort read failed"
  else if flag = "" then role.name ++ " control closed"
  else role.name ++ " control payload read failed"

/-- `p2pBridgeSession`, as far as it is guarded by its mutex: `reported` is for the reports,
`attached` for the control connections, `established` and `finalLogged` belong to the telemetry.
Of the timer the reason of its abort is kept, and whether it is going to fire. -/
structure P2PBridgeSession where
  id : String
  token : String
  closed : Bool
  summarySent : Bool
  goSent : Bool
  finalLogged : Bool
  reported : P2PRole → Bool
  ready : P2PRole → Bool
  established : P2PRole → Bool
  attached : P2PRole → Bool
  timer : Option String
  pending : Bool

namespace P2PBridgeSession

def new (id token : String) : P2PBridgeSession where
  id
  token
  closed := false
  summarySent := false
  goSent := false
  finalLogged := false
  reported := fun _ => false
  ready := fun _ => false
  established := fun _ => false
  attached := fun role => role = .visitor
  timer := some "session timeout"
  pending := true

def both (holds : P2PRole → Bool) : Bool := holds .visitor && holds .provider

def noteReport (session : P2PBridgeSession) (role : P2PRole) : P2PBridgeSession :=
  { session with reported := Function.update session.reported role true }

def noteReady (session : P2PBridgeSession) (role : P2PRole) : P2PBridgeSession :=
  { session with ready := Function.update session.ready role true }

def noteProgress (session : P2PBridgeSession) (role : P2PRole) (progress : PunchProgress) :
    P2PBridgeSession :=
  if progress.stage = "transport_established" ∧ progress.status ≠ "fail" then
    { session with established := Function.update session.established role true }
  else session

def claimSummary (session : P2PBridgeSession) : P2PBridgeSession :=
  { session with summarySent := true }

def claimGo (session : P2PBridgeSession) : P2PBridgeSession := { session with goSent := true }

def attachControl (session : P2PBridgeSession) (role : P2PRole) : P2PBridgeSession :=
  { session with attached := Function.update session.attached role true }

def rearm (session : P2PBridgeSession) (reason : String) : P2PBridgeSession :=
  { session with timer := some (session.timer.getD reason), pending := true }

def fire (session : P2PBridgeSession) : P2PBridgeSession := { session with pending := false }

/-- The session is closed, its timer stopped, its outcome logged and its control connections taken
over by the goroutine that closes it. -/
def close (session : P2PBridgeSession) : P2PBridgeSession :=
  { session with
    closed := true, finalLogged := true, attached := fun _ => false,
    timer := none, pending := false }

def recordReport (session : P2PBridgeSession) (role : P2PRole) (report : ProbeReport) :
    Bool × P2PBridgeSession :=
  if session.closed ∨ report.sessionID ≠ session.id ∨ report.token ≠ session.token ∨
      report.role ≠ role.name then
    (false, session)
  else (both (session.noteReport role).reported, session.noteReport role)

def recordReady (session : P2PBridgeSession) (role : P2PRole) (ready : PunchReady) :
    Bool × P2PBridgeSession :=
  if session.closed ∨ ready.sessionID ≠ session.id ∨ ready.role ≠ role.name ∨
      ¬ session.summarySent then
    (false, session)
  else (both (session.noteReady role).ready && !session.goSent, session.noteReady role)

/-- `maybeFinalizeSuccess`, once the summary and the go were sent. -/
def finalize (session : P2PBridgeSession) : Bool × P2PBridgeSession :=
  if session.summarySent ∧ session.goSent ∧ ¬ session.finalLogged ∧ both session.established then
    (true, session.close)
  else (false, session)

def recordProgress (session : P2PBridgeSession) (role : P2PRole) (progress : PunchProgress) :
    Bool × P2PBridgeSession :=
  if session.closed ∨ progress.sessionID ≠ session.id ∨ progress.role ≠ role.name then
    (false, session)
  else (session.noteProgress role progress).finalize

def prepareTransportEstablishedCompletion (session : P2PBridgeSession) : Bool × P2PBridgeSession :=
  if session.closed then (false, session) else session.finalize

def prepareSummaryDispatch (session : P2PBridgeSession) : Bool × P2PBridgeSession :=
  if session.closed ∨ session.summarySent ∨ ¬ both session.reported then (false, session)
  else (true, session.claimSummary)

def prepareGoDispatch (session : P2PBridgeSession) : Bool × P2PBridgeSession :=
  if session.closed ∨ ¬ session.summarySent ∨ session.goSent ∨ ¬ both session.attached then
    (false, session)
  else (true, session.claimGo)

def schedulePostSummaryTimeout (session : P2PBridgeSession) : Bool × P2PBridgeSession :=
  if session.closed then (false, session)
  else (true, session.rearm "post-summary timeout")

def prepareAbortCompletion (session : P2PBridgeSession) : Bool × P2PBridgeSession :=
  if session.closed then (false, session) else (true, session.close)

def shouldAbortPending (session : P2PBridgeSession) (role : P2PRole) : Bool :=
  !session.closed && !session.established role

def acceptsAbort (session : P2PBridgeSession) (role : P2PRole) (abort : PunchAbort) : Bool :=
  ¬ session.closed ∧ abort.sessionID = session.id ∧ abort.role = role.name

def attachProvider (session : P2PBridgeSession) : Bool × P2PBridgeSession :=
  if session.closed ∨ session.attached .provider then (false, session)
  else (true, session.attachControl .provider)

end P2PBridgeSession

/-- What the bridge tells both roles. -/
inductive BridgeMessage
  | summary
  | go
  deriving DecidableEq

def BridgeMessage.failure (message : BridgeMessage) (role : P2PRole) : String :=
  match message, role with
  | .summary, .visitor => "send visitor summary failed"
  | .summary, .provider => "send provider summary failed"
  | .go, .visitor => "send visitor punch go failed"
  | .go, .provider => "send provider punch go failed"

/-- What `applySessionCompletion` does. -/
inductive CompletionStep
  | writeAbort (role : P2PRole) (reason : String)
  | close (role : P2PRole)
  | unregister
  | delete
  deriving DecidableEq

/-- After a completion a goroutine reads the next message, returns, or closes the connection of
the visitor before. -/
inductive Ending
  | reads
  | returns
  | closes
  deriving DecidableEq

/-- The first two stages are those of `create` after the timer was armed; a goroutine that is
`sending` has the message to write to the roles that are left. -/
inductive SessionStage
  | idle
  | armed
  | stored
  | starting
  | reading
  | recorded
  | readied
  | sending (message : BridgeMessage) (left : List P2PRole)
  | failed (message : BridgeMessage) (role : P2PRole)
  | scheduled
  | pendingAbort (role : P2PRole) (reason : String)
  | aborting (reason : String) (ending : Ending)
  | completing (left : List CompletionStep) (ending : Ending)
  | closing
  | returned
  deriving DecidableEq

def Ending.stage : Ending → SessionStage
  | .reads => .reading
  | .returns => .returned
  | .closes => .closing

/-- The goroutine of the visitor's request, those of the control connections, and the timer's. -/
inductive SessionThread
  | connect
  | serve (role : P2PRole)
  | timer (index : Nat)
  deriving DecidableEq

inductive SessionOutcome
  | established
  | aborted
  deriving DecidableEq

/-- The roles whose control connection is there, in the order in which they are written to. -/
def P2PBridgeSession.recipients (session : P2PBridgeSession) : List P2PRole :=
  [.visitor, .provider].filter session.attached

def P2PBridgeSession.completion (session : P2PBridgeSession) (reason : String)
    (unregisters : Bool) : List CompletionStep :=
  (if reason = "" then [] else session.recipients.map fun role => .writeAbort role reason) ++
    session.recipients.map .close ++ (if unregisters then [.unregister] else []) ++ [.delete]

/-- A session with its goroutines, the open control connections, whether the session manager has
it and its probe state is registered, the messages written and the outcomes. -/
structure SessionSystem where
  session : P2PBridgeSession
  threads : SessionThread → SessionStage
  opened : P2PRole → Bool
  inManager : Bool
  registered : Bool
  sent : BridgeMessage → P2PRole → Nat
  outcomes : List SessionOutcome

/-- One of the writes of the start messages fails or none does, a request names the session, the
provider joins, a role sends a message or its connection fails, the timer fires, or a goroutine
takes its next step, in which a write may fail. -/
inductive SessionEvent
  | started (failure : Option P2PRole)
  | get
  | join
  | message (role : P2PRole) (message : ControlMessage)
  | readFails (role : P2PRole) (flag : String)
  | timeout (index : Nat)
  | advance (thread : SessionThread) (written : Bool)
  deriving DecidableEq

namespace SessionSystem

/-- The session right after its timer was armed in `create`. -/
def new (id token : String) : SessionSystem where
  session := P2PBridgeSession.new id token
  threads := Function.update (fun _ => .idle) .connect .armed
  opened := fun _ => true
  inManager := false
  registered := false
  sent := fun _ _ => 0
  outcomes := []

def setStage (system : SessionSystem) (thread : SessionThread) (stage : SessionStage) :
    SessionSystem :=
  { system with threads := Function.update system.threads thread stage }

def setSession (system : SessionSystem) (session : P2PBridgeSession) : SessionSystem :=
  { system with session }

def log (system : SessionSystem) (outcome : SessionOutcome) : SessionSystem :=
  { system with outcomes := system.outcomes ++ [outcome] }

def deliver (system : SessionSystem) (message : BridgeMessage) (role : P2PRole) : SessionSystem :=
  { system with
    sent := Function.update system.sent message
      (Function.update (system.sent message) role (system.sent message role + 1)) }

def closeControl (system : SessionSystem) (role : P2PRole) : SessionSystem :=
  { system with opened := Function.update system.opened role false }

def unregister (system : SessionSystem) : SessionSystem := { system with registered := false }

def delete (system : SessionSystem) : SessionSystem := { system with inManager := false }

def complete (system : SessionSystem) : CompletionStep → SessionSystem
  | .writeAbort _ _ => system
  | .close role => system.closeControl role
  | .unregister => system.unregister
  | .delete => system.delete

/-- A critical section whose result decides where its goroutine goes on. -/
def branch (system : SessionSystem) (thread : SessionThread)
    (decided : Bool × P2PBridgeSession) (accepted refused : SessionStage) : SessionSystem :=
  (system.setSession decided.2).setStage thread (if decided.1 then accepted else refused)

/-- A critical section that may close the session; the goroutine that closes it goes on with
the completion. -/
def conclude (system : SessionSystem) (thread : SessionThread)
    (decided : Bool × P2PBridgeSession) (outcome : SessionOutcome)
    (steps : List CompletionStep) (ending : Ending) : SessionSystem :=
  let moved := system.branch thread decided (.completing steps ending) ending.stage
  if decided.1 then moved.log outcome else moved

/-- `tryFinalizeTransportEstablished` and `handleProgress`: nobody is told, and the probe
state is left alone. -/
def establish (system : SessionSystem) (thread : SessionThread)
    (decided : Bool × P2PBridgeSession) : SessionSystem :=
  system.conclude thread decided .established (system.session.completion "" false) .reads

def abort (system : SessionSystem) (thread : SessionThread) (reason : String)
    (ending : Ending) : SessionSystem :=
  system.conclude thread system.session.prepareAbortCompletion .aborted
    (system.session.completion reason true) ending

/-- `writeSessionMessage`, which fails on a connection that was closed. -/
def write (system : SessionSystem) (thread : SessionThread) (message : BridgeMessage)
    (role : P2PRole) (left : List P2PRole) (written : Bool) : SessionSystem :=
  if written ∧ system.opened role then
    (system.deliver message role).setStage thread (.sending message left)
  else system.setStage thread (.failed message role)

def handleControlMessage (system : SessionSystem) (role : P2PRole) (message : ControlMessage) :
    SessionSystem :=
  let session := system.session
  let thread : SessionThread := .serve role
  match message with
  | .report report => system.branch thread (session.recordReport role report) .recorded .reading
  | .progress progress => system.establish thread (session.recordProgress role progress)
  | .ready ready => system.branch thread (session.recordReady role ready) .readied .reading
  | .abort abort =>
      system.setStage thread
        (if session.acceptsAbort role abort then .aborting abort.reason .reads else .reading)
  | .malformed flag =>
      system.setStage thread (.pendingAbort role (sessionControlReadFailureReason role flag))
  | .unknown => system

def advance (system : SessionSystem) (thread : SessionThread) (written : Bool) :
    Option SessionSystem :=
  let session := system.session
  match system.threads thread with
  | .idle | .starting | .reading | .returned => none
  | .armed => some ({ system with inManager := true }.setStage thread .stored)
  | .stored => some ({ system with registered := true }.setStage thread .starting)
  | .recorded =>
      some (system.branch thread session.prepareSummaryDispatch
        (.sending .summary session.recipients) .reading)
  | .readied =>
      some (system.branch thread session.prepareGoDispatch
        (.sending .go session.recipients) .reading)
  | .sending message (role :: left) => some (system.write thread message role left written)
  | .sending .summary [] =>
      some (system.branch thread session.schedulePostSummaryTimeout .scheduled .reading)
  | .sending .go [] => some (system.establish thread session.prepareTransportEstablishedCompletion)
  | .failed message role => some (system.abort thread (message.failure role) .reads)
  | .scheduled => some (system.unregister.setStage thread .reading)
  | .pendingAbort role reason =>
      some (system.setStage thread
        (if session.shouldAbortPending role then .aborting reason .returns else .returned))
  | .aborting reason ending => some (system.abort thread reason ending)
  | .completing [] ending => some (system.setStage thread ending.stage)
  | .completing (step :: left) ending =>
      some ((system.complete step).setStage thread (.completing left ending))
  | .closing => some ((system.closeControl .visitor).setStage thread .returned)

/-- After `dispatchBridgeP2PConnectStart`, which tells the visitor first. -/
def start (system : SessionSystem) : Option P2PRole → SessionSystem
  | none => (system.setStage .connect .returned).setStage (.serve .visitor) .reading
  | some .visitor => system.setStage .connect (.aborting "send visitor start failed" .closes)
  | some .provider => system.setStage .connect (.aborting "send provider start failed" .closes)

def creating (system : SessionSystem) : Bool :=
  system.threads .connect = .armed || system.threads .connect = .stored

/-- A provider joins with the token of the message that starts it, sent once the session was
created. -/
def step (system : SessionSystem) : SessionEvent → Option SessionSystem
  | .started failure =>
      if system.threads .connect = .starting ∧ system.threads (.serve .visitor) = .idle then
        some (system.start failure)
      else none
  | .get => some (if system.session.closed then system.delete else system)
  | .join =>
      if ¬ system.creating ∧ system.threads (.serve .provider) = .idle then
        some (system.branch (.serve .provider) system.session.attachProvider .reading .idle)
      else none
  | .message role message =>
      if system.threads (.serve role) = .reading then
        some (system.handleControlMessage role message)
      else none
  | .readFails role flag =>
      if system.threads (.serve role) = .reading then
        some (system.setStage (.serve role)
          (.pendingAbort role (sessionControlReadFailureReason role flag)))
      else none
  | .timeout index =>
      if system.session.pending ∧ system.threads (.timer index) = .idle then
        some ((system.setSession system.session.fire).setStage (.timer index)
          (.aborting (system.session.timer.getD "") .returns))
      else none
  | .advance thread written => system.advance thread written

end SessionSystem

end DeepNps.Bridge
