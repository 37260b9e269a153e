import DeepNps.BridgeP2PMessages

/-!
# The life of a session

Whoever closes the session owes its removal from the manager; the probe state is owed by
the goroutine that claimed the summary or aborts.  A closed session is gone when nobody
owes anything.
-/

namespace DeepNps.Bridge

open Function

/-- A goroutine that was not started, waits for a message or has returned. -/
def SessionStage.rests : SessionStage → Bool
  | idle => true
  | reading => true
  | returned => true
  | _ => false

theorem SessionStage.steps_of_rests {stage : SessionStage} (rests : stage.rests = true) :
    stage.steps = [] := by
  cases stage with
  | completing => cases rests
  | _ => rfl

namespace SessionSystem

def Fresh (system : SessionSystem) : Prop :=
  system.creating = true → system.session.closed = false ∧ system.session.summarySent = false

/-- A role is not ready before the goroutine that serves it has done what it owes. -/
def Unready (session : P2PBridgeSession) (threads : Stages) : Prop :=
  ∀ thread, (threads thread).owes = true → ∃ role, thread = .serve role ∧ session.ready role = false

/-- Who owes what to the session manager and to the probe state. -/
structure Released (system : SessionSystem) : Prop where
  summary : system.session.closed = false → system.registered = true →
    system.session.summarySent = true → ∃ thread, (system.threads thread).owes = true
  unregister : system.session.closed = true → system.registered = true →
    ∃ thread, .unregister ∈ (system.threads thread).steps
  delete : system.session.closed = true → system.inManager = true →
    ∃ thread, .delete ∈ (system.threads thread).steps

/-- What an established session has gone through. -/
def Complete (system : SessionSystem) : Prop :=
  ∀ role, system.session.reported role = true ∧ system.session.ready role = true ∧
    system.session.established role = true ∧ ∀ message, 0 < system.sent message role

/-- The session is closed with one outcome, as established only if everything before has come. -/
structure Concluded (system : SessionSystem) : Prop where
  outcomes : system.outcomes.length = if system.session.closed then 1 else 0
  established : .established ∈ system.outcomes → system.Complete

variable {system next : SessionSystem} {message : BridgeMessage} {thread : SessionThread}

theorem Fresh.change (fresh : system.Fresh) (placed : Placed system.threads)
    (change : Change system next) : next.Fresh := by
  intro isCreating
  have wasCreating := change.paced.creating isCreating
  have busy : ∀ thread before, system.threads thread = before → before ≠ .idle →
      before.creates = false → False := by
    intro thread _ stageEq wasBusy creates
    rw [creating_eq] at wasCreating
    by_cases isConnect : thread = .connect
    · rw [← isConnect, stageEq, creates] at wasCreating
      cases wasCreating
    · exact wasBusy (stageEq ▸ placed.alone wasCreating thread isConnect)
  cases change with
  | notes _ _ _ isReading
  | establishes _ _ isReading => exact (busy _ _ isReading nofun rfl).elim
  | claimsSummary _ isRecorded => exact (busy _ _ isRecorded nofun rfl).elim
  | finalizes _ isSending => exact (busy _ _ isSending nofun rfl).elim
  | aborts _ _ _ _ isAborting =>
    obtain isAborting | ⟨-, message, role, isFailed⟩ := isAborting
    · exact (busy _ _ isAborting nofun rfl).elim
    · exact (busy _ _ isFailed nofun rfl).elim
  | completes _ _ _ _ isCompleting => exact (busy _ _ isCompleting nofun rfl).elim
  | _ => exact fresh wasCreating

variable {session noted : P2PBridgeSession}

theorem Unready.notes {threads : Stages} {role : P2PRole} (unready : Unready session threads)
    (notes : P2PBridgeSession.Notes role session noted)
    (isReading : threads (.serve role) = .reading) : Unready noted threads := by
  intro thread owes
  obtain ⟨other, rfl, isUnready⟩ := unready thread owes
  refine ⟨other, rfl, ?_⟩
  by_contra isReady
  obtain wasReady | ⟨rfl, -⟩ := notes.newlyReady other (by simpa using isReady)
  · cases isUnready.symm.trans wasReady
  · rw [isReading] at owes
    cases owes

theorem Unready.change (unready : Unready system.session system.threads)
    (placed : Placed system.threads) (ordered : Ordered system.session system.threads)
    (change : Change system next) : Unready next.session next.threads := by
  have session : Unready next.session system.threads := by
    cases change with
    | notes _ _ _ isReading notes => exact unready.notes notes isReading
    | establishes _ session isReading notes =>
      have kept : Unready session system.threads := unready.notes notes isReading
      exact kept
    | completes _ step => cases step <;> exact unready
    | _ => exact unready
  intro other owes
  cases change.paced with
  | rests same => exact session other (same ▸ owes)
  | serves _ _ _ _ now | fires _ _ _ _ now =>
    rw [now, update_apply] at owes
    split_ifs at owes
    · cases owes
    · exact session other owes
  | paces _ _ _ pace =>
    rw [pace.now, update_apply] at owes
    split_ifs at owes with same
    · subst same
      obtain owed | ⟨serves, fresh, ready⟩ := pace.newlyOwes owes
      · exact session other (pace.was ▸ owed)
      · obtain ⟨role, rfl⟩ := placed.serves other (pace.was ▸ serves)
        refine ⟨role, rfl, ?_⟩
        rw [ready]
        by_contra isReady
        cases fresh.symm.trans (ordered.ready role (by simpa using isReady))
    · exact session other owes

theorem unregister_mem_completion {reason : String} :
    .unregister ∈ session.completion reason true := by
  simp [P2PBridgeSession.completion]

theorem delete_mem_completion {reason : String} {unregisters : Bool} :
    .delete ∈ session.completion reason unregisters := by
  simp [P2PBridgeSession.completion]

section

variable (released : system.Released)

include released

theorem Released.not_registered (unready : Unready system.session system.threads)
    (ordered : Ordered system.session system.threads) (isOpen : system.session.closed = false)
    (flag : ∀ message, system.session.flag message = true) : system.registered = false := by
  by_contra isRegistered
  obtain ⟨thread, owes⟩ := released.summary isOpen (by simpa using isRegistered) (flag .summary)
  obtain ⟨role, -, isUnready⟩ := unready thread owes
  cases isUnready.symm.trans (ordered.go (flag .go) role)

theorem Released.change (fresh : system.Fresh) (unready : Unready system.session system.threads)
    (ordered : Ordered system.session system.threads) (change : Change system next) :
    next.Released where
  summary := by
    intro isOpen isRegistered isSent
    have kept : (∃ thread, (system.threads thread).owes = true) →
        ∃ thread, (next.threads thread).owes = true := by
      intro owed
      refine (change.paced.owed (fun stage => stage.owes = true) nofun
        (fun _ _ _ pace => pace.owes) owed).resolve_right ?_
      simp [isOpen, isRegistered]
    cases change with
    | registers isStored =>
      have isCreating : system.creating = true := by
        rw [creating_eq, isStored]
        rfl
      cases (fresh isCreating).2.symm.trans isSent
    | claimsSummary thread =>
      refine ⟨thread, ?_⟩
      rw [threads_setStage]
      rfl
    | notes _ _ _ _ notes =>
      exact kept (released.summary (notes.closed.symm.trans isOpen) isRegistered
        ((notes.flag .summary).symm.trans isSent))
    | establishes
    | finalizes | aborts => cases isOpen
    | unregisters => cases isRegistered
    | completes _ step =>
      cases step with
      | unregister => cases isRegistered
      | _ => exact kept (released.summary isOpen isRegistered isSent)
    | _ => exact kept (released.summary isOpen isRegistered isSent)
  unregister := by
    intro isClosed isRegistered
    have kept : (∃ thread, .unregister ∈ (system.threads thread).steps) →
        ∃ thread, .unregister ∈ (next.threads thread).steps := by
      intro owed
      refine (change.paced.owed (fun stage => .unregister ∈ stage.steps) nofun
        (fun _ _ _ pace => pace.unregister) owed).resolve_right ?_
      simp [isRegistered]
    cases change with
    | registers isStored =>
      have isCreating : system.creating = true := by
        rw [creating_eq, isStored]
        rfl
      cases (fresh isCreating).1.symm.trans isClosed
    | notes _ _ _ _ notes =>
      exact kept (released.unregister (notes.closed.symm.trans isClosed) isRegistered)
    | establishes _ session _ notes established =>
      have flag : ∀ message, system.session.flag message = true := fun message =>
        (notes.flag message).symm.trans (established.flag message)
      have isOpen := notes.closed.symm.trans established.isOpen
      cases (released.not_registered unready ordered isOpen flag).symm.trans isRegistered
    | finalizes _ _ established =>
      cases (released.not_registered unready ordered established.isOpen
        established.flag).symm.trans isRegistered
    | aborts thread =>
      refine ⟨thread, ?_⟩
      rw [threads_log, threads_setStage]
      exact unregister_mem_completion
    | unregisters => cases isRegistered
    | completes _ step =>
      cases step with
      | unregister => cases isRegistered
      | _ => exact kept (released.unregister isClosed isRegistered)
    | _ => exact kept (released.unregister isClosed isRegistered)
  delete := by
    intro isClosed isStored
    have kept : (∃ thread, .delete ∈ (system.threads thread).steps) →
        ∃ thread, .delete ∈ (next.threads thread).steps := by
      intro owed
      refine (change.paced.owed (fun stage => .delete ∈ stage.steps) nofun
        (fun _ _ _ pace => pace.delete) owed).resolve_right ?_
      simp [isStored]
    cases change with
    | stores isArmed =>
      have isCreating : system.creating = true := by
        rw [creating_eq, isArmed]
        rfl
      cases (fresh isCreating).1.symm.trans isClosed
    | forgets => cases isStored
    | notes _ _ _ _ notes =>
      exact kept (released.delete (notes.closed.symm.trans isClosed) isStored)
    | establishes role =>
      refine ⟨.serve role, ?_⟩
      rw [threads_log, threads_setStage]
      exact delete_mem_completion
    | finalizes thread | aborts thread =>
      refine ⟨thread, ?_⟩
      rw [threads_log, threads_setStage]
      exact delete_mem_completion
    | completes _ step =>
      cases step with
      | delete => cases isStored
      | _ => exact kept (released.delete isClosed isStored)
    | _ => exact kept (released.delete isClosed isStored)

end

theorem sent_le_deliver {current : BridgeMessage} {role other : P2PRole} :
    system.sent message role ≤ (system.deliver current other).sent message role := by
  by_cases same : message = current
  · subst same
    have sentEq : (system.deliver message other).sent message =
        update (system.sent message) other (system.sent message other + 1) :=
      update_self ..
    rw [sentEq, update_apply]
    split_ifs with sameRole
    · exact sameRole ▸ Nat.le_succ _
    · exact Nat.le_refl _
  · have sentEq : (system.deliver current other).sent message = system.sent message :=
      update_of_ne same ..
    exact Nat.le_of_eq (congrFun sentEq role).symm

theorem Complete.change (complete : system.Complete) (change : Change system next) :
    next.Complete := by
  intro role
  obtain ⟨reported, ready, established, sent⟩ := complete role
  cases change with
  | notes _ _ _ _ notes
  | establishes _ _ _ notes =>
    exact ⟨notes.reported role reported, notes.ready role ready,
      notes.established role established, sent⟩
  | writes =>
    refine ⟨reported, ready, established, fun message => ?_⟩
    exact Nat.lt_of_lt_of_le (sent message) sent_le_deliver
  | completes _ step => cases step <;> exact ⟨reported, ready, established, sent⟩
  | _ => exact ⟨reported, ready, established, sent⟩

theorem owes_of_sends {stage : SessionStage} (sends : stage.sends .summary = true) :
    stage.owes = true := by
  cases stage with
  | sending message left =>
    cases message with
    | summary => rfl
    | go => cases left <;> cases sends
  | failed message =>
    cases message with
    | summary => rfl
    | go => cases sends
  | _ => cases sends

theorem serves_of_sends {stage : SessionStage} (sends : stage.sends message = true) :
    stage.serves = true := by
  cases stage with
  | sending | failed => rfl
  | _ => cases sends

/-- All that is noted of a system in which every change is one of the modelled ones. -/
structure Living (system : SessionSystem) : Prop where
  placed : Placed system.threads
  ordered : Ordered system.session system.threads
  connected : Connected system.session system.threads
  timed : Timed system.session system.threads
  once : ∀ message, (system.broadcast message).Once
  delivered : ∀ message, system.Delivered message
  fresh : system.Fresh
  unready : Unready system.session system.threads
  released : system.Released
  concluded : system.Concluded

theorem Living.go_sent (living : system.Living) (isOpen : system.session.closed = false)
    (flag : ∀ message, system.session.flag message = true) (isQuiet : system.sendsGo = false)
    (role : P2PRole) : 0 < system.sent .go role := by
  obtain isClosed | ⟨thread, sends⟩ | isSent := living.delivered .go (flag .go)
  · cases isOpen.symm.trans isClosed
  · obtain ⟨other, rfl⟩ := living.placed.serves thread (serves_of_sends sends)
    have quiet := Bool.or_eq_false_iff.mp isQuiet
    cases other with
    | visitor => cases quiet.1.symm.trans sends
    | provider => cases quiet.2.symm.trans sends
  · exact isSent role

theorem complete_of_established (living : system.Living) (role : P2PRole)
    (notes : P2PBridgeSession.Notes role system.session noted) (established : noted.Established)
    (sent : ∀ role, 0 < system.sent .go role) (session : next.session = noted.close)
    (sentEq : next.sent = system.sent) : next.Complete := by
  have isOpen := notes.closed.symm.trans established.isOpen
  have flag : ∀ message, system.session.flag message = true := fun message =>
    (notes.flag message).symm.trans (established.flag message)
  intro other
  rw [session, sentEq]
  refine ⟨notes.reported other (living.ordered.summary (flag .summary) other),
    notes.ready other (living.ordered.go (flag .go) other), established.established other, ?_⟩
  intro message
  cases message with
  | summary =>
    -- when both roles are ready the summary was sent to both
    obtain isClosed | ⟨thread, sends⟩ | isSent := living.delivered .summary (flag .summary)
    · cases isOpen.symm.trans isClosed
    · obtain ⟨other, -, isUnready⟩ := living.unready thread (owes_of_sends sends)
      cases isUnready.symm.trans (living.ordered.go (flag .go) other)
    · exact isSent other
  | go => exact sent other

theorem Concluded.close {outcome : SessionOutcome} (concluded : system.Concluded)
    (isOpen : system.session.closed = false) (isClosed : next.session.closed = true)
    (outcomes : next.outcomes = system.outcomes ++ [outcome])
    (complete : outcome = .established → next.Complete) : next.Concluded := by
  have none : system.outcomes = [] := by
    rw [← List.length_eq_zero_iff, concluded.outcomes, isOpen]
    rfl
  rw [none] at outcomes
  constructor
  · rw [outcomes, isClosed]
    rfl
  · intro isMember
    rw [outcomes] at isMember
    exact complete (List.mem_singleton.mp isMember).symm

theorem Concluded.change (living : system.Living) (change : Change system next) :
    next.Concluded := by
  have complete : .established ∈ system.outcomes → next.Complete := fun isMember =>
    (living.concluded.established isMember).change change
  cases change with
  | notes _ _ _ _ notes =>
    refine ⟨?_, complete⟩
    rw [setStage, setSession, notes.closed]
    exact living.concluded.outcomes
  | establishes role session _ notes established isQuiet =>
    have isOpen := notes.closed.symm.trans established.isOpen
    have flag : ∀ message, system.session.flag message = true := fun message =>
      (notes.flag message).symm.trans (established.flag message)
    refine living.concluded.close isOpen rfl rfl fun _ => ?_
    exact complete_of_established living role notes established
      (living.go_sent isOpen flag isQuiet) rfl rfl
  | finalizes thread isSending established =>
    have isLeft : (system.broadcast .go).left thread = some [] := left_broadcast isSending
    have sent : ∀ role, system.sent .go role = 1 := (living.once .go).sent_of_left_nil isLeft
    refine living.concluded.close established.isOpen rfl rfl fun _ => ?_
    exact complete_of_established living .visitor P2PBridgeSession.Notes.refl established
      (fun role => Nat.lt_of_lt_of_eq Nat.one_pos (sent role).symm) rfl rfl
  | aborts _ _ _ isOpen =>
    refine living.concluded.close isOpen rfl rfl ?_
    rintro ⟨⟩
  | completes _ step => cases step <;> exact ⟨living.concluded.outcomes, complete⟩
  | _ => exact ⟨living.concluded.outcomes, complete⟩

theorem Living.change (living : system.Living) (change : Change system next) : next.Living := by
  have once : ∀ message, (next.broadcast message).Once := fun message =>
    (living.once message).step (change.broadcast living.connected message)
  exact {
    placed := living.placed.change change
    ordered := living.ordered.change change
    connected := living.connected.change change
    timed := living.timed.change change
    once := once
    delivered := fun message =>
      (living.delivered message).change change (once message) living.connected
    fresh := living.fresh.change living.placed change
    unready := living.unready.change living.placed living.ordered change
    released := living.released.change living.fresh living.unready living.ordered change
    concluded := Concluded.change living change }

theorem Living.step {event : SessionEvent} (living : system.Living)
    (isAllowed : system.Allowed event) (steps : system.step event = some next) : next.Living := by
  have changes := changes_step living.placed.creates isAllowed steps
  clear steps isAllowed
  induction changes with
  | refl => exact living
  | tail _ change ih => exact ih.change change

theorem living_new (id token : String) : (new id token).Living := by
  have idle : ∀ thread, thread ≠ .connect → (new id token).threads thread = .idle := by
    intro thread differs
    cases thread with
    | connect => exact absurd rfl differs
    | _ => rfl
  have calm : ∀ message thread, ((new id token).threads thread).left message = none := by
    intro _ thread
    cases thread <;> rfl
  have steps : ∀ thread, ((new id token).threads thread).owes = false := by
    intro thread
    cases thread <;> rfl
  exact {
    placed := {
      serves := by
        intro thread serves
        cases thread <;> cases serves
      creates := by
        intro thread creates
        cases thread with
        | connect => rfl
        | _ => cases creates
      alone := fun _ => idle }
    ordered := {
      ready := nofun
      summary := nofun
      go := nofun
      readied := by
        intro thread isReadied
        cases thread <;> cases isReadied }
    connected := {
      visitor := fun _ => rfl
      provider := fun _ isBusy => absurd rfl isBusy
      reported := nofun }
    timed := fun _ => .inl rfl
    once := fun message => {
      fresh_sent := fun _ _ => rfl
      fresh_left := fun _ => calm message
      single := fun thread _ isLeft => absurd (calm message thread) isLeft
      nodup := by
        intro thread _ isLeft
        cases (calm message thread).symm.trans isLeft
      unsent := fun _ _ _ _ _ => rfl
      covered := by
        intro thread _ isLeft
        cases (calm message thread).symm.trans isLeft
      sent_le_one := fun _ => Nat.zero_le 1 }
    delivered := by
      intro message isClaimed
      cases message <;> cases isClaimed
    fresh := fun _ => ⟨rfl, rfl⟩
    unready := by
      intro thread owes
      cases (steps thread).symm.trans owes
    released := {
      summary := nofun
      unregister := nofun
      delete := nofun }
    concluded := {
      outcomes := rfl
      established := nofun } }

/-- If the timer does not fire before the session was created, and no progress is noted while a
goroutine is about to write the go messages, a session is closed once, with one outcome, each
message is sent at most once and in order, and in the end nothing of the session is left. -/
theorem session_lifecycle {id token : String} {events : List SessionEvent}
    {last : SessionSystem} (isAllowed : Runs.Meets step Allowed (new id token) events)
    (reaches : Runs.execute step (new id token) events = some last) :
    (last.outcomes.length = if last.session.closed then 1 else 0) ∧
    (last.session.closed = false →
      last.session.pending = true ∨ ∃ thread, (last.threads thread).aborts = true) ∧
    (.established ∈ last.outcomes → ∀ role, last.session.reported role = true ∧
      last.session.established role = true ∧ last.sent .summary role = 1 ∧ last.sent .go role = 1) ∧
    (∀ message role, last.sent message role ≤ 1) ∧
    (∀ role, 0 < last.sent .go role → ∀ other, last.session.ready other = true) ∧
    (last.session.closed = true → (∀ thread, (last.threads thread).rests = true) →
      last.inManager = false ∧ last.registered = false) := by
  have living : last.Living := by
    exact Runs.invariant_of_meets Living (fun _ _ _ living => living.step) (living_new id token)
      isAllowed reaches
  have atMostOnce : ∀ message role, last.sent message role ≤ 1 := fun message =>
    (living.once message).sent_le_one
  refine ⟨living.concluded.outcomes, living.timed, ?_, atMostOnce, ?_, ?_⟩
  · intro isEstablished role
    obtain ⟨reported, -, established, sent⟩ := living.concluded.established isEstablished role
    exact ⟨reported, established, Nat.le_antisymm (atMostOnce _ _) (sent .summary),
      Nat.le_antisymm (atMostOnce _ _) (sent .go)⟩
  · intro role _
    refine living.ordered.go ?_
    by_contra isFresh
    have unsent : last.sent .go role = 0 :=
      (living.once .go).fresh_sent (Bool.eq_false_iff.mpr isFresh) role
    omega
  · intro isClosed rest
    have nothing : ∀ thread, (last.threads thread).steps = [] := fun thread =>
      SessionStage.steps_of_rests (rest thread)
    constructor
    · by_contra isStored
      obtain ⟨_, isLeft⟩ := living.released.delete isClosed (by simpa using isStored)
      rw [nothing] at isLeft
      cases isLeft
    · by_contra isRegistered
      obtain ⟨_, isLeft⟩ := living.released.unregister isClosed (by simpa using isRegistered)
      rw [nothing] at isLeft
      cases isLeft

def summarized : List SessionEvent :=
  [.advance .connect true, .advance .connect true, .started none, .join,
    .message .visitor (.report ⟨"id", "token", "p2pv"⟩),
    .message .provider (.report ⟨"id", "token", "p2pp"⟩)] ++
    List.replicate 5 (.advance (.serve .provider) true)

def reportsReady (role : P2PRole) : SessionEvent := .message role (.ready ⟨"id", role.name⟩)

def reportsEstablished (role : P2PRole) : SessionEvent :=
  .message role (.progress ⟨"id", role.name, "transport_established", "ok"⟩)

def succeeded : List SessionEvent :=
  summarized ++ [reportsReady .visitor, reportsReady .provider] ++
    List.replicate 4 (.advance (.serve .provider) true) ++
    [reportsEstablished .visitor, reportsEstablished .provider] ++
    List.replicate 4 (.advance (.serve .provider) true)

theorem session_lifecycle_succeeded :
    ∃ last, Runs.execute step (new "id" "token") succeeded = some last ∧
      last.outcomes = [.established] ∧ (∀ role, last.sent .go role = 1) ∧
      last.inManager = false ∧ last.registered = false := by
  have isAllowed : Runs.Meets step Allowed (new "id" "token") succeeded := by
    decide +kernel
  refine ⟨_, rfl, rfl, ?_, ?_⟩
  · obtain ⟨-, -, established, -⟩ := session_lifecycle isAllowed rfl
    exact fun role => (established (List.mem_singleton_self _) role).2.2.2
  · obtain ⟨-, -, -, -, -, released⟩ := session_lifecycle isAllowed rfl
    refine released rfl fun thread => ?_
    cases thread with
    | connect | timer => rfl
    | serve role => cases role <;> rfl

/-- The visitor has established a transport before it is ready, and its goroutine has claimed
the go messages when the provider's progress comes. -/
def hasty : List SessionEvent :=
  summarized ++ [reportsEstablished .visitor, reportsReady .provider, reportsReady .visitor,
    .advance (.serve .visitor) true, reportsEstablished .provider]

def belated : List SessionEvent :=
  .timeout 0 :: List.replicate 6 (.advance (.timer 0) true) ++
    [.advance .connect true, .advance .connect true, .started (some .visitor),
      .advance .connect true, .advance .connect true]

/-- A session is closed as established before anybody was told to go, and one that is closed
before it was stored stays in the session manager. -/
theorem session_closed_early :
    (∃ last, Runs.execute step (new "id" "token") hasty = some last ∧
      last.outcomes = [.established] ∧ ∀ role, last.sent .go role = 0) ∧
    (∃ last, Runs.execute step (new "id" "token") belated = some last ∧
      last.session.closed = true ∧ (∀ thread, (last.threads thread).rests = true) ∧
      last.inManager = true ∧ last.registered = true) := by
  constructor
  · obtain ⟨last, reaches, outcomes, visitor, provider⟩ :
        ∃ last, Runs.execute step (new "id" "token") hasty = some last ∧
          last.outcomes = [.established] ∧ last.sent .go .visitor = 0 ∧
          last.sent .go .provider = 0 :=
      Runs.exists_of_any (by decide +kernel)
    refine ⟨last, reaches, outcomes, ?_⟩
    intro role
    cases role with
    | visitor => exact visitor
    | provider => exact provider
  · refine ⟨_, rfl, rfl, ?_, rfl, rfl⟩
    intro thread
    cases thread with
    | connect => rfl
    | serve role => cases role <;> rfl
    | timer index => cases index <;> rfl

end SessionSystem

end DeepNps.Bridge
