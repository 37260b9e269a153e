import DeepNps.BridgeP2PSteps

/-!
# The goroutines of a session

Which goroutines reach which stages, and that the timer runs until the session is closed.
-/

namespace DeepNps.Bridge.SessionSystem

open Function

abbrev Stages := SessionThread → SessionStage

/-- The stages of `create` and `serve` belong to some goroutines, and no other one is there before
the session was created. -/
structure Placed (threads : Stages) : Prop where
  serves : ∀ thread, (threads thread).serves = true → ∃ role, thread = .serve role
  creates : ∀ thread, (threads thread).creates = true → thread = .connect
  alone : (threads .connect).creates = true → ∀ thread, thread ≠ .connect → threads thread = .idle

/-- A message is claimed only when what it needs is there. -/
structure Ordered (session : P2PBridgeSession) (threads : Stages) : Prop where
  ready : ∀ role, session.ready role = true → session.summarySent = true
  summary : session.summarySent = true → ∀ role, session.reported role = true
  go : session.goSent = true → ∀ role, session.ready role = true
  readied : ∀ thread, threads thread = .readied → ∀ role, session.ready role = true

structure Connected (session : P2PBridgeSession) (threads : Stages) : Prop where
  visitor : session.closed = false → session.attached .visitor = true
  provider : session.closed = false → threads (.serve .provider) ≠ .idle →
    session.attached .provider = true
  reported : session.reported .provider = true → threads (.serve .provider) ≠ .idle

/-- As long as the session is not closed its timer runs, or somebody is about to close it. -/
def Timed (session : P2PBridgeSession) (threads : Stages) : Prop :=
  session.closed = false → session.pending = true ∨ ∃ thread, (threads thread).aborts = true

variable {session noted : P2PBridgeSession} {threads : Stages} {thread : SessionThread}
  {stage : SessionStage} {role : P2PRole}

theorem Placed.update (placed : Placed threads)
    (serves : stage.serves = true → ∃ role, thread = .serve role)
    (creates : stage.creates = true → thread = .connect ∧ (threads .connect).creates = true)
    (busy : (threads .connect).creates = true → thread = .connect ∨ stage = .idle) :
    Placed (Function.update threads thread stage) := by
  constructor
  · intro other
    rw [update_apply]
    split_ifs with same
    · exact same ▸ serves
    · exact placed.serves other
  · intro other
    rw [update_apply]
    split_ifs with same
    · exact fun isCreating => same ▸ (creates isCreating).1
    · exact placed.creates other
  · intro isCreating other differs
    have wasCreating : (threads .connect).creates = true := by
      by_cases same : thread = .connect
      · subst same
        rw [update_self] at isCreating
        exact (creates isCreating).2
      · rwa [update_of_ne (Ne.symm same)] at isCreating
    rw [update_apply]
    split_ifs with same
    · exact (busy wasCreating).resolve_left fun isConnect => differs (same.trans isConnect)
    · exact placed.alone wasCreating other differs

theorem Placed.step (placed : Placed threads) {before : SessionStage}
    (stageEq : threads thread = before) (wasBusy : before ≠ .idle)
    (serves : stage.serves = true → before.serves = true)
    (creates : stage.creates = true → before.creates = true) :
    Placed (Function.update threads thread stage) := by
  subst stageEq
  apply placed.update
  · exact fun isServing => placed.serves thread (serves isServing)
  · intro isCreating
    have isConnect := placed.creates thread (creates isCreating)
    exact ⟨isConnect, isConnect ▸ creates isCreating⟩
  · intro isCreating
    by_contra isOther
    exact wasBusy (placed.alone isCreating thread fun same => isOther (.inl same))

theorem Ordered.update (ordered : Ordered session threads)
    (isReady : stage = .readied → ∀ role, session.ready role = true) :
    Ordered session (Function.update threads thread stage) := by
  refine ⟨ordered.ready, ordered.summary, ordered.go, ?_⟩
  intro other
  rw [update_apply]
  split_ifs
  · exact isReady
  · exact ordered.readied other

theorem Ordered.notes (ordered : Ordered session threads)
    (notes : P2PBridgeSession.Notes role session noted) : Ordered noted threads := by
  have summarySent : noted.summarySent = session.summarySent := notes.flag .summary
  have goSent : noted.goSent = session.goSent := notes.flag .go
  constructor
  · intro other isReady
    rw [summarySent]
    obtain wasReady | ⟨-, isSent⟩ := notes.newlyReady other isReady
    · exact ordered.ready other wasReady
    · exact isSent
  · intro isSent other
    exact notes.reported other (ordered.summary (summarySent ▸ isSent) other)
  · intro isSent other
    exact notes.ready other (ordered.go (goSent ▸ isSent) other)
  · intro thread isReadied other
    exact notes.ready other (ordered.readied thread isReadied other)

theorem Connected.update (connected : Connected session threads)
    (idles : thread = .serve .provider → (stage = .idle ↔ threads thread = .idle)) :
    Connected session (Function.update threads thread stage) := by
  have same : Function.update threads thread stage (.serve .provider) = .idle ↔
      threads (.serve .provider) = .idle := by
    rw [Function.update_apply]
    split_ifs with isProvider
    · exact isProvider ▸ idles isProvider.symm
    · rfl
  exact ⟨connected.visitor, fun isOpen isBusy => connected.provider isOpen (mt same.mpr isBusy),
    fun isReported => mt same.mp (connected.reported isReported)⟩

theorem Connected.notes (connected : Connected session threads)
    (notes : P2PBridgeSession.Notes role session noted)
    (isReading : threads (.serve role) = .reading) : Connected noted threads := by
  constructor
  · rw [notes.closed, notes.attached]
    exact connected.visitor
  · rw [notes.closed, notes.attached]
    exact connected.provider
  · intro isReported
    obtain wasReported | rfl := notes.newlyReported _ isReported
    · exact connected.reported wasReported
    · rw [isReading]
      nofun

theorem Timed.update (timed : Timed session threads)
    (aborts : (threads thread).aborts = true → stage.aborts = true ∨ session.closed = true) :
    Timed session (Function.update threads thread stage) := by
  intro isOpen
  obtain isPending | ⟨other, isAborting⟩ := timed isOpen
  · exact .inl isPending
  · refine .inr ⟨other, ?_⟩
    rw [update_apply]
    split_ifs with same
    · obtain stillAborts | isClosed := aborts (same ▸ isAborting)
      · exact stillAborts
      · cases isOpen.symm.trans isClosed
    · exact isAborting

variable {system next : SessionSystem}

theorem creating_eq : system.creating = (system.threads .connect).creates := by
  rw [creating]
  cases system.threads .connect <;> rfl

/-- A goroutine that is not idle takes a step.  It keeps its duties or does them. -/
structure Pace (system next : SessionSystem) (thread : SessionThread)
    (before after : SessionStage) : Prop where
  was : system.threads thread = before
  now : next.threads = Function.update system.threads thread after
  wasBusy : before ≠ .idle := by nofun
  isBusy : after ≠ .idle := by nofun
  serves : after.serves = true → before.serves = true := by exact fun _ => rfl
  creates : after.creates = true → before.creates = true := by nofun
  aborts : before.aborts = true → next.session.closed = true := by nofun
  readied : after = .readied → ∀ role, next.session.ready role = true := by nofun
  owes : before.owes = true →
    after.owes = true ∨ next.registered = false ∨ next.session.closed = true := by nofun
  newlyOwes : after.owes = true → before.owes = true ∨
    before.serves = true ∧ system.session.summarySent = false ∧
      next.session.ready = system.session.ready := by nofun
  unregister : .unregister ∈ before.steps →
    .unregister ∈ after.steps ∨ next.registered = false := by nofun
  delete : .delete ∈ before.steps → .delete ∈ after.steps ∨ next.inManager = false := by nofun

/-- How the goroutines go on. -/
inductive Paced (system next : SessionSystem) : Prop
  | rests (same : next.threads = system.threads)
  | serves (role : P2PRole) (isCreated : system.creating = false)
      (isIdle : system.threads (.serve role) = .idle)
      (isAttached : role = .provider → next.session.attached .provider = true)
      (now : next.threads = Function.update system.threads (.serve role) .reading)
  | fires (index : Nat) (reason : String) (isCreated : system.creating = false)
      (isIdle : system.threads (.timer index) = .idle)
      (now : next.threads =
        Function.update system.threads (.timer index) (.aborting reason .returns))
  | paces (thread : SessionThread) (before after : SessionStage)
      (pace : Pace system next thread before after)

open SessionStage

theorem Change.paced (change : Change system next) : Paced system next := by
  cases change with
  | stays | forgets => exact .rests rfl
  | stores isArmed =>
    exact .paces _ _ _ { was := isArmed, now := rfl, serves := nofun, creates := fun _ => rfl }
  | registers isStored => exact .paces _ _ _ { was := isStored, now := rfl, serves := nofun }
  | spawns isCreated isIdle => exact .serves .visitor isCreated isIdle nofun rfl
  | attaches isCreated isIdle => exact .serves .provider isCreated isIdle (fun _ => rfl) rfl
  | fires index reason isCreated isIdle => exact .fires index reason isCreated isIdle rfl
  | notes _ _ _ isReading _ calm isBusy isReady =>
    exact .paces _ _ _ {
      was := isReading, now := rfl, isBusy := isBusy, readied := isReady
      creates := by simp [calm.creates]
      newlyOwes := by simp [calm.owes] }
  | moves thread _ _ wasCalm calm unready serves idles aborts =>
    by_cases isIdle : system.threads thread = .idle
    · refine .rests ?_
      rw [idles.mpr isIdle, ← isIdle]
      exact update_eq_self ..
    · exact .paces _ _ _ {
        was := rfl, now := rfl, wasBusy := isIdle, isBusy := mt idles.mp isIdle
        serves := serves, aborts := aborts
        readied := fun isReadied => absurd isReadied unready
        creates := by simp [calm.creates]
        owes := by simp [wasCalm.owes]
        newlyOwes := by simp [calm.owes]
        unregister := by simp [wasCalm.steps]
        delete := by simp [wasCalm.steps] }
  | claimsSummary _ isRecorded _ fresh =>
    exact .paces _ _ _ {
      was := isRecorded, now := rfl, newlyOwes := fun _ => .inr ⟨rfl, fresh, rfl⟩ }
  | claimsGo _ isReadied => exact .paces _ _ _ { was := isReadied, now := rfl }
  | writes _ message _ _ isSending | fails _ message _ _ isSending =>
    exact .paces _ _ _ {
      was := isSending, now := rfl
      owes := by cases message <;> simp [owes]
      newlyOwes := by cases message <;> simp [owes] }
  | schedules _ _ isSending =>
    exact .paces _ _ _ { was := isSending, now := rfl, owes := .inl, newlyOwes := .inl }
  | unregisters _ isScheduled =>
    exact .paces _ _ _ { was := isScheduled, now := rfl, owes := fun _ => .inr (.inl rfl) }
  | drops _ isDone =>
    obtain isSending | ⟨isClosed, isSending | ⟨message, role, isFailed⟩⟩ := isDone
    · exact .paces _ _ _ { was := isSending, now := rfl }
    · exact .paces _ _ _ { was := isSending, now := rfl, owes := fun _ => .inr (.inr isClosed) }
    · exact .paces _ _ _ { was := isFailed, now := rfl, owes := fun _ => .inr (.inr isClosed) }
  | establishes _ _ isReading => exact .paces _ _ _ { was := isReading, now := rfl }
  | finalizes _ isSending => exact .paces _ _ _ { was := isSending, now := rfl }
  | aborts _ _ _ _ isAborting =>
    obtain isAborting | ⟨rfl, message, role, isFailed⟩ := isAborting
    · exact .paces _ _ _ { was := isAborting, now := rfl, serves := id, aborts := fun _ => rfl }
    · exact .paces _ _ _ { was := isFailed, now := rfl, owes := fun _ => .inr (.inr rfl) }
  | completes thread step left ending isCompleting =>
    refine .paces thread _ (.completing left ending) {
      was := isCompleting, now := ?_, serves := id, unregister := ?_, delete := ?_ }
    · cases step <;> rfl
    · intro isMember
      obtain rfl | isLeft := List.mem_cons.mp isMember
      · exact .inr rfl
      · exact .inl isLeft
    · intro isMember
      obtain rfl | isLeft := List.mem_cons.mp isMember
      · exact .inr rfl
      · exact .inl isLeft

theorem Paced.owed {isDone : Prop} (paced : Paced system next) (duty : SessionStage → Prop)
    (idle : ¬ duty .idle)
    (paces : ∀ thread before after, Pace system next thread before after →
      duty before → duty after ∨ isDone)
    (owed : ∃ thread, duty (system.threads thread)) :
    (∃ thread, duty (next.threads thread)) ∨ isDone := by
  obtain ⟨other, isDuty⟩ := owed
  cases paced with
  | rests same => exact .inl ⟨other, same ▸ isDuty⟩
  | serves role _ isIdle _ now =>
    have differs : other ≠ .serve role := by
      rintro rfl
      exact idle (isIdle ▸ isDuty)
    refine .inl ⟨other, ?_⟩
    rwa [now, update_of_ne differs]
  | fires index _ _ isIdle now =>
    have differs : other ≠ .timer index := by
      rintro rfl
      exact idle (isIdle ▸ isDuty)
    refine .inl ⟨other, ?_⟩
    rwa [now, update_of_ne differs]
  | paces thread before after pace =>
    by_cases same : other = thread
    · subst same
      refine (paces other before after pace (pace.was ▸ isDuty)).imp_left fun isDutyStill => ?_
      refine ⟨other, ?_⟩
      rwa [pace.now, update_self]
    · refine .inl ⟨other, ?_⟩
      rwa [pace.now, update_of_ne same]

theorem Paced.creating (paced : Paced system next) (isCreating : next.creating = true) :
    system.creating = true := by
  rw [creating_eq] at isCreating ⊢
  cases paced with
  | rests same => exact same ▸ isCreating
  | serves _ _ _ _ now | fires _ _ _ _ now =>
    rw [now] at isCreating
    exact isCreating
  | paces _ _ _ pace =>
    rw [pace.now, update_apply] at isCreating
    split_ifs at isCreating with same
    · rw [same, pace.was]
      exact pace.creates isCreating
    · exact isCreating

theorem Placed.change (placed : Placed system.threads) (change : Change system next) :
    Placed next.threads := by
  cases change.paced with
  | rests same => exact same ▸ placed
  | serves _ isCreated _ _ now =>
    rw [now]
    exact placed.update (fun _ => ⟨_, rfl⟩) nofun (by simp [← creating_eq, isCreated])
  | fires _ _ isCreated _ now =>
    rw [now]
    exact placed.update (by simp [SessionStage.serves]) nofun (by simp [← creating_eq, isCreated])
  | paces _ _ _ pace =>
    rw [pace.now]
    exact placed.step pace.was pace.wasBusy pace.serves pace.creates

@[simp]
theorem threads_setStage : (system.setStage thread stage).threads thread = stage := update_self ..

@[simp]
theorem threads_log {outcome : SessionOutcome} : (system.log outcome).threads = system.threads :=
  rfl

theorem Ordered.change (ordered : Ordered system.session system.threads)
    (change : Change system next) : Ordered next.session next.threads := by
  have session : Ordered next.session system.threads := by
    cases change with
    | notes _ _ _ _ notes => exact ordered.notes notes
    | establishes _ _ _ notes =>
      have kept := ordered.notes notes
      exact ⟨kept.ready, kept.summary, kept.go, kept.readied⟩
    | claimsSummary _ _ _ _ reported =>
      exact ⟨fun _ _ => rfl, fun _ => reported, ordered.go, ordered.readied⟩
    | claimsGo thread isReadied =>
      exact ⟨ordered.ready, ordered.summary, fun _ => ordered.readied thread isReadied,
        ordered.readied⟩
    | completes _ step => cases step <;> exact ordered
    | _ => exact ⟨ordered.ready, ordered.summary, ordered.go, ordered.readied⟩
  cases change.paced with
  | rests same => exact same ▸ session
  | serves _ _ _ _ now | fires _ _ _ _ now =>
    rw [now]
    exact session.update nofun
  | paces _ _ _ pace =>
    rw [pace.now]
    exact session.update pace.readied

theorem Connected.change (connected : Connected system.session system.threads)
    (change : Change system next) : Connected next.session next.threads := by
  have session : Connected next.session system.threads := by
    cases change with
    | notes _ _ _ isReading notes => exact connected.notes notes isReading
    | establishes _ _ isReading notes =>
      have kept := connected.notes notes isReading
      exact ⟨nofun, nofun, kept.reported⟩
    | finalizes | aborts => exact ⟨nofun, nofun, connected.reported⟩
    | attaches => exact ⟨connected.visitor, fun _ _ => rfl, connected.reported⟩
    | completes _ step => cases step <;> exact connected
    | _ => exact ⟨connected.visitor, connected.provider, connected.reported⟩
  cases change.paced with
  | rests same => exact same ▸ session
  | serves role _ _ isAttached now =>
    rw [now]
    cases role with
    | visitor => exact session.update nofun
    | provider =>
      refine ⟨session.visitor, fun _ _ => isAttached rfl, fun _ => ?_⟩
      rw [update_self]
      nofun
  | fires _ _ _ _ now =>
    rw [now]
    exact session.update nofun
  | paces _ _ _ pace =>
    rw [pace.now]
    refine session.update fun _ => ?_
    rw [pace.was]
    exact iff_of_false pace.isBusy pace.wasBusy

theorem Timed.change (timed : Timed system.session system.threads)
    (change : Change system next) : Timed next.session next.threads := by
  have session : Timed next.session system.threads ∨
      ∃ thread, (next.threads thread).aborts = true := by
    cases change with
    | fires index =>
      refine .inr ⟨.timer index, ?_⟩
      simp [setStage, aborts]
    | schedules => exact .inl fun _ => .inl rfl
    | notes _ _ _ _ notes =>
      refine .inl ?_
      rw [Timed, setStage, setSession, notes.closed, notes.pending]
      exact timed
    | establishes
    | finalizes | aborts =>
      refine .inl ?_
      rintro ⟨⟩
    | completes _ step => cases step <;> exact .inl timed
    | _ => exact .inl timed
  obtain session | isAborting := session
  · cases change.paced with
    | rests same => exact same ▸ session
    | serves _ _ isIdle _ now =>
      rw [now]
      refine session.update ?_
      simp [isIdle, aborts]
    | fires _ _ _ _ now =>
      rw [now]
      exact session.update fun _ => .inl rfl
    | paces _ _ _ pace =>
      rw [pace.now]
      exact session.update fun wasAborting => .inr (pace.aborts (pace.was ▸ wasAborting))
  · exact fun _ => .inr isAborting

end DeepNps.Bridge.SessionSystem
