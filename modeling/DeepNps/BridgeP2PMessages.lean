import DeepNps.BridgeP2PStages

/-!
# The messages of the bridge

A summary or go message that was claimed was sent to both roles, unless somebody is still
sending it or the session is closed.
-/

namespace DeepNps.Bridge.SessionSystem

open Function

def broadcast (system : SessionSystem) (message : BridgeMessage) :
    Broadcast SessionThread P2PRole where
  claimed := system.session.flag message
  sent := system.sent message
  left := fun thread => (system.threads thread).left message

/-- A claimed message was sent to both roles, unless the session is closed or it is still being
sent. -/
def Delivered (system : SessionSystem) (message : BridgeMessage) : Prop :=
  system.session.flag message = true →
    system.session.closed = true ∨ (∃ thread, (system.threads thread).sends message = true) ∨
      ∀ role, 0 < system.sent message role

variable {system next : SessionSystem} {message : BridgeMessage} {thread : SessionThread}
  {stage : SessionStage}

open SessionStage

theorem left_update (threads : Stages) :
    (fun other => (Function.update threads thread stage other).left message) =
      Function.update (fun other => (threads other).left message) thread (stage.left message) := by
  funext other
  exact apply_update (fun _ stage => left message stage) threads thread stage other

theorem broadcast_leaves (flag : next.session.flag message = system.session.flag message)
    (sent : next.sent message = system.sent message)
    (now : next.threads = Function.update system.threads thread stage)
    (calm : stage.left message = none) :
    (system.broadcast message).Step (next.broadcast message) := by
  have leaves : next.broadcast message = (system.broadcast message).leave thread := by
    rw [broadcast, flag, sent, now, left_update, calm]
    rfl
  rw [leaves]
  exact .leaves thread

theorem broadcast_claims (fresh : system.session.flag message = false)
    (flag : next.session.flag message = true) (sent : next.sent message = system.sent message)
    (now : next.threads = Function.update system.threads thread
      (.sending message system.session.recipients))
    (attached : ∀ role, system.session.attached role = true) :
    (system.broadcast message).Step (next.broadcast message) := by
  have claims : next.broadcast message =
      (system.broadcast message).claim thread [.visitor, .provider] := by
    rw [broadcast, flag, sent, now, left_update, left, if_pos rfl,
      P2PBridgeSession.recipients_of_attached attached]
    rfl
  rw [claims]
  exact .claims thread _ fresh (by decide) fun role => by cases role <;> simp

theorem Connected.attached (connected : Connected system.session system.threads)
    (isOpen : system.session.closed = false)
    (reported : ∀ role, system.session.reported role = true) (role : P2PRole) :
    system.session.attached role = true := by
  cases role with
  | visitor => exact connected.visitor isOpen
  | provider => exact connected.provider isOpen (connected.reported (reported .provider))

theorem left_broadcast {stage : SessionStage} (stageEq : system.threads thread = stage) :
    (system.broadcast message).left thread = stage.left message := by
  subst stageEq
  rfl

theorem broadcast_writes {role : P2PRole} {left : List P2PRole}
    (isSending : system.threads thread = .sending message (role :: left))
    (flag : next.session.flag message = system.session.flag message)
    (sent : next.sent message =
      Function.update (system.sent message) role (system.sent message role + 1))
    (now : next.threads = Function.update system.threads thread (.sending message left)) :
    (system.broadcast message).Step (next.broadcast message) := by
  have writes : next.broadcast message = (system.broadcast message).write thread role left := by
    rw [broadcast, flag, sent, now, left_update, SessionStage.left, if_pos rfl]
    rfl
  rw [writes]
  refine .writes thread role left ?_
  rw [left_broadcast isSending, SessionStage.left, if_pos rfl]

theorem Change.broadcast (change : Change system next)
    (connected : Connected system.session system.threads) (message : BridgeMessage) :
    (system.broadcast message).Step (next.broadcast message) := by
  cases change with
  | stays | forgets => exact .same
  | stores | registers | spawns
  | fails | unregisters
  | drops => exact broadcast_leaves rfl rfl rfl rfl
  | attaches => exact broadcast_leaves (by cases message <;> rfl) rfl rfl rfl
  | fires | schedules
  | finalizes | aborts => exact broadcast_leaves (by cases message <;> rfl) rfl rfl rfl
  | notes _ _ _ _ notes calm =>
    exact broadcast_leaves (notes.flag message) rfl rfl (calm.left message)
  | moves _ _ _ _ calm => exact broadcast_leaves rfl rfl rfl (calm.left message)
  | claimsSummary _ _ isOpen fresh reported =>
    cases message with
    | summary => exact broadcast_claims fresh rfl rfl rfl (connected.attached isOpen reported)
    | go => exact broadcast_leaves rfl rfl rfl rfl
  | claimsGo _ _ _ fresh attached =>
    cases message with
    | summary => exact broadcast_leaves rfl rfl rfl rfl
    | go => exact broadcast_claims fresh rfl rfl rfl attached
  | writes _ current _ left isSending =>
    by_cases same : current = message
    · subst same
      exact broadcast_writes isSending rfl (update_self ..) rfl
    · refine broadcast_leaves rfl (update_of_ne (Ne.symm same) ..) rfl ?_
      rw [SessionStage.left, if_neg same]
  | establishes _ _ _ notes =>
    refine broadcast_leaves ?_ rfl rfl rfl
    rw [← notes.flag message]
    cases message <;> rfl
  | completes _ step => cases step <;> exact broadcast_leaves rfl rfl rfl rfl

theorem Delivered.update (delivered : system.Delivered message)
    (flag : next.session.flag message = system.session.flag message)
    (closed : system.session.closed = true → next.session.closed = true)
    (sent : next.sent message = system.sent message)
    (now : next.threads = Function.update system.threads thread stage)
    (sends : (system.threads thread).sends message = true →
      stage.sends message = true ∨ next.session.closed = true) : next.Delivered message := by
  intro isClaimed
  rw [flag] at isClaimed
  obtain isClosed | ⟨other, isSending⟩ | isSent := delivered isClaimed
  · exact .inl (closed isClosed)
  · by_cases same : other = thread
    · subst same
      obtain stillSends | isClosed := sends isSending
      · refine .inr (.inl ⟨other, ?_⟩)
        rwa [now, update_self]
      · exact .inl isClosed
    · refine .inr (.inl ⟨other, ?_⟩)
      rwa [now, update_of_ne same]
  · exact .inr (.inr (sent ▸ isSent))

theorem Delivered.step {before : SessionStage} (delivered : system.Delivered message)
    (stageEq : system.threads thread = before) (quiet : before.sends message = false)
    (flag : next.session.flag message = system.session.flag message)
    (closed : system.session.closed = true → next.session.closed = true)
    (sent : next.sent message = system.sent message)
    (now : next.threads = Function.update system.threads thread stage) :
    next.Delivered message := by
  apply delivered.update flag closed sent now
  rw [stageEq, quiet]
  nofun

theorem delivered_claims
    (now : next.threads thread = .sending message system.session.recipients)
    (attached : ∀ role, system.session.attached role = true) : next.Delivered message := by
  intro _
  refine .inr (.inl ⟨thread, ?_⟩)
  rw [now, P2PBridgeSession.recipients_of_attached attached]
  exact decide_eq_true rfl

theorem delivered_writes {left : List P2PRole} (once : (next.broadcast message).Once)
    (now : next.threads thread = .sending message left) : next.Delivered message := by
  intro _
  cases left with
  | nil =>
    have isLeft : (next.broadcast message).left thread = some [] := by
      rw [left_broadcast now, left, if_pos rfl]
    have sent : ∀ role, next.sent message role = 1 := once.sent_of_left_nil isLeft
    exact .inr (.inr fun role => Nat.lt_of_lt_of_eq Nat.one_pos (sent role).symm)
  | cons =>
    refine .inr (.inl ⟨thread, ?_⟩)
    rw [now]
    exact decide_eq_true rfl

theorem Delivered.change (delivered : system.Delivered message) (change : Change system next)
    (once : (next.broadcast message).Once)
    (connected : Connected system.session system.threads) : next.Delivered message := by
  cases change with
  | stays | forgets => exact delivered
  | stores isArmed => exact delivered.step isArmed rfl rfl id rfl rfl
  | registers isStored => exact delivered.step isStored rfl rfl id rfl rfl
  | spawns _ isIdle => exact delivered.step isIdle rfl rfl id rfl rfl
  | attaches _ isIdle | fires _ _ _ isIdle =>
    exact delivered.step isIdle rfl (by cases message <;> rfl) id rfl rfl
  | notes _ _ _ isReading notes =>
    exact delivered.step isReading rfl (notes.flag message) notes.closed.trans rfl rfl
  | moves _ _ _ wasCalm => exact delivered.step rfl (wasCalm.sends message) rfl id rfl rfl
  | claimsSummary _ isRecorded isOpen _ reported =>
    cases message with
    | summary => exact delivered_claims (update_self ..) (connected.attached isOpen reported)
    | go => exact delivered.step isRecorded rfl rfl id rfl rfl
  | claimsGo _ isReadied _ _ attached =>
    cases message with
    | summary => exact delivered.step isReadied rfl rfl id rfl rfl
    | go => exact delivered_claims (update_self ..) attached
  | writes _ current _ _ isSending =>
    by_cases same : current = message
    · subst same
      exact delivered_writes once (update_self ..)
    · refine delivered.step isSending ?_ rfl id (update_of_ne (Ne.symm same) ..) rfl
      simpa [sends] using same
  | fails _ _ _ _ isSending =>
    refine delivered.update rfl id rfl rfl ?_
    rw [isSending]
    exact .inl
  | schedules _ _ isSending =>
    exact delivered.step isSending rfl (by cases message <;> rfl) id rfl rfl
  | unregisters _ isScheduled => exact delivered.step isScheduled rfl rfl id rfl rfl
  | drops _ isDone =>
    obtain isSending | ⟨isClosed, -⟩ := isDone
    · exact delivered.step isSending rfl rfl id rfl rfl
    · exact fun _ => .inl isClosed
  | establishes
  | finalizes | aborts => exact fun _ => .inl rfl
  | completes _ step _ _ isCompleting =>
    cases step <;> exact delivered.step isCompleting rfl rfl id rfl rfl

end DeepNps.Bridge.SessionSystem
