import DeepNps.FlowRefresh

/-!
# Calls that share a refresh

A call that finds a refresh in progress waits until it is over and returns, whatever
clients that refresh is for.
-/

namespace DeepNps.Server

/-- The calls of `flowRuntimeServices`.  `Flush` writes the store after the refresh and
before it returns. -/
inductive FlowRequest
  | refreshClients
  | forceRefreshClients
  | refreshClientSet (clientIDs : List Int)
  | flush
deriving DecidableEq

open FlowRequest

namespace FlowRequest

def force : FlowRequest → Bool
  | .refreshClients => false
  | .forceRefreshClients | .refreshClientSet _ | .flush => true

def markFresh : FlowRequest → Bool
  | .refreshClientSet _ => false
  | .refreshClients | .forceRefreshClients | .flush => true

def isEmpty : FlowRequest → Bool
  | .refreshClientSet clientIDs => clientIDs.isEmpty
  | .refreshClients | .forceRefreshClients | .flush => false

def ops (request : FlowRequest) (store : FlowStore) : List FlowOp :=
  match request with
  | .refreshClientSet clientIDs => store.refreshClientSet clientIDs
  | .refreshClients | .forceRefreshClients | .flush => store.refreshClients

def asksFor (request : FlowRequest) (store : FlowStore) (id : Int) : Bool :=
  decide (id ≠ 0) && decide (id ∈ store.clients) &&
    match request with
    | .refreshClientSet clientIDs => decide (id ∈ clientIDs)
    | .refreshClients | .forceRefreshClients | .flush => true

def isPositive : FlowRequest → Bool
  | .refreshClientSet clientIDs => clientIDs.all fun id => decide (0 < id)
  | .refreshClients | .forceRefreshClients | .flush => true

end FlowRequest

/-- A refresh in progress: its channel, the call that leads it and what it has yet to write. -/
structure FlowWork where
  channel : Nat
  request : FlowRequest
  ops : List FlowOp

inductive FlowStage
  | skipped
  | leading (channel : Nat)
  | finishing (channel : Nat)
  | waiting (channel : Nat)
  | refreshed
deriving DecidableEq

structure FlowCall where
  request : FlowRequest
  stage : FlowStage
deriving DecidableEq

/-- `flowRuntimeServices` with the flows and the calls that have not returned.  `lastState` is the
token of the bridge and the store. -/
structure FlowSystem where
  flows : Int → Flow
  refreshing : Option FlowWork
  channels : Nat
  closed : Nat → Bool
  lastRefresh : Option Int
  lastState : Nat
  calls : Nat → Option FlowCall

inductive FlowEvent
  | begin (call : Nat) (request : FlowRequest) (now : Int) (state : Nat)
  | work
  | finish (call : Nat) (now : Int) (state : Nat)
  | closeChannel (call : Nat)
  | wake (call : Nat)
  | ret (call : Nat)

def flowRefreshReuseWindow : Int := 250000000

namespace FlowSystem

def isRefreshFreshLocked (system : FlowSystem) (now : Int) (state : Nat) : Bool :=
  match system.lastRefresh with
  | none => false
  | some lastRefresh =>
      decide (state = system.lastState) && decide (now - lastRefresh < flowRefreshReuseWindow)

def setCall (system : FlowSystem) (call : Nat) (request : FlowRequest) (stage : FlowStage) :
    FlowSystem :=
  { system with calls := Function.update system.calls call (some ⟨request, stage⟩) }

/-- `beginRefreshClients` and the start of the call around it. -/
def beginRefreshClients (system : FlowSystem) (store : FlowStore) (call : Nat)
    (request : FlowRequest) (now : Int) (state : Nat) : FlowSystem :=
  if request.isEmpty then system.setCall call request .skipped
  else
    match system.refreshing with
    | some work => system.setCall call request (.waiting work.channel)
    | none =>
        if !request.force && system.isRefreshFreshLocked now state then
          system.setCall call request .skipped
        else
          { system.setCall call request (.leading system.channels) with
            refreshing := some ⟨system.channels, request, request.ops store⟩
            channels := system.channels + 1 }

def finishRefreshClients (system : FlowSystem) (markFresh : Bool) (now : Int) (state : Nat) :
    FlowSystem :=
  { system with
    refreshing := none
    lastRefresh := if markFresh then some now else system.lastRefresh
    lastState := if markFresh then state else system.lastState }

def step (store : FlowStore) (system : FlowSystem) : FlowEvent → Option FlowSystem
  | .begin call request now state =>
      if (system.calls call).isSome then none
      else some (system.beginRefreshClients store call request now state)
  | .work =>
      match system.refreshing with
      | some ⟨channel, request, op :: ops⟩ =>
          some { system with
            flows := op.apply system.flows, refreshing := some ⟨channel, request, ops⟩ }
      | _ => none
  | .finish call now state =>
      match system.calls call, system.refreshing with
      | some ⟨request, .leading channel⟩, some ⟨current, _, []⟩ =>
          if channel = current then
            some ((system.finishRefreshClients request.markFresh now state).setCall call request
              (.finishing channel))
          else none
      | _, _ => none
  | .closeChannel call =>
      match system.calls call with
      | some ⟨request, .finishing channel⟩ =>
          some { system.setCall call request .refreshed with
            closed := Function.update system.closed channel true }
      | _ => none
  | .wake call =>
      match system.calls call with
      | some ⟨request, .waiting channel⟩ =>
          if system.closed channel then some (system.setCall call request .refreshed) else none
      | _ => none
  | .ret call =>
      match system.calls call with
      | some ⟨_, .refreshed⟩ | some ⟨_, .skipped⟩ =>
          some { system with calls := Function.update system.calls call none }
      | _ => none

/-- No call, and whatever flows the clients have. -/
def idle (flows : Int → Flow) : FlowSystem :=
  ⟨flows, none, 0, fun _ => false, none, 0, fun _ => none⟩

/-- A call that waits finds a refresh that covers its clients, a refreshed set has positive ids,
and a call returns while no refresh of its clients is in progress. -/
def Covered (store : FlowStore) (system : FlowSystem) : FlowEvent → Prop
  | .begin _ request _ _ =>
      match system.refreshing with
      | some work => ∀ id ∈ store.clients,
          request.asksFor store id = true → work.request.asksFor store id = true
      | none => request.isPositive = true
  | .ret call =>
      match system.refreshing, system.calls call with
      | some work, some returning => ∀ id ∈ store.clients,
          returning.request.asksFor store id = true → work.request.asksFor store id = false
      | _, _ => True
  | .work | .finish .. | .closeChannel _ | .wake _ => True

/-- The flows once the refresh in progress is over. -/
def settled (system : FlowSystem) : Int → Flow :=
  match system.refreshing with
  | none => system.flows
  | some work => perform work.ops system.flows

/-- After the refresh in progress every call has what it asked for; it writes nothing else. -/
structure Sound (store : FlowStore) (system : FlowSystem) : Prop where
  settled_eq : ∀ {call request stage}, system.calls call = some ⟨request, stage⟩ →
    stage ≠ .skipped → ∀ {id}, request.asksFor store id = true → system.settled id = store.total id
  covers : ∀ {work}, system.refreshing = some work → ∀ {id},
    work.request.asksFor store id = true → system.settled id = store.total id
  ops_asked : ∀ {work}, system.refreshing = some work → ∀ op ∈ work.ops, op.id ≠ 0 →
    work.request.asksFor store op.id = true

end FlowSystem

namespace FlowRequest

variable {store : FlowStore} {request : FlowRequest} {id : Int}

theorem mem_clients_of_asksFor (asks : request.asksFor store id = true) :
    id ≠ 0 ∧ id ∈ store.clients := by
  simp only [asksFor, Bool.and_eq_true, decide_eq_true_eq] at asks
  exact asks.1

theorem perform_ops_of_asksFor (isPositive : request.isPositive = true)
    (asks : request.asksFor store id = true) (flows : Int → Flow) :
    perform (request.ops store) flows id = store.total id := by
  obtain ⟨isId, isClient⟩ := mem_clients_of_asksFor asks
  cases request with
  | refreshClients | forceRefreshClients | flush =>
    exact FlowStore.perform_refreshClients isId isClient flows
  | refreshClientSet clientIDs =>
    have isAsked : id ∈ clientIDs := by
      simp only [asksFor, Bool.and_eq_true, decide_eq_true_eq] at asks
      exact asks.2
    have positive := List.all_eq_true.mp isPositive id isAsked
    exact FlowStore.perform_refreshClientSet (of_decide_eq_true positive) isClient isAsked flows

theorem asksFor_of_mem_ops {op : FlowOp} (isMember : op ∈ request.ops store) (isId : op.id ≠ 0) :
    request.asksFor store op.id = true := by
  cases request with
  | refreshClients | forceRefreshClients | flush =>
    have isClient := FlowStore.mem_clients_of_mem_refreshClients isMember
    simp [asksFor, isId, isClient]
  | refreshClientSet =>
    obtain ⟨isAsked, isClient⟩ := FlowStore.mem_of_mem_refreshClientSet isMember
    simp [asksFor, isId, isClient, isAsked]

theorem perform_of_not_asksFor {ops : List FlowOp}
    (asked : ∀ op ∈ ops, op.id ≠ 0 → request.asksFor store op.id = true) (isId : id ≠ 0)
    (notAsked : request.asksFor store id = false) (flows : Int → Flow) :
    perform ops flows id = flows id := by
  refine perform_of_forall_ne ?_ flows
  rintro op isMember rfl
  rw [asked op isMember isId] at notAsked
  cases notAsked

end FlowRequest

namespace FlowSystem

variable {store : FlowStore} {system next : FlowSystem}

theorem settled_of_none (isNone : system.refreshing = none) : system.settled = system.flows := by
  rw [settled, isNone]

theorem settled_of_some {work : FlowWork} (isSome : system.refreshing = some work) :
    system.settled = perform work.ops system.flows := by
  rw [settled, isSome]

variable {request : FlowRequest}

section

variable (sound : system.Sound store)

include sound

theorem Sound.setCall (call : Nat)
    {stage : FlowStage} (settledEq : stage ≠ .skipped → ∀ {id}, request.asksFor store id = true →
      system.settled id = store.total id) : (system.setCall call request stage).Sound store where
  settled_eq := by
    intro other asked otherStage found notSkipped _ asks
    by_cases isCall : other = call
    · subst isCall
      obtain ⟨rfl, rfl⟩ : request = asked ∧ stage = otherStage := by
        simpa [FlowSystem.setCall] using found
      exact settledEq notSkipped asks
    · have found : system.calls other = some ⟨asked, otherStage⟩ := by
        simpa [FlowSystem.setCall, isCall] using found
      exact sound.settled_eq found notSkipped asks
  covers := sound.covers
  ops_asked := sound.ops_asked

/-- A refresh starts: the clients that it is asked for get their sums, and the others keep
what they have. -/
theorem Sound.lead (isFree : system.refreshing = none) (call : Nat)
    (isPositive : request.isPositive = true) (channels : Nat) :
    Sound store { system.setCall call request (.leading system.channels) with
      refreshing := some ⟨system.channels, request, request.ops store⟩
      channels := channels } where
  settled_eq := by
    intro other asked otherStage found notSkipped id asks
    change perform (request.ops store) system.flows id = store.total id
    cases alsoAsks : request.asksFor store id with
    | true => exact perform_ops_of_asksFor isPositive alsoAsks system.flows
    | false =>
      have isId := (mem_clients_of_asksFor asks).1
      rw [perform_of_not_asksFor (fun _ isMember => asksFor_of_mem_ops isMember) isId alsoAsks]
      have isOther : other ≠ call := by
        rintro rfl
        obtain ⟨rfl, -⟩ : request = asked ∧ _ := by
          simpa [FlowSystem.setCall] using found
        rw [asks] at alsoAsks
        cases alsoAsks
      have found : system.calls other = some ⟨asked, otherStage⟩ := by
        simpa [FlowSystem.setCall, isOther] using found
      have settledEq := sound.settled_eq found notSkipped asks
      rwa [settled_of_none isFree] at settledEq
  covers := by
    rintro _ ⟨⟩ id asks
    exact perform_ops_of_asksFor isPositive asks system.flows
  ops_asked := by
    rintro _ ⟨⟩ op isMember isId
    exact asksFor_of_mem_ops isMember isId

theorem sound_begin {call : Nat} {now : Int} {state : Nat}
    (covered : system.Covered store (.begin call request now state)) :
    (system.beginRefreshClients store call request now state).Sound store := by
  rw [beginRefreshClients]
  by_cases isEmpty : request.isEmpty = true
  · rw [if_pos isEmpty]
    exact sound.setCall call nofun
  · rw [if_neg isEmpty]
    cases refreshingEq : system.refreshing with
    | some =>
      simp only [Covered, refreshingEq] at covered
      refine sound.setCall call fun _ {id} asks => ?_
      have isClient := (mem_clients_of_asksFor asks).2
      exact sound.covers refreshingEq (covered id isClient asks)
    | none =>
      simp only [Covered, refreshingEq] at covered
      dsimp only
      split_ifs
      · exact sound.setCall call nofun
      · exact sound.lead refreshingEq call covered _

theorem Sound.continue (settledEq : next.settled = system.settled)
    (callsEq : next.calls = system.calls)
    (rest : ∀ {work}, next.refreshing = some work → ∃ before, system.refreshing = some before ∧
      work.request = before.request ∧ ∀ op ∈ work.ops, op ∈ before.ops) : next.Sound store where
  settled_eq := by
    rw [settledEq, callsEq]
    exact sound.settled_eq
  covers := by
    intro _ isWork _ asks
    obtain ⟨_, isBefore, requestEq, -⟩ := rest isWork
    rw [settledEq]
    exact sound.covers isBefore (requestEq ▸ asks)
  ops_asked := by
    intro _ isWork op isMember isId
    obtain ⟨_, isBefore, requestEq, stillThere⟩ := rest isWork
    rw [requestEq]
    exact sound.ops_asked isBefore op (stillThere op isMember) isId

theorem sound_step {event : FlowEvent} (covered : system.Covered store event)
    (steps : system.step store event = some next) : next.Sound store := by
  revert steps
  fun_cases step store system event with
  | case2 =>
    rintro ⟨⟩
    exact sound_begin sound covered
  | case3 _ _ op _ refreshingEq =>
    rintro ⟨⟩
    refine sound.continue (settled_of_some refreshingEq).symm rfl ?_
    rintro _ ⟨⟩
    exact ⟨_, refreshingEq, rfl, fun _ => List.mem_cons_of_mem op⟩
  | case5 call now state request channel _ refreshingEq found =>
    rintro ⟨⟩
    have finished : (system.finishRefreshClients request.markFresh now state).Sound store :=
      sound.continue (settled_of_some refreshingEq).symm rfl nofun
    have stillFound : (system.finishRefreshClients request.markFresh now state).calls call =
        some ⟨request, .leading channel⟩ := found
    exact finished.setCall call fun _ {id} asks => finished.settled_eq stillFound nofun asks
  | case8 call request _ found =>
    rintro ⟨⟩
    have moved : (system.setCall call request .refreshed).Sound store :=
      sound.setCall call fun _ {id} asks => sound.settled_eq found nofun asks
    exact { moved with }
  | case10 call _ _ found =>
    rintro ⟨⟩
    exact sound.setCall call fun _ {id} asks => sound.settled_eq found nofun asks
  | case13 call | case14 call =>
    rintro ⟨⟩
    refine { sound with settled_eq := ?_ }
    intro other _ _ found
    by_cases isCall : other = call
    · simp [isCall] at found
    · dsimp only at found
      rw [Function.update_of_ne isCall] at found
      exact sound.settled_eq found
  | _ => nofun

end

/-- Under the conditions above, a call that was not skipped returns with the flows of its clients
equal to the sums over the stored hosts and tunnels. -/
theorem returns_with_sums (store : FlowStore) (flows : Int → Flow) {events : List FlowEvent}
    {system : FlowSystem} (runs : Runs.execute (step store) (idle flows) events = some system)
    (meets : Runs.Meets (step store) (Covered store) (idle flows) events) {call : Nat}
    {request : FlowRequest} (refreshed : system.calls call = some ⟨request, .refreshed⟩)
    (covered : system.Covered store (.ret call)) :
    ∀ id, request.asksFor store id = true → system.flows id = store.total id := by
  have start : (idle flows).Sound store := ⟨nofun, nofun, nofun⟩
  have sound : system.Sound store :=
    Runs.invariant_of_meets _ (fun _ _ _ sound covered => sound_step sound covered) start meets runs
  intro id asks
  have settledEq := sound.settled_eq refreshed nofun asks
  cases refreshingEq : system.refreshing with
  | none => rwa [settled_of_none refreshingEq] at settledEq
  | some =>
    simp only [Covered, refreshingEq, refreshed] at covered
    obtain ⟨isId, isClient⟩ := mem_clients_of_asksFor asks
    rw [settled_of_some refreshingEq, perform_of_not_asksFor
      (sound.ops_asked refreshingEq) isId (covered id isClient asks)] at settledEq
    exact settledEq

def twoClients : FlowStore := .ofRecords [1, 2] [⟨some 1, some (10, 20)⟩] [⟨some 2, some (30, 40)⟩]

instance decidableCovered (store : FlowStore) (system : FlowSystem) :
    (event : FlowEvent) → Decidable (system.Covered store event)
  | .begin _ request _ _ =>
      match refreshingEq : system.refreshing with
      | some work => decidable_of_iff (∀ id ∈ store.clients,
          request.asksFor store id = true → work.request.asksFor store id = true)
          (by simp [Covered, refreshingEq])
      | none => decidable_of_iff (request.isPositive = true) (by simp [Covered, refreshingEq])
  | .ret call =>
      match refreshingEq : system.refreshing, found : system.calls call with
      | some work, some returning => decidable_of_iff (∀ id ∈ store.clients,
          returning.request.asksFor store id = true → work.request.asksFor store id = false)
          (by simp [Covered, refreshingEq, found])
      | some _, none | none, _ => .isTrue (by simp [Covered, refreshingEq, found])
  | .work | .finish .. | .closeChannel _ | .wake _ => .isTrue trivial

def waitsForAll : List FlowEvent :=
  [.begin 0 .forceRefreshClients 0 0, .begin 1 (.refreshClientSet [2]) 0 0, .work, .work, .work,
    .work, .finish 0 5 0, .closeChannel 0, .wake 1]

theorem returns_with_sums_waitsForAll :
    ∃ system, Runs.execute (step twoClients) (idle fun _ => 0) waitsForAll = some system ∧
      system.calls 1 = some ⟨.refreshClientSet [2], .refreshed⟩ ∧ system.flows 2 = (30, 40) := by
  obtain ⟨system, runs, refreshed, noneRefreshes⟩ :
      ∃ system, Runs.execute (step twoClients) (idle fun _ => 0) waitsForAll = some system ∧
        system.calls 1 = some ⟨.refreshClientSet [2], .refreshed⟩ ∧
        system.refreshing.isNone = true :=
    Runs.exists_of_any (by decide +kernel)
  have covered : system.Covered twoClients (.ret 1) := by
    simp [Covered, Option.isNone_iff_eq_none.mp noneRefreshes]
  have sums := returns_with_sums twoClients _ runs (by decide +kernel) refreshed covered 2
    (by decide)
  exact ⟨system, runs, refreshed, sums.trans (by decide)⟩

def waitsForOne : List FlowEvent :=
  [.begin 0 (.refreshClientSet [1]) 0 0, .begin 1 .forceRefreshClients 0 0, .work, .work,
    .finish 0 5 0, .closeChannel 0, .wake 1]

/-- The call returns, no refresh is in progress, and the second client has no flow although
its tunnel has. -/
theorem waiter_returns_without_sums :
    ∃ system, Runs.execute (step twoClients) (idle fun _ => 0) waitsForOne = some system ∧
      system.calls 1 = some ⟨.forceRefreshClients, .refreshed⟩ ∧ system.refreshing = none ∧
      FlowRequest.forceRefreshClients.asksFor twoClients 2 = true ∧
      system.flows 2 ≠ twoClients.total 2 := by
  obtain ⟨system, runs, refreshed, noneRefreshes, differs⟩ :
      ∃ system, Runs.execute (step twoClients) (idle fun _ => 0) waitsForOne = some system ∧
        system.calls 1 = some ⟨.forceRefreshClients, .refreshed⟩ ∧
        system.refreshing.isNone = true ∧ system.flows 2 ≠ twoClients.total 2 :=
    Runs.exists_of_any (by decide +kernel)
  exact ⟨system, runs, refreshed, Option.isNone_iff_eq_none.mp noneRefreshes, by decide, differs⟩

end FlowSystem

end DeepNps.Server
