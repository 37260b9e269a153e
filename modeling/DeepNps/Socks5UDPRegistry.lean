import DeepNps.LabelledRuns
import DeepNps.UniqueIndex
import Mathlib.Data.List.Nodup

/-!
# The UDP associations of a SOCKS5 listener

A datagram from an address that no session is bound to binds the only session pending
under its IP.
-/

namespace DeepNps.Server

open Function

structure Socks5UDPSession where
  clientIPKey : String
  boundKey : Option String

/-- The registered sessions, with the number made so far; `sessionsByIP` is only read for a log
line. -/
structure Socks5UDPRegistry where
  closed : Bool := false
  made : Nat := 0
  sessions : Nat → Option Socks5UDPSession := fun _ => none
  sessionsByAddr : String → Option Nat := fun _ => none
  pendingByIP : String → List Nat := fun _ => []

namespace Socks5UDPRegistry

def registerSession (registry : Socks5UDPRegistry) (ip : String) : Socks5UDPRegistry :=
  if registry.closed then registry
  else
    { registry with
      made := registry.made + 1
      sessions := update registry.sessions registry.made (some ⟨ip, none⟩)
      pendingByIP := update registry.pendingByIP ip
        (registry.pendingByIP ip ++ [registry.made]) }

def removePendingSessionLocked (registry : Socks5UDPRegistry) (ip : String) (session : Nat) :
    Socks5UDPRegistry :=
  { registry with
    pendingByIP := update registry.pendingByIP ip
      ((registry.pendingByIP ip).filter (· ≠ session)) }

/-- A session closes once, so one that is not registered is in no map. -/
def unregisterSession (registry : Socks5UDPRegistry) (session : Nat) : Socks5UDPRegistry :=
  match registry.sessions session with
  | none => registry
  | some ⟨ip, boundKey⟩ =>
      removePendingSessionLocked
        { registry with
          sessions := update registry.sessions session none
          sessionsByAddr := match boundKey with
            | none => registry.sessionsByAddr
            | some key =>
                if registry.sessionsByAddr key = some session then
                  update registry.sessionsByAddr key none
                else registry.sessionsByAddr } ip session

def selectSessionLocked (registry : Socks5UDPRegistry) (addrKey ipKey : String) : Option Nat :=
  match registry.sessionsByAddr addrKey with
  | some session => some session
  | none => match registry.pendingByIP ipKey with
    | [session] => some session
    | _ => none

def bindSessionLocked (registry : Socks5UDPRegistry) (session : Nat) (addr : String) :
    Socks5UDPRegistry :=
  match registry.sessions session with
  | some ⟨ip, none⟩ =>
      removePendingSessionLocked
        { registry with
          sessions := update registry.sessions session (some ⟨ip, some addr⟩)
          sessionsByAddr := update registry.sessionsByAddr addr (some session) } ip session
  | _ => registry

/-- `pickSession` after its look into `sessionsByAddr` under the read lock. -/
def pickSessionLocked (registry : Socks5UDPRegistry) (addr ip : String) :
    Option Nat × Socks5UDPRegistry :=
  match registry.selectSessionLocked addr ip with
  | none => (none, registry)
  | some session => (some session, registry.bindSessionLocked session addr)

inductive Call where
  | registerSession (ip : String)
  | unregisterSession (session : Nat)
  | pickSession (addr ip : String)
  | close

def step (registry : Socks5UDPRegistry) : Call → Option Socks5UDPRegistry
  | .registerSession ip => some (registry.registerSession ip)
  | .unregisterSession session => some (registry.unregisterSession session)
  | .pickSession addr ip => some (registry.pickSessionLocked addr ip).2
  | .close => some { registry with closed := true }

/-- What the calls alone say: the number of sessions made, whether the registry is closed, and the
sessions registered and not unregistered since, with their IPs. -/
structure History where
  made : Nat := 0
  closed : Bool := false
  registered : List (Nat × String) := []

def History.after (history : History) : Call → History
  | .registerSession ip =>
      if history.closed then history
      else
        { history with
          made := history.made + 1
          registered := (history.made, ip) :: history.registered }
  | .unregisterSession session =>
      { history with registered := history.registered.filter (·.1 ≠ session) }
  | .pickSession _ _ => history
  | .close => { history with closed := true }

/-- The map of sessions holds what was registered and not unregistered. -/
structure Follows (registry : Socks5UDPRegistry) (history : History) : Prop where
  made : registry.made = history.made
  closed : registry.closed = history.closed
  sessions : ∀ session ip, (∃ key, registry.sessions session = some ⟨ip, key⟩) ↔
    (session, ip) ∈ history.registered

/-- The maps agree with the sessions. -/
structure Ok (registry : Socks5UDPRegistry) : Prop where
  bound : UniqueIndex.Exact Socks5UDPSession.boundKey registry.sessions registry.sessionsByAddr
  pending : ∀ ip session, session ∈ registry.pendingByIP ip ↔
    registry.sessions session = some ⟨ip, none⟩
  nodup : ∀ ip, (registry.pendingByIP ip).Nodup
  made : ∀ session, registry.made ≤ session → registry.sessions session = none

/-- The session was bound to the address at some time, and may have left since. -/
def WasBound (registry : Socks5UDPRegistry) (session : Nat) (ip addr : String) : Prop :=
  session < registry.made ∧
    ∀ current, registry.sessions session = some current → current = ⟨ip, some addr⟩

variable {registry next : Socks5UDPRegistry} {session : Nat} {ip addr : String}

section

variable (ok : registry.Ok)

include ok

theorem Ok.registerSession (ip : String) : (registry.registerSession ip).Ok := by
  rw [Socks5UDPRegistry.registerSession]
  split_ifs
  · exact ok
  have absent := ok.made registry.made (Nat.le_refl _)
  have notPending : ∀ other, registry.made ∉ registry.pendingByIP other := by
    simp [ok.pending, absent]
  refine ⟨ok.bound.of_code_none (by simp [absent]) (by rintro _ ⟨⟩; rfl), fun other session => ?_,
    fun other => ?_, fun session isNew => ?_⟩
  · by_cases isSession : session = registry.made
    · subst isSession
      by_cases isIP : other = ip
      · simp [isIP]
      · simp [isIP, notPending, Ne.symm isIP]
    · by_cases isIP : other = ip <;> simp [isSession, isIP, ← ok.pending]
  · by_cases isIP : other = ip
    · subst isIP
      simpa [List.nodup_append, ok.nodup] using
        fun member isMember => ne_of_mem_of_not_mem isMember (notPending other)
    · simp [isIP, ok.nodup]
  · simpa [Nat.ne_of_gt isNew] using ok.made session (Nat.le_of_succ_le isNew)

/-- A session leaves the pending ones when it is bound or taken out. -/
theorem Ok.removePending {key : Option String}
    (found : registry.sessions session = some ⟨ip, key⟩) {value : Option Socks5UDPSession}
    (notPending : ∀ ip, value ≠ some ⟨ip, none⟩) {index : String → Option Nat}
    (bound : UniqueIndex.Exact Socks5UDPSession.boundKey
      (update registry.sessions session value) index) :
    (removePendingSessionLocked
      { registry with
        sessions := update registry.sessions session value
        sessionsByAddr := index } ip session).Ok := by
  refine ⟨bound, fun other member => ?_, fun other => ?_, fun member isNew => ?_⟩
  · by_cases isSession : member = session
    · subst isSession
      by_cases isIP : other = ip
      · simp [removePendingSessionLocked, isIP, notPending]
      · simp [removePendingSessionLocked, isIP, notPending, ok.pending, found, Ne.symm isIP]
    · by_cases isIP : other = ip <;>
        simp [removePendingSessionLocked, isIP, isSession, ← ok.pending]
  · by_cases isIP : other = ip
    · simp [removePendingSessionLocked, isIP, (ok.nodup ip).filter]
    · simp [removePendingSessionLocked, isIP, ok.nodup]
  · have isOther : member ≠ session := by
      rintro rfl
      simp [ok.made member isNew] at found
    simpa [removePendingSessionLocked, isOther] using ok.made member isNew

theorem Ok.unregisterSession (session : Nat) : (registry.unregisterSession session).Ok := by
  rw [Socks5UDPRegistry.unregisterSession]
  cases found : registry.sessions session with
  | none => exact ok
  | some current =>
    obtain ⟨ip, _ | key⟩ := current
    · exact ok.removePending found (by simp) (ok.bound.of_code_none (by simp [found]) (by simp))
    · have leads := (ok.bound key session).mpr ⟨_, found, rfl⟩
      simp only [leads, if_true]
      exact ok.removePending found (by simp) (ok.bound.erase found rfl)

/-- Only a session without an address is bound, and to an address without a session. -/
theorem Ok.bindSessionLocked (free : registry.sessionsByAddr addr = none)
    (found : registry.sessions session = some ⟨ip, none⟩) :
    (registry.bindSessionLocked session addr).Ok ∧
      (registry.bindSessionLocked session addr).made = registry.made ∧
      (registry.bindSessionLocked session addr).sessions =
        update registry.sessions session (some ⟨ip, some addr⟩) := by
  rw [Socks5UDPRegistry.bindSessionLocked, found]
  refine ⟨ok.removePending found (by simp) ?_, rfl, rfl⟩
  have erased : UniqueIndex.Exact Socks5UDPSession.boundKey
      (update registry.sessions session none) registry.sessionsByAddr :=
    ok.bound.of_code_none (by simp [found]) nofun
  have hasCode : (⟨ip, some addr⟩ : Socks5UDPSession).boundKey = some addr := rfl
  have bound := erased.insert (update_self ..) hasCode free
  rwa [update_idem] at bound

/-- A datagram goes to the session bound to its address, or binds the only session pending under
its IP, and is dropped if there is neither. -/
theorem Ok.pickSessionLocked (addr ip : String) :
    registry.pickSessionLocked addr ip = (none, registry) ∧
        registry.sessionsByAddr addr = none ∧ (∀ session, registry.pendingByIP ip ≠ [session]) ∨
      ∃ session, (∃ other, registry.sessions session = some ⟨other, some addr⟩) ∧
          registry.pickSessionLocked addr ip = (some session, registry) ∨
        registry.pendingByIP ip = [session] ∧ registry.sessions session = some ⟨ip, none⟩ ∧
          registry.sessionsByAddr addr = none ∧ registry.pickSessionLocked addr ip =
            (some session, registry.bindSessionLocked session addr) := by
  rw [Socks5UDPRegistry.pickSessionLocked]
  fun_cases selectSessionLocked registry addr ip with
  | case1 session leads =>
    obtain ⟨⟨other, _⟩, found, rfl⟩ := (ok.bound addr session).mp leads
    refine .inr ⟨session, .inl ⟨⟨other, found⟩, ?_⟩⟩
    simp only [Socks5UDPRegistry.bindSessionLocked, found]
  | case2 free session isOnly =>
    have found := (ok.pending ip session).mp (by simp [isOnly])
    exact .inr ⟨session, .inr ⟨isOnly, found, free, rfl⟩⟩
  | case3 free notOnly => exact .inl ⟨rfl, free, notOnly⟩

theorem Ok.step {call : Call} (stepEq : registry.step call = some next) :
    next.Ok ∧ ∀ session ip addr, registry.WasBound session ip addr →
      next.WasBound session ip addr := by
  cases call with
  | registerSession ip =>
    cases stepEq
    refine ⟨ok.registerSession ip, ?_⟩
    rintro session other addr ⟨isOld, wasBound⟩
    rw [Socks5UDPRegistry.registerSession]
    split_ifs
    · exact ⟨isOld, wasBound⟩
    · exact ⟨Nat.lt_succ_of_lt isOld, by simpa [Nat.ne_of_lt isOld] using wasBound⟩
  | unregisterSession session =>
    cases stepEq
    refine ⟨ok.unregisterSession session, ?_⟩
    rintro other ip addr ⟨isOld, wasBound⟩
    rw [Socks5UDPRegistry.unregisterSession]
    split
    · exact ⟨isOld, wasBound⟩
    · refine ⟨isOld, ?_⟩
      by_cases isSame : other = session <;> simp_all [removePendingSessionLocked]
  | pickSession addr ip =>
    cases stepEq
    obtain ⟨dropped, -⟩ | ⟨session, ⟨-, given⟩ | ⟨-, found, free, binds⟩⟩ :=
      ok.pickSessionLocked addr ip
    · rw [dropped]
      exact ⟨ok, fun _ _ _ => id⟩
    · rw [given]
      exact ⟨ok, fun _ _ _ => id⟩
    · obtain ⟨nextOk, made, sessions⟩ := ok.bindSessionLocked free found
      rw [binds]
      refine ⟨nextOk, ?_⟩
      rintro other otherIP otherAddr ⟨isOld, wasBound⟩
      have isOther : other ≠ session := by
        rintro rfl
        cases wasBound _ found
      exact ⟨made ▸ isOld, by rwa [sessions, update_of_ne isOther]⟩
  | close =>
    cases stepEq
    exact ⟨{ ok with }, fun _ _ _ => id⟩

theorem Ok.follows_step {call : Call} {history : History} (follows : registry.Follows history)
    (stepEq : registry.step call = some next) : next.Follows (history.after call) := by
  cases call with
  | registerSession ip =>
    cases stepEq
    rw [Socks5UDPRegistry.registerSession, History.after, ← follows.closed]
    split_ifs
    · exact follows
    refine ⟨congrArg (· + 1) follows.made, rfl, fun session other => ?_⟩
    have absent := (follows.sessions registry.made other).not.mp
      (by simp [ok.made registry.made (Nat.le_refl _)])
    by_cases isNew : session = registry.made
    · subst isNew
      simpa [← follows.made, absent] using eq_comm
    · simp [isNew, ← follows.made, follows.sessions]
  | unregisterSession session =>
    cases stepEq
    rw [Socks5UDPRegistry.unregisterSession, History.after]
    cases found : registry.sessions session with
    | none =>
      refine ⟨follows.made, follows.closed, fun other ip => ?_⟩
      by_cases isSame : other = session
      · simp [isSame, found]
      · simp [isSame, follows.sessions]
    | some current =>
      refine ⟨follows.made, follows.closed, fun other ip => ?_⟩
      by_cases isSame : other = session
      · simp [isSame, removePendingSessionLocked]
      · simp [isSame, removePendingSessionLocked, follows.sessions]
  | pickSession addr ip =>
    cases stepEq
    obtain ⟨dropped, -⟩ | ⟨session, ⟨-, given⟩ | ⟨-, found, free, binds⟩⟩ :=
      ok.pickSessionLocked addr ip
    · rwa [dropped]
    · rwa [given]
    · obtain ⟨-, made, sessions⟩ := ok.bindSessionLocked free found
      rw [binds]
      refine ⟨made.trans follows.made, ?_, fun other otherIP => ?_⟩
      · rw [Socks5UDPRegistry.bindSessionLocked, found]
        exact follows.closed
      · rw [sessions, History.after, ← follows.sessions]
        by_cases isSame : other = session
        · simp [isSame, found]
        · simp [isSame]
  | close =>
    cases stepEq
    exact ⟨follows.made, rfl, follows.sessions⟩

end

theorem Ok.follows_execute (ok : registry.Ok) {history : History} {calls : List Call}
    (follows : registry.Follows history)
    (reaches : Runs.execute Socks5UDPRegistry.step registry calls = some next) :
    next.Follows (calls.foldl History.after history) := by
  induction calls generalizing registry history with
  | nil =>
    cases reaches
    exact follows
  | cons call calls ih =>
    obtain ⟨_, stepEq, restReaches⟩ := Runs.execute_cons_eq_some.mp reaches
    exact ih (ok.step stepEq).1 (ok.follows_step follows stepEq) restReaches

/-- The sessions in the map are those that the calls have registered and not unregistered, no two
of them are bound to one address, a bound session stays bound, the pending sessions of an IP are
the unbound ones, and a datagram is given to the session bound to its address or the only one
pending under its IP, and dropped if there is neither. -/
theorem associations_isolated {calls : List Call}
    (reaches : Runs.execute step {} calls = some registry) :
    (∀ session ip, (∃ key, registry.sessions session = some ⟨ip, key⟩) ↔
      (session, ip) ∈ (calls.foldl History.after {}).registered) ∧
    (∀ session other ip otherIP addr, registry.sessions session = some ⟨ip, some addr⟩ →
      registry.sessions other = some ⟨otherIP, some addr⟩ → session = other) ∧
    (∀ session ip addr later last current, registry.sessions session = some ⟨ip, some addr⟩ →
      Runs.execute step registry later = some last → last.sessions session = some current →
      current = ⟨ip, some addr⟩) ∧
    (∀ ip, (registry.pendingByIP ip).Nodup ∧ ∀ session, session ∈ registry.pendingByIP ip ↔
      registry.sessions session = some ⟨ip, none⟩) ∧
    (∀ addr session, registry.sessionsByAddr addr = some session →
      ∃ ip, registry.sessions session = some ⟨ip, some addr⟩) ∧
    (∀ addr ip session next, registry.pickSessionLocked addr ip = (some session, next) →
      ((∃ other, registry.sessions session = some ⟨other, some addr⟩) ∨
        registry.pendingByIP ip = [session]) ∧
      ∃ other, next.sessions session = some ⟨other, some addr⟩) ∧
    ∀ addr ip next, registry.pickSessionLocked addr ip = (none, next) →
      (∀ session other, registry.sessions session ≠ some ⟨other, some addr⟩) ∧
        ∀ session, registry.pendingByIP ip ≠ [session] := by
  have okNew : ({} : Socks5UDPRegistry).Ok :=
    ⟨UniqueIndex.exact_empty, by simp, by simp, by simp⟩
  have ok : registry.Ok :=
    Runs.invariant_of_execute _ (fun _ _ _ ok stepEq => (ok.step stepEq).1) okNew reaches
  have follows : registry.Follows (calls.foldl History.after {}) :=
    okNew.follows_execute ⟨rfl, rfl, by simp⟩ reaches
  refine ⟨follows.sessions, ?_, ?_, fun ip => ⟨ok.nodup ip, ok.pending ip⟩, ?_, ?_, ?_⟩
  · intro session other ip otherIP addr found otherFound
    have leads := (ok.bound addr session).mpr ⟨_, found, rfl⟩
    have otherLeads := (ok.bound addr other).mpr ⟨_, otherFound, rfl⟩
    exact Option.some.inj (leads.symm.trans otherLeads)
  · intro session ip addr later last current found leads isCurrent
    have isOld : session < registry.made := by
      by_contra isNew
      cases found.symm.trans (ok.made session (Nat.le_of_not_lt isNew))
    have wasBound := Runs.invariant_of_execute
      (fun state : Socks5UDPRegistry => state.Ok ∧ state.WasBound session ip addr)
      (fun _ _ _ holds stepEq => (holds.1.step stepEq).imp_right fun keeps => keeps _ _ _ holds.2)
      ⟨ok, isOld, by simp [found]⟩ leads
    exact wasBound.2.2 current isCurrent
  · intro addr session leads
    obtain ⟨⟨ip, _⟩, found, rfl⟩ := (ok.bound addr session).mp leads
    exact ⟨ip, found⟩
  · intro addr ip session next picked
    obtain ⟨dropped, -⟩ | ⟨other, ⟨bound, given⟩ | ⟨isOnly, found, free, binds⟩⟩ :=
      ok.pickSessionLocked addr ip
    · cases dropped.symm.trans picked
    · cases given.symm.trans picked
      exact ⟨.inl bound, bound⟩
    · cases binds.symm.trans picked
      refine ⟨.inr isOnly, ip, ?_⟩
      rw [(ok.bindSessionLocked free found).2.2, update_self]
  · intro addr ip next missed
    obtain ⟨-, free, notOnly⟩ | ⟨other, ⟨-, given⟩ | ⟨-, -, -, binds⟩⟩ :=
      ok.pickSessionLocked addr ip
    · refine ⟨fun session other found => ?_, notOnly⟩
      cases free.symm.trans ((ok.bound addr session).mpr ⟨_, found, rfl⟩)
    · cases given.symm.trans missed
    · cases binds.symm.trans missed

/-- The first session is bound and leaves; a datagram from its address then binds the second. -/
theorem associations_isolated_two : ∃ registry : Socks5UDPRegistry,
    Runs.execute step {} [.registerSession "1.1.1.1", .pickSession "1.1.1.1:5" "1.1.1.1",
        .registerSession "1.1.1.1", .unregisterSession 0, .pickSession "1.1.1.1:5" "1.1.1.1"] =
      some registry ∧ registry.sessionsByAddr "1.1.1.1:5" = some 1 ∧
      registry.pendingByIP "1.1.1.1" = [] ∧ registry.sessions 0 = none ∧
      ∀ session, registry.sessions session = some ⟨"1.1.1.1", some "1.1.1.1:5"⟩ → 1 = session := by
  have reaches : Runs.execute step {} [.registerSession "1.1.1.1",
      .pickSession "1.1.1.1:5" "1.1.1.1", .registerSession "1.1.1.1", .unregisterSession 0,
      .pickSession "1.1.1.1:5" "1.1.1.1"] = some _ := rfl
  obtain ⟨-, alone, -⟩ := associations_isolated reaches
  exact ⟨_, reaches, rfl, rfl, rfl, fun session => alone 1 session _ _ "1.1.1.1:5" rfl⟩

end Socks5UDPRegistry

end DeepNps.Server
