import DeepNps.LabelledRuns

/-!
# Failed logins and bans

A query forgets the failures of a key whose ban is over, and takes the duration of the ban
from the kind of the query and not from the kind of the key.
-/

namespace DeepNps.Login

/-- `LoginPolicySettings`, without what the bans do not depend on.  The times are in
seconds. -/
structure LoginPolicySettings where
  banTime : Int
  ipBanTime : Int
  userBanTime : Int
  maxFailTimes : Int

/-- `loginFailureRecord`.  Only the seconds of the times are read. -/
structure LoginFailureRecord where
  hasLoginFailTimes : Int
  lastLoginTime : Int
  deriving DecidableEq

structure LoginPolicy where
  records : String → Option LoginFailureRecord

open LoginPolicy List Option

namespace LoginPolicy

variable (settings : LoginPolicySettings)

def new : LoginPolicy where
  records := fun _ => none

def put (policy : LoginPolicy) (key : String) (record : Option LoginFailureRecord) :
    LoginPolicy where
  records := Function.update policy.records key record

/-- `isBanned`: the answer, and the failures that are forgotten. -/
def isBanned (key : String) (ttl now : Int) (policy : LoginPolicy) : Bool × LoginPolicy :=
  if key = "" then (false, policy)
  else
    match policy.records key with
    | none => (false, policy)
    | some current =>
        let duration := now - current.lastLoginTime
        if duration < settings.banTime then (true, policy)
        else
          let current := if ttl ≤ duration then { current with hasLoginFailTimes := 0 } else current
          (settings.maxFailTimes ≤ current.hasLoginFailTimes, policy.put key (some current))

def isIPBanned (ip : String) (now : Int) (policy : LoginPolicy) : Bool × LoginPolicy :=
  policy.isBanned settings ip settings.ipBanTime now

def isUserBanned (username : String) (now : Int) (policy : LoginPolicy) : Bool × LoginPolicy :=
  policy.isBanned settings username settings.userBanTime now

def recordFailure (key : String) (explicit : Bool) (now : Int) (policy : LoginPolicy) :
    LoginPolicy :=
  if ¬ explicit ∨ key = "" then policy
  else
    match policy.records key with
    | none => policy.put key (some ⟨1, now⟩)
    | some current => policy.put key (some ⟨current.hasLoginFailTimes + 1, now⟩)

def removeBan (key : String) (policy : LoginPolicy) : LoginPolicy :=
  if key = "" then policy else policy.put key none

def removeAllBans (_ : LoginPolicy) : LoginPolicy := new

/-- `Clean`, where it is forced or drawn.  `parseIP` tells the keys that are addresses. -/
def clean (parseIP : String → Bool) (now : Int) (policy : LoginPolicy) : LoginPolicy where
  records := fun key => (policy.records key).filter fun current =>
    now - current.lastLoginTime < if parseIP key then settings.ipBanTime else settings.userBanTime

end LoginPolicy

inductive PolicyCall
  | isIPBanned (ip : String)
  | isUserBanned (username : String)
  | recordFailure (key : String) (explicit : Bool)
  | removeBan (key : String)
  | removeAllBans
  | clean

/-- The policy with the time of its last call and a log of the failures of each key,
the newest first. -/
structure PolicySystem where
  policy : LoginPolicy
  clock : Int
  failures : String → List Int

namespace PolicySystem

def new (start : Int) : PolicySystem where
  policy := .new
  clock := start
  failures := fun _ => []

variable (settings : LoginPolicySettings) (parseIP : String → Bool)

def perform (policy : LoginPolicy) (now : Int) : PolicyCall → LoginPolicy
  | .isIPBanned ip => (policy.isIPBanned settings ip now).2
  | .isUserBanned username => (policy.isUserBanned settings username now).2
  | .recordFailure key explicit => policy.recordFailure key explicit now
  | .removeBan key => policy.removeBan key
  | .removeAllBans => policy.removeAllBans
  | .clean => policy.clean settings parseIP now

def logged (failures : String → List Int) (now : Int) : PolicyCall → String → List Int
  | .recordFailure key explicit =>
      if ¬ explicit ∨ key = "" then failures
      else Function.update failures key (now :: failures key)
  | _ => failures

/-- A call at a time.  The clock does not go back. -/
def step (system : PolicySystem) (event : PolicyCall × Int) : Option PolicySystem :=
  if event.2 < system.clock then none
  else some
    { policy := perform settings parseIP system.policy event.2 event.1
      clock := event.2
      failures := logged system.failures event.2 event.1 }

end PolicySystem

/-! ## What a call does to the record of a key -/

open Function

section Records

variable {settings : LoginPolicySettings} {policy : LoginPolicy} {key ip : String} {ttl now : Int}

theorem records_recordFailure (named : key ≠ "") :
    (policy.recordFailure key true now).records key =
      some ⟨(policy.records key).elim 0 LoginFailureRecord.hasLoginFailTimes + 1, now⟩ := by
  rw [recordFailure, if_neg (by simp [named])]
  cases policy.records key with
  | none | some => exact update_self ..

theorem records_recordFailure_of_ne (differs : ip ≠ key) (explicit : Bool) :
    (policy.recordFailure key explicit now).records ip = policy.records ip := by
  rw [recordFailure]
  split_ifs
  · rfl
  · cases policy.records key with
    | none | some => exact update_of_ne differs ..

end Records

namespace PolicySystem

variable (settings : LoginPolicySettings) (parseIP : String → Bool)

/-- Nobody lifts the ban of the address, and a query of the address as a user name forgets nothing
that a query of the address would not. -/
def LeavesBan (ip : String) (_ : PolicySystem) (event : PolicyCall × Int) : Prop :=
  match event.1 with
  | .isUserBanned username => username = ip → settings.ipBanTime ≤ settings.userBanTime
  | .removeBan key => key ≠ ip
  | .removeAllBans => False
  | .isIPBanned _ | .recordFailure _ _ | .clean => True

instance (ip : String) (system : PolicySystem) (event : PolicyCall × Int) :
    Decidable (LeavesBan settings ip system event) :=
  match event with
  | (.isUserBanned username, _) =>
      inferInstanceAs (Decidable (username = ip → settings.ipBanTime ≤ settings.userBanTime))
  | (.removeBan key, _) => inferInstanceAs (Decidable (key ≠ ip))
  | (.removeAllBans, _) => .isFalse id
  | (.isIPBanned _, _) | (.recordFailure _ _, _) | (.clean, _) => .isTrue trivial

/-- A call keeps the record and the log, or takes away a record whose ban would be over, or counts
and logs a failure. -/
inductive Leaves (now : Int) (record : Option LoginFailureRecord) (log : List Int) :
    Option LoginFailureRecord → List Int → Prop
  | kept : Leaves now record log record log
  | expired (old : LoginFailureRecord) (after : Option LoginFailureRecord)
      (isOld : record = some old)
      (isOver : settings.ipBanTime ≤ now - old.lastLoginTime)
      (isAfter : after = none ∨ after = some { old with hasLoginFailTimes := 0 }) :
      Leaves now record log after log
  | failed : Leaves now record log
      (some ⟨record.elim 0 LoginFailureRecord.hasLoginFailTimes + 1, now⟩) (now :: log)

variable {settings parseIP} {ip : String} {system next : PolicySystem}

theorem leaves_isBanned {policy : LoginPolicy} {key : String} {ttl now : Int} {log : List Int}
    (long : key = ip → settings.ipBanTime ≤ ttl) :
    Leaves settings now (policy.records ip) log
      ((policy.isBanned settings key ttl now).2.records ip) log := by
  rw [isBanned]
  split_ifs
  · exact .kept
  · cases isCurrent : policy.records key with
    | none => exact .kept
    | some current =>
      dsimp only
      split_ifs with isRecent isOver
      · exact .kept
      · dsimp only [put]
        by_cases isKey : key = ip
        · subst isKey
          exact .expired current _ isCurrent (Int.le_trans (long rfl) isOver)
            (.inr (update_self ..))
        · rw [update_of_ne (Ne.symm isKey)]
          exact .kept
      · dsimp only [put]
        by_cases isKey : key = ip
        · subst isKey
          rw [update_self, isCurrent]
          exact .kept
        · rw [update_of_ne (Ne.symm isKey)]
          exact .kept

theorem leaves_step {event : PolicyCall × Int} (named : ip ≠ "") (isIP : parseIP ip = true)
    (allowed : LeavesBan settings ip system event) :
    Leaves settings event.2 (system.policy.records ip) (system.failures ip)
      ((perform settings parseIP system.policy event.2 event.1).records ip)
      (logged system.failures event.2 event.1 ip) := by
  obtain ⟨call, now⟩ := event
  cases call with
  | isIPBanned => exact leaves_isBanned fun _ => Int.le_refl _
  | isUserBanned => exact leaves_isBanned allowed
  | recordFailure key explicit =>
    by_cases isKey : ip = key
    · subst isKey
      cases explicit with
      | false => exact .kept
      | true =>
        have log : logged system.failures now (.recordFailure ip true) ip =
            now :: system.failures ip := by
          rw [logged, if_neg (by simp [named])]
          exact update_self ..
        change Leaves settings now _ _ ((system.policy.recordFailure ip true now).records ip) _
        rw [records_recordFailure named, log]
        exact .failed
    · have log : logged system.failures now (.recordFailure key explicit) ip =
          system.failures ip := by
        rw [logged]
        split_ifs
        · rfl
        · exact update_of_ne isKey ..
      change Leaves settings now _ _ ((system.policy.recordFailure key explicit now).records ip) _
      rw [records_recordFailure_of_ne isKey, log]
      exact .kept
  | removeBan key =>
    have same : (system.policy.removeBan key).records ip = system.policy.records ip := by
      rw [removeBan]
      split_ifs
      · rfl
      · exact update_of_ne (Ne.symm allowed) ..
    change Leaves settings now _ _ ((system.policy.removeBan key).records ip) _
    rw [same]
    exact .kept
  | removeAllBans => exact absurd allowed id
  | clean =>
    change Leaves settings now _ _ ((system.policy.clean settings parseIP now).records ip) _
    simp only [clean, isIP, if_true]
    cases system.policy.records ip with
    | none => exact .kept
    | some record =>
      by_cases isOver : settings.ipBanTime ≤ now - record.lastLoginTime
      · rw [filter_some_neg (by simpa using isOver)]
        exact .expired record none rfl isOver (.inl rfl)
      · rw [filter_some_pos (by simpa using isOver)]
        exact .kept

/-- Each failure came before the ban after the one before it would have ended, newest first. -/
def InARow (settings : LoginPolicySettings) (row : List Int) : Prop :=
  row.IsChain fun later earlier => later - earlier < settings.ipBanTime

/-- While the ban after the last failure would last, the record counts at least every row of
failures that ends with it. -/
structure Counted (settings : LoginPolicySettings) (clock : Int)
    (record : Option LoginFailureRecord) (log : List Int) : Prop where
  nonneg : ∀ current ∈ record, 0 ≤ current.hasLoginFailTimes
  rows : ∀ last ∈ log.head?, clock - last < settings.ipBanTime →
    ∃ current, record = some current ∧ current.lastLoginTime = last ∧
      ∀ row, row <+: log → InARow settings row → (row.length : Int) ≤ current.hasLoginFailTimes

section Counted

variable {clock now : Int} {record after : Option LoginFailureRecord} {log logAfter : List Int}

theorem Counted.failed (counted : Counted settings clock record log) (forwards : clock ≤ now) :
    Counted settings now (some ⟨record.elim 0 LoginFailureRecord.hasLoginFailTimes + 1, now⟩)
      (now :: log) := by
  have nonneg : 0 ≤ record.elim 0 LoginFailureRecord.hasLoginFailTimes := by
    cases record with
    | none => exact Int.le_refl 0
    | some current => exact counted.nonneg current rfl
  constructor
  · rintro _ ⟨⟩
    exact Int.le_add_one nonneg
  · rintro last ⟨⟩ -
    refine ⟨_, rfl, rfl, ?_⟩
    intro row isFront inARow
    dsimp only
    cases row with
    | nil => exact Int.le_add_one nonneg
    | cons _ row =>
      obtain ⟨rfl, isRest⟩ := cons_prefix_cons.mp isFront
      cases row with
      | nil =>
        rw [length_singleton]
        omega
      | cons last row =>
        -- the failure before came less than a ban ago, so its row has been counted
        obtain ⟨_, inARow⟩ := isChain_cons_cons.mp inARow
        obtain ⟨rest, isLog⟩ := isRest
        obtain ⟨_, rfl, -, rows⟩ := counted.rows last (by rw [← isLog]; rfl) (by omega)
        have counts := rows (last :: row) ⟨rest, isLog⟩ inARow
        rw [length_cons, elim_some]
        omega

theorem Counted.leaves (counted : Counted settings clock record log) (forwards : clock ≤ now)
    (leaves : Leaves settings now record log after logAfter) :
    Counted settings now after logAfter := by
  cases leaves with
  | kept =>
    refine ⟨counted.nonneg, ?_⟩
    intro last isLast _
    exact counted.rows last isLast (by omega)
  | expired _ _ isOld isOver isAfter =>
    constructor
    · intro _ isCurrent
      rcases isAfter with rfl | rfl
      · cases isCurrent
      · cases isCurrent
        exact Int.le_refl 0
    · intro last isLast _
      obtain ⟨_, isCurrent, rfl, -⟩ := counted.rows last isLast (by omega)
      rw [isOld, some.injEq] at isCurrent
      rw [isCurrent] at isOver
      omega
  | failed => exact counted.failed forwards

end Counted

theorem counted_step {event : PolicyCall × Int} (named : ip ≠ "") (isIP : parseIP ip = true)
    (counted : Counted settings system.clock (system.policy.records ip) (system.failures ip))
    (allowed : LeavesBan settings ip system event)
    (stepEq : step settings parseIP system event = some next) :
    Counted settings next.clock (next.policy.records ip) (next.failures ip) := by
  rw [step] at stepEq
  split_ifs at stepEq with isEarly
  cases stepEq
  exact counted.leaves (Int.not_lt.mp isEarly) (leaves_step named isIP allowed)

/-- In every run in which nobody lifts the ban of an address or, while names are banned for a
shorter time, logs in under the address as a name, an address with enough failures in a row is
banned until the ban is over. -/
theorem ip_ban_holds (settings : LoginPolicySettings) (parseIP : String → Bool) (ip : String)
    (named : ip ≠ "") (isIP : parseIP ip = true) (start : Int)
    (events : List (PolicyCall × Int)) (system : PolicySystem)
    (reaches : Runs.execute (step settings parseIP) (new start) events = some system)
    (allowed : Runs.Meets (step settings parseIP) (LeavesBan settings ip) (new start) events)
    (row : List Int) (isRow : row <+: system.failures ip) (inARow : InARow settings row)
    (often : settings.maxFailTimes ≤ row.length) (positive : 0 < settings.maxFailTimes)
    (now : Int) (forwards : system.clock ≤ now)
    (lasts : ∀ last ∈ (system.failures ip).head?, now - last < settings.ipBanTime) :
    (system.policy.isIPBanned settings ip now).1 = true := by
  have counted : Counted settings system.clock (system.policy.records ip) (system.failures ip) := by
    refine Runs.invariant_of_meets (fun system : PolicySystem =>
        Counted settings system.clock (system.policy.records ip) (system.failures ip))
      (fun _ _ _ => counted_step named isIP) ⟨?_, ?_⟩ allowed reaches
    · nofun
    · nofun
  obtain ⟨last, isLast⟩ : ∃ last, last ∈ (system.failures ip).head? := by
    cases row with
    | nil => simp only [length_nil] at often; omega
    | cons first =>
      obtain ⟨_, isLog⟩ := isRow
      exact ⟨first, by rw [← isLog]; rfl⟩
  have young := lasts last isLast
  obtain ⟨_, isRecord, rfl, rows⟩ := counted.rows last isLast (by omega)
  rw [isIPBanned, isBanned, if_neg named, isRecord]
  dsimp only
  rw [if_neg (Int.not_le.mpr young)]
  split_ifs
  · rfl
  · exact decide_eq_true (Int.le_trans often (rows row isRow inARow))

end PolicySystem

/-! ## Login attempts -/

inductive Authentication
  | succeeded
  | invalid
  | failed
  deriving DecidableEq

/-- The address and the name that failures are recorded for, whether the request gets as far as
the bans, and how its checks end. -/
structure LoginAttempt where
  ip : String
  failureKey : String
  accepted : Bool := true
  captchaFails : Bool := false
  powValid : Bool := false
  authentication : Authentication := .invalid

structure PoWSettings where
  powBits : Int
  forcePoW : Bool
  secureMode : Bool

def sessionLoginPoWRequired (pow : PoWSettings) (ipBanned userBanned : Bool) : Bool :=
  if pow.powBits ≤ 0 then false
  else if pow.forcePoW then true
  else if ¬ pow.secureMode then false
  else ipBanned || userBanned

namespace LoginAttempt

variable (settings : LoginPolicySettings) (pow : PoWSettings)

def ofName (attempt : LoginAttempt) (call : PolicyCall) : List PolicyCall :=
  if attempt.failureKey = "" then [] else [call]

def concludes (attempt : LoginAttempt) : List PolicyCall :=
  match attempt.authentication with
  | .failed => []
  | .invalid =>
      .recordFailure attempt.ip true :: attempt.ofName (.recordFailure attempt.failureKey true)
  | .succeeded => .removeBan attempt.ip :: attempt.ofName (.removeBan attempt.failureKey)

def proceeds (attempt : LoginAttempt) (ipBanned userBanned : Bool) : List PolicyCall :=
  if attempt.captchaFails then [.recordFailure attempt.ip true]
  else if sessionLoginPoWRequired pow ipBanned userBanned then
    if attempt.powValid then attempt.concludes else [.recordFailure attempt.ip true]
  else if ipBanned || userBanned then []
  else attempt.concludes

/-- The calls of `CreateSession`, after the table may have been cleaned. -/
def calls (attempt : LoginAttempt) (policy : LoginPolicy) (now : Int) : List PolicyCall :=
  if ¬ attempt.accepted then []
  else
    let asIP := policy.isIPBanned settings attempt.ip now
    let asName := asIP.2.isUserBanned settings attempt.failureKey now
    .isIPBanned attempt.ip :: (attempt.ofName (.isUserBanned attempt.failureKey) ++
      attempt.proceeds pow asIP.1 (attempt.failureKey ≠ "" && asName.1))

variable {settings pow} {attempt : LoginAttempt} {now : Int} {ip : String} {call : PolicyCall}
  {system : PolicySystem}

theorem eq_of_mem_ofName {other : PolicyCall} (isCall : other ∈ attempt.ofName call) :
    other = call := by
  rw [ofName] at isCall
  split_ifs at isCall
  · cases isCall
  · exact mem_singleton.mp isCall

section

variable (unsuccessful : attempt.authentication ≠ .succeeded)

include unsuccessful

theorem concludes_leaves_ban (isCall : call ∈ attempt.concludes) :
    PolicySystem.LeavesBan settings ip system (call, now) := by
  rw [concludes] at isCall
  cases isEnd : attempt.authentication with
  | succeeded => exact absurd isEnd unsuccessful
  | failed =>
    rw [isEnd] at isCall
    cases isCall
  | invalid =>
    rw [isEnd] at isCall
    rcases mem_cons.mp isCall with rfl | isName
    · trivial
    · rw [eq_of_mem_ofName isName]
      trivial

/-- Attempts that fail, and do not name the address while names are banned for a shorter time,
leave its ban in place. -/
theorem calls_leave_ban {policy : LoginPolicy}
    (apart : attempt.failureKey = ip → settings.ipBanTime ≤ settings.userBanTime)
    (isCall : call ∈ attempt.calls settings pow policy now) :
    PolicySystem.LeavesBan settings ip system (call, now) := by
  rw [calls] at isCall
  split_ifs at isCall
  · rcases mem_cons.mp isCall with rfl | isRest
    · trivial
    · rcases mem_append.mp isRest with isName | isRest
      · rw [eq_of_mem_ofName isName]
        exact apart
      · rw [proceeds] at isRest
        split_ifs at isRest
        · rw [mem_singleton.mp isRest]
          trivial
        · exact concludes_leaves_ban unsuccessful isRest
        · rw [mem_singleton.mp isRest]
          trivial
        · cases isRest
        · exact concludes_leaves_ban unsuccessful isRest
  · cases isCall

end

/-- The calls of attempts in turn, each with its time. -/
def callsInTurn (settings : LoginPolicySettings) (pow : PoWSettings) (parseIP : String → Bool) :
    PolicySystem → List (LoginAttempt × Int) → List (PolicyCall × Int)
  | _, [] => []
  | system, (attempt, now) :: attempts =>
      let events := (attempt.calls settings pow system.policy now).map (·, now)
      match Runs.execute (PolicySystem.step settings parseIP) system events with
      | none => events
      | some next => events ++ callsInTurn settings pow parseIP next attempts

end LoginAttempt

namespace PolicySystem

def shortNames : LoginPolicySettings where
  banTime := 1
  ipBanTime := 100
  userBanTime := 10
  maxFailTimes := 2

def noPoW : PoWSettings where
  powBits := 0
  forcePoW := false
  secureMode := false

/-- Two attempts with a wrong password, and a third one while the address is banned,
with the name that is given. -/
def threeAttempts (name : String) : List (PolicyCall × Int) :=
  LoginAttempt.callsInTurn shortNames noPoW (· == "10.0.0.1") (new 0)
    [({ ip := "10.0.0.1", failureKey := "admin" }, 0),
      ({ ip := "10.0.0.1", failureKey := "admin" }, 5),
      ({ ip := "10.0.0.1", failureKey := name }, 20)]

/-- The address is still banned after an attempt with another name. -/
theorem ip_ban_holds_other_name :
    ∃ system, Runs.execute (step shortNames (· == "10.0.0.1")) (new 0) (threeAttempts "root") =
        some system ∧
      system.failures "10.0.0.1" = [5, 0] ∧
      (system.policy.isIPBanned shortNames "10.0.0.1" 104).1 = true := by
  obtain ⟨system, reaches, isClock, isLog⟩ :
      ∃ system, Runs.execute (step shortNames (· == "10.0.0.1")) (new 0) (threeAttempts "root") =
          some system ∧ system.clock = 20 ∧ system.failures "10.0.0.1" = [5, 0] :=
    Runs.exists_of_any (by decide +kernel)
  refine ⟨system, reaches, isLog, ?_⟩
  refine ip_ban_holds shortNames (· == "10.0.0.1") "10.0.0.1" (by decide) rfl 0
    (threeAttempts "root") system reaches (by decide +kernel) [5, 0] ?_ ?_ (by decide) (by decide)
    104 (by rw [isClock]; decide) ?_
  · exact isLog.symm ▸ prefix_rfl
  · exact isChain_cons_cons.mpr ⟨by decide, List.IsChain.singleton _⟩
  · rw [isLog]
    rintro _ ⟨⟩
    decide

/-- An attempt with the address as its name ends the ban. -/
theorem ip_ban_lifted_by_name :
    ∃ system, Runs.execute (step shortNames (· == "10.0.0.1")) (new 0) (threeAttempts "10.0.0.1") =
        some system ∧
      system.clock = 20 ∧ system.failures "10.0.0.1" = [5, 0] ∧
      (system.policy.isIPBanned shortNames "10.0.0.1" 21).1 = false := by
  exact Runs.exists_of_any (by decide +kernel)

end PolicySystem

end DeepNps.Login
