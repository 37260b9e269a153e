import DeepNps.BestChoice
import DeepNps.LabelledRuns
import DeepNps.Table
import Mathlib.Algebra.Ring.Int.Defs
import Mathlib.Data.String.Basic

/-!
# The candidate pairs of a P2P session

A `CandidateManager` keeps the pairs of addresses over which a session has seen packets.
A time is the number of nanoseconds since the zero time.
-/

namespace DeepNps.P2P

open List

inductive CandidateState
  | discovered
  | succeeded
  | nominated
  | confirmed
  | closed
  deriving DecidableEq

structure CandidatePriority where
  score : Int
  reason : String
  deriving DecidableEq

structure CandidatePair where
  localAddr : String
  remoteAddr : String
  state : CandidateState
  firstSeenAt : Int
  lastSeenAt : Int
  succeededAt : Int
  nominated : Bool
  confirmed : Bool
  successCount : Nat
  score : Int
  scoreReason : String
  nominationFailures : Nat
  nominationCooldownUntil : Int
  deriving DecidableEq

def candidateKey (localAddr remoteAddr : String) : String := localAddr ++ "->" ++ remoteAddr

@[simp]
theorem candidateKey_ne_empty {localAddr remoteAddr : String} :
    candidateKey localAddr remoteAddr ≠ "" := by
  simp [candidateKey]

namespace CandidatePair

def key (pair : CandidatePair) : String := candidateKey pair.localAddr pair.remoteAddr

end CandidatePair

def newCandidatePair (localAddr remoteAddr : String) (now : Int) : CandidatePair where
  localAddr := localAddr
  remoteAddr := remoteAddr
  state := .discovered
  firstSeenAt := now
  lastSeenAt := now
  succeededAt := 0
  nominated := false
  confirmed := false
  successCount := 0
  score := 0
  scoreReason := ""
  nominationFailures := 0
  nominationCooldownUntil := 0

def applyCandidatePriority (pair : CandidatePair) (priority : CandidatePriority) : CandidatePair :=
  if pair.score < priority.score then
    { pair with score := priority.score, scoreReason := priority.reason }
  else if priority.score = pair.score ∧ pair.scoreReason = "" then
    { pair with scoreReason := priority.reason }
  else pair

def reopenClosedCandidate (pair : CandidatePair) : CandidatePair :=
  { pair with
    state := .discovered
    nominated := false
    confirmed := false
    succeededAt := 0
    successCount := 0
    score := 0
    scoreReason := ""
    nominationFailures := 0
    nominationCooldownUntil := 0 }

def revertNominatedPair (pair : CandidatePair) : CandidatePair :=
  { pair with
    nominated := false
    state := if 0 < pair.successCount then .succeeded else .discovered }

/-- `betterCandidateForNomination` for a pair that is there already. -/
def betterCandidateForNomination (pair best : CandidatePair) : Bool :=
  if pair.score ≠ best.score then best.score < pair.score
  else if pair.successCount ≠ best.successCount then best.successCount < pair.successCount
  else if pair.nominationFailures ≠ best.nominationFailures then
    pair.nominationFailures < best.nominationFailures
  else if pair.succeededAt ≠ best.succeededAt then
    if pair.succeededAt = 0 then false
    else if best.succeededAt = 0 then true
    else pair.succeededAt < best.succeededAt
  else if pair.firstSeenAt ≠ best.firstSeenAt then pair.firstSeenAt < best.firstSeenAt
  else if pair.localAddr ≠ best.localAddr then pair.localAddr < best.localAddr
  else pair.remoteAddr < best.remoteAddr

/-- `Time.Sub`, which stops at the largest and the smallest duration. -/
def elapsed (now earlier : Int) : Int := max (-2 ^ 63) (min (2 ^ 63 - 1) (now - earlier))

namespace CandidatePair

def seenAt (pair : CandidatePair) (now : Int) : CandidatePair := { pair with lastSeenAt := now }

def markNominated (pair : CandidatePair) : CandidatePair :=
  { pair with state := .nominated, nominated := true }

def markConfirmed (pair : CandidatePair) : CandidatePair :=
  { pair with state := .confirmed, nominated := false, confirmed := true }

/-- A success of a pair that is not closed. -/
def countSuccess (pair : CandidatePair) (now : Int) : CandidatePair :=
  { pair with
    state := .succeeded
    succeededAt := if pair.succeededAt = 0 then now else pair.succeededAt
    successCount := pair.successCount + 1 }

/-- A success of a closed pair, which starts anew with it. -/
def restartSucceeded (pair : CandidatePair) (now : Int) : CandidatePair :=
  { pair with
    nominated := false
    confirmed := false
    state := .succeeded
    succeededAt := now
    successCount := 1
    nominationFailures := 0
    nominationCooldownUntil := 0 }

def backOff (pair : CandidatePair) (now cooldown : Int) : CandidatePair :=
  { pair with
    lastSeenAt := now
    nominated := false
    nominationFailures := pair.nominationFailures + 1
    nominationCooldownUntil := if 0 < cooldown then now + cooldown else pair.nominationCooldownUntil
    state := if 0 < pair.successCount then .succeeded else .discovered }

def isStale (pair : CandidatePair) (now maxAge : Int) : Bool :=
  let lastSeen := if pair.lastSeenAt = 0 then pair.firstSeenAt else pair.lastSeenAt
  !(lastSeen = 0 || elapsed now lastSeen ≤ maxAge)

/-- The pairs that `TryNominateBest` chooses from. -/
def canBeNominated (pair : CandidatePair) (now : Int) : Bool :=
  !(pair.confirmed || pair.state = .closed) &&
    !(pair.state ≠ .succeeded || pair.successCount = 0) &&
    !(pair.nominationCooldownUntil ≠ 0 && now < pair.nominationCooldownUntil)

end CandidatePair

structure CandidateManager where
  candidates : Table CandidatePair.key
  nominatedKey : String
  confirmedKey : String
  candidateRemote : String
  confirmedRemote : String

def newCandidateManager (rendezvousRemote : String) : CandidateManager where
  candidates := Table.empty
  nominatedKey := ""
  confirmedKey := ""
  candidateRemote := rendezvousRemote
  confirmedRemote := ""

namespace CandidateManager

def put (manager : CandidateManager) (pair : CandidatePair) : CandidateManager :=
  { manager with candidates := manager.candidates.store pair }

def updateCandidateRemoteLocked (manager : CandidateManager) (remoteAddr : String) :
    CandidateManager :=
  if manager.confirmedRemote = "" ∨ manager.confirmedRemote = remoteAddr then
    { manager with candidateRemote := remoteAddr }
  else manager

/-- The pair that is kept for two addresses, or a new one. -/
def pairAt (manager : CandidateManager) (now : Int) (localAddr remoteAddr : String) :
    CandidatePair :=
  (manager.candidates.get (candidateKey localAddr remoteAddr)).getD
    (newCandidatePair localAddr remoteAddr now)

def observe (manager : CandidateManager) (now : Int) (localAddr remoteAddr : String)
    (priority : CandidatePriority) : CandidatePair × CandidateManager :=
  match manager.candidates.get (candidateKey localAddr remoteAddr) with
  | some pair =>
      let pair :=
        if pair.state = .closed ∧ manager.confirmedKey = "" then reopenClosedCandidate pair
        else pair
      let pair := applyCandidatePriority (pair.seenAt now) priority
      (pair, manager.put pair)
  | none =>
      let pair := applyCandidatePriority (newCandidatePair localAddr remoteAddr now) priority
      (pair, (manager.put pair).updateCandidateRemoteLocked remoteAddr)

/-- The part of `MarkSucceededWithPriority` after the lookup of the pair. -/
def succeed (manager : CandidateManager) (now : Int) (remoteAddr : String)
    (pair : CandidatePair) : CandidatePair × CandidateManager :=
  if pair.confirmed = true ∨ manager.confirmedKey = pair.key then
    let pair := { pair with state := .confirmed }
    (pair, manager.put pair)
  else if pair.state = .closed then
    if manager.confirmedKey = "" then
      let pair := pair.restartSucceeded now
      (pair, (manager.put pair).updateCandidateRemoteLocked remoteAddr)
    else (pair, manager.put pair)
  else
    let pair := pair.countSuccess now
    (pair, (manager.put pair).updateCandidateRemoteLocked remoteAddr)

def markSucceededWithPriority (manager : CandidateManager) (now : Int)
    (localAddr remoteAddr : String) (priority : CandidatePriority) :
    CandidatePair × CandidateManager :=
  manager.succeed now remoteAddr
    (applyCandidatePriority ((manager.pairAt now localAddr remoteAddr).seenAt now) priority)

def setNominatedKey (manager : CandidateManager) (key : String) : CandidateManager :=
  { manager with nominatedKey := key }

def nominate (manager : CandidateManager) (pair : CandidatePair) (remoteAddr : String) :
    CandidatePair × CandidateManager :=
  let pair := pair.markNominated
  (pair, ((manager.put pair).setNominatedKey pair.key).updateCandidateRemoteLocked remoteAddr)

def tryNominate (manager : CandidateManager) (now : Int) (localAddr remoteAddr : String) :
    Option CandidatePair × Bool × CandidateManager :=
  match manager.candidates.get (candidateKey localAddr remoteAddr) with
  | none => (none, false, manager)
  | some pair =>
      let pair := pair.seenAt now
      if manager.nominatedKey ≠ "" then (some pair, false, manager.put pair)
      else
        let (pair, manager) := manager.nominate pair remoteAddr
        (some pair, true, manager)

def revertNomination (manager : CandidateManager) : CandidateManager :=
  match manager.candidates.get manager.nominatedKey with
  | none => manager
  | some previous => manager.put (revertNominatedPair previous)

/-- The part of `AdoptNomination` after the lookup of the pair. -/
def adopt (manager : CandidateManager) (remoteAddr : String) (pair : CandidatePair) :
    CandidatePair × Bool × CandidateManager :=
  let manager := manager.put pair
  if pair.confirmed = true ∨ manager.confirmedKey = pair.key then (pair, false, manager)
  else if manager.confirmedKey ≠ "" ∧ manager.confirmedKey ≠ pair.key then (pair, false, manager)
  else if manager.nominatedKey = pair.key then
    let pair := pair.markNominated
    (pair, true, manager.put pair)
  else
    let manager := if manager.nominatedKey ≠ "" then manager.revertNomination else manager
    let (pair, manager) := manager.nominate pair remoteAddr
    (pair, true, manager)

def adoptNomination (manager : CandidateManager) (now : Int) (localAddr remoteAddr : String) :
    CandidatePair × Bool × CandidateManager :=
  manager.adopt remoteAddr ((manager.pairAt now localAddr remoteAddr).seenAt now)

/-- The pairs are visited in the order of the table, on which the choice does not depend. -/
def tryNominateBest (manager : CandidateManager) (now : Int) :
    Option CandidatePair × Bool × CandidateManager :=
  if manager.nominatedKey ≠ "" then
    (manager.candidates.get manager.nominatedKey, false, manager)
  else
    match BestChoice.choose betterCandidateForNomination
        (manager.candidates.records.filter fun pair => pair.canBeNominated now) with
    | none => (none, false, manager)
    | some best =>
        let (pair, manager) := manager.nominate (best.seenAt now) best.remoteAddr
        (some pair, true, manager)

/-- What confirming the pair at a key does to a pair. -/
def closeOther (key : String) (other : CandidatePair) : CandidatePair :=
  if other.key = key ∨ other.confirmed = true then other
  else { other with state := .closed, nominated := false }

theorem key_closeOther {key : String} (other : CandidatePair) :
    (closeOther key other).key = other.key := by
  rw [closeOther]
  split_ifs <;> rfl

/-- The pair is the confirmed one, and the others are closed. -/
def settle (manager : CandidateManager) (pair : CandidatePair) (remoteAddr : String) :
    CandidateManager where
  candidates := (manager.candidates.store pair).modify (closeOther pair.key) key_closeOther
  nominatedKey := ""
  confirmedKey := pair.key
  candidateRemote := remoteAddr
  confirmedRemote := remoteAddr

def confirm (manager : CandidateManager) (now : Int) (localAddr remoteAddr : String) :
    Option CandidatePair × CandidateManager :=
  let key := candidateKey localAddr remoteAddr
  match manager.candidates.get key with
  | none => (none, manager)
  | some pair =>
      if pair.confirmed = true ∨ manager.confirmedKey = key then (none, manager)
      else if manager.nominatedKey = "" ∨ manager.nominatedKey ≠ key then (none, manager)
      else if manager.confirmedKey ≠ "" ∧ manager.confirmedKey ≠ key then (none, manager)
      else
        let pair := (pair.seenAt now).markConfirmed
        (some pair, manager.settle pair remoteAddr)

/-- The guard that `BackoffNomination` and `ReleaseNomination` share, and what they do with
the nominated pair. -/
def withdraw (manager : CandidateManager) (localAddr remoteAddr : String)
    (change : CandidatePair → CandidatePair) : Option CandidatePair × CandidateManager :=
  let key := candidateKey localAddr remoteAddr
  if manager.nominatedKey = "" ∨ manager.nominatedKey ≠ key ∨ manager.confirmedKey ≠ "" then
    (none, manager)
  else
    match manager.candidates.get key with
    | none => (none, manager.setNominatedKey "")
    | some pair =>
        let pair := change pair
        (some pair, (manager.put pair).setNominatedKey "")

def backoffNomination (manager : CandidateManager) (now : Int) (localAddr remoteAddr : String)
    (cooldown : Int) : Option CandidatePair × CandidateManager :=
  manager.withdraw localAddr remoteAddr fun pair => pair.backOff now cooldown

def releaseNomination (manager : CandidateManager) (now : Int)
    (localAddr remoteAddr : String) : Option CandidatePair × CandidateManager :=
  manager.withdraw localAddr remoteAddr fun pair => revertNominatedPair (pair.seenAt now)

def prunes (now maxAge : Int) (pair : CandidatePair) : Bool :=
  !(pair.confirmed || pair.nominated || pair.state = .closed) && pair.isStale now maxAge

def prunePair (now maxAge : Int) (pair : CandidatePair) : CandidatePair :=
  if prunes now maxAge pair then { pair with state := .closed, lastSeenAt := now } else pair

theorem key_prunePair {now maxAge : Int} (pair : CandidatePair) :
    (prunePair now maxAge pair).key = pair.key := by
  rw [prunePair]
  split_ifs <;> rfl

def pruneStale (manager : CandidateManager) (now maxAge : Int) : Nat × CandidateManager :=
  if maxAge ≤ 0 then (0, manager)
  else
    (manager.candidates.records.countP (prunes now maxAge),
      { manager with
        candidates := manager.candidates.modify (prunePair now maxAge) key_prunePair })

def cleans (now maxAge : Int) (pair : CandidatePair) : Bool :=
  !(pair.state ≠ .closed || pair.confirmed) && pair.isStale now maxAge

def cleanupClosed (manager : CandidateManager) (now maxAge : Int) : Nat × CandidateManager :=
  if maxAge ≤ 0 then (0, manager)
  else
    (manager.candidates.records.countP (cleans now maxAge),
      { manager with
        candidates := manager.candidates.filter fun pair => !cleans now maxAge pair })

/-- What `betterCandidateForNomination` compares, in the order in which it does. -/
def nominationRank (pair : CandidatePair) :
    Int ×ₗ Nat ×ₗ Natᵒᵈ ×ₗ (Bool ×ₗ Intᵒᵈ) ×ₗ Intᵒᵈ ×ₗ Stringᵒᵈ ×ₗ Stringᵒᵈ :=
  toLex (pair.score, toLex (pair.successCount, toLex (OrderDual.toDual pair.nominationFailures,
    toLex (toLex (decide (pair.succeededAt ≠ 0), OrderDual.toDual pair.succeededAt),
      toLex (OrderDual.toDual pair.firstSeenAt,
        toLex (OrderDual.toDual pair.localAddr, OrderDual.toDual pair.remoteAddr))))))

theorem betterCandidateForNomination_iff {pair best : CandidatePair} :
    betterCandidateForNomination pair best = true ↔ nominationRank best < nominationRank pair := by
  rw [betterCandidateForNomination, nominationRank, nominationRank]
  simp only [BestChoice.toLex_lt_iff, OrderDual.toDual_lt_toDual, ne_eq, OrderDual.toDual_inj,
    toLex_inj, Prod.mk.injEq]
  split_ifs <;> simp_all

theorem key_eq_of_nominationRank_eq {pair best : CandidatePair}
    (sameRank : nominationRank pair = nominationRank best) : pair.key = best.key := by
  simp only [nominationRank, toLex_inj, Prod.mk.injEq, OrderDual.toDual_inj] at sameRank
  obtain ⟨-, -, -, -, -, sameLocal, sameRemote⟩ := sameRank
  rw [CandidatePair.key, CandidatePair.key, sameLocal, sameRemote]

theorem nominationRanked :
    BestChoice.Ranked betterCandidateForNomination nominationRank fun _ => True := by
  constructor
  · intro _ _ _ _ beats
    exact le_of_lt (betterCandidateForNomination_iff.mp beats)
  · intro _ _ _ _ unbeaten
    apply le_of_not_gt
    intro less
    rw [betterCandidateForNomination_iff.mpr less] at unbeaten
    cases unbeaten

def nominatedPair (manager : CandidateManager) : Option CandidatePair :=
  if manager.nominatedKey = "" then none else manager.candidates.get manager.nominatedKey

/-- The loop of `TryNominateBest` over the pairs in the order in which the map gives them. -/
def bestOf (visited : List CandidatePair) (now : Int) : Option CandidatePair :=
  BestChoice.choose betterCandidateForNomination
    (visited.filter fun pair => pair.canBeNominated now)

section Nomination

variable {manager : CandidateManager} {now : Int} {pair other best : CandidatePair}

theorem canBeNominated_iff : pair.canBeNominated now = true ↔
    pair.confirmed = false ∧ pair.state = .succeeded ∧ 0 < pair.successCount ∧
      (pair.nominationCooldownUntil = 0 ∨ pair.nominationCooldownUntil ≤ now) := by
  rw [CandidatePair.canBeNominated]
  cases pair.state <;> simp [Nat.pos_iff_ne_zero, and_assoc, or_iff_not_imp_left]

theorem betterCandidateForNomination_total (isPair : pair ∈ manager.candidates.records)
    (isOther : other ∈ manager.candidates.records) (differs : pair ≠ other) :
    betterCandidateForNomination pair other = true ∨
      betterCandidateForNomination other pair = true := by
  rw [betterCandidateForNomination_iff, betterCandidateForNomination_iff, or_comm]
  apply lt_or_gt_of_ne
  intro sameRank
  exact differs (Table.eq_of_key_eq isPair isOther (key_eq_of_nominationRank_eq sameRank))

/-- The best of the pairs that `TryNominateBest` may choose. -/
structure IsBest (manager : CandidateManager) (now : Int) (best : CandidatePair) : Prop where
  isPair : best ∈ manager.candidates.records
  eligible : best.canBeNominated now = true
  better : ∀ pair ∈ manager.candidates.records, pair.canBeNominated now = true → pair ≠ best →
    betterCandidateForNomination best pair = true

theorem bestOf_eq_none_iff : bestOf manager.candidates.records now = none ↔
    ∀ pair ∈ manager.candidates.records, ¬ pair.canBeNominated now = true := by
  rw [bestOf, BestChoice.choose_eq_none_iff, filter_eq_nil_iff]

theorem isBest_of_bestOf (chosen : bestOf manager.candidates.records now = some best) :
    manager.IsBest now best := by
  have isMember := BestChoice.mem_of_choose chosen
  obtain ⟨isPair, eligible⟩ := mem_filter.mp isMember
  obtain ⟨highest, -, highestEq, isHighest⟩ :=
    nominationRanked.choose_spec (fun _ _ => trivial) (ne_nil_of_mem isMember)
  obtain rfl := Option.some.inj (chosen.symm.trans highestEq)
  refine ⟨isPair, eligible, fun pair isOther otherEligible differs => ?_⟩
  refine (betterCandidateForNomination_total isPair isOther differs.symm).resolve_right ?_
  rw [betterCandidateForNomination_iff]
  exact not_lt_of_ge (isHighest pair (mem_filter.mpr ⟨isOther, otherEligible⟩))

theorem IsBest.eq (isBest : manager.IsBest now best) (isOther : manager.IsBest now other) :
    other = best := by
  by_contra differs
  have below := isBest.better other isOther.isPair isOther.eligible differs
  have above := isOther.better best isBest.isPair isBest.eligible (Ne.symm differs)
  rw [betterCandidateForNomination_iff] at below above
  exact lt_asymm below above

theorem bestOf_eq_some_iff :
    bestOf manager.candidates.records now = some best ↔ manager.IsBest now best := by
  refine ⟨isBest_of_bestOf, fun isBest => ?_⟩
  cases chosen : bestOf manager.candidates.records now with
  | none => exact absurd isBest.eligible (bestOf_eq_none_iff.mp chosen best isBest.isPair)
  | some => rw [isBest.eq (isBest_of_bestOf chosen)]

/-- `TryNominateBest` chooses the maximum of a strict total order of the pairs it may choose from,
among which no pair with the confirmed flag is. -/
theorem tryNominateBest_chooses_maximum (noneNominated : manager.nominatedKey = "") :
    ((∀ pair, betterCandidateForNomination pair pair = false) ∧
      (∀ first second third, betterCandidateForNomination first second = true →
        betterCandidateForNomination second third = true →
        betterCandidateForNomination first third = true) ∧
      ∀ pair ∈ manager.candidates.records, ∀ other ∈ manager.candidates.records, pair ≠ other →
        betterCandidateForNomination pair other = true ∨
          betterCandidateForNomination other pair = true) ∧
    (∀ visited : List CandidatePair, visited.Perm manager.candidates.records →
      ∀ best, bestOf visited now = some best ↔ manager.IsBest now best) ∧
    (∀ best, manager.IsBest now best →
      (manager.tryNominateBest now).1 = some (best.seenAt now).markNominated ∧
      (manager.tryNominateBest now).2.2.nominatedKey = best.key) ∧
    ((manager.tryNominateBest now).1 = none ↔ ∀ pair ∈ manager.candidates.records,
      ¬ (pair.confirmed = false ∧ pair.state = .succeeded ∧ 0 < pair.successCount ∧
        (pair.nominationCooldownUntil = 0 ∨ pair.nominationCooldownUntil ≤ now))) := by
  have nominates : manager.tryNominateBest now =
      match bestOf manager.candidates.records now with
      | none => (none, false, manager)
      | some best => (some (best.seenAt now).markNominated, true,
          (manager.nominate (best.seenAt now) best.remoteAddr).2) :=
    if_neg (not_not.mpr noneNominated)
  simp only [betterCandidateForNomination_iff, ← canBeNominated_iff, nominates]
  refine ⟨⟨?_, ?_, ?_⟩, ?_, ?_, ?_⟩
  · intro pair
    rw [Bool.eq_false_iff, ne_eq, betterCandidateForNomination_iff]
    exact lt_irrefl _
  · exact fun _ _ _ first second => second.trans first
  · intro _ isPair _ isOther differs
    simpa only [betterCandidateForNomination_iff] using
      betterCandidateForNomination_total isPair isOther differs
  · intro visited isPerm best
    have same : bestOf manager.candidates.records now = bestOf visited now := by
      apply nominationRanked.choose_eq
      · exact fun _ _ => trivial
      · intro _ isItem _ isOther _ sameRank
        exact Table.eq_of_key_eq (mem_filter.mp isItem).1 (mem_filter.mp isOther).1
          (key_eq_of_nominationRank_eq sameRank)
      · intro _
        rw [mem_filter, mem_filter, isPerm.mem_iff]
    rw [← bestOf_eq_some_iff, same]
  · intro best isBest
    rw [bestOf_eq_some_iff.mpr isBest]
    refine ⟨rfl, ?_⟩
    dsimp only [nominate, updateCandidateRemoteLocked]
    split_ifs <;> rfl
  · rw [← bestOf_eq_none_iff]
    cases bestOf manager.candidates.records now <;> simp

end Nomination

theorem tryNominateBest_chooses_maximum_pair : ∃ manager : CandidateManager,
    manager.nominatedKey = "" ∧ (manager.tryNominateBest 5).1 ≠ none :=
  let pair := (newCandidatePair "a:1" "b:1" 1).countSuccess 2
  let manager := (newCandidateManager "b:1").put pair
  ⟨manager, rfl, fun isNone => (@tryNominateBest_chooses_maximum manager 5 rfl).2.2.2.mp isNone
    pair (by decide +kernel) (by decide +kernel)⟩

/-- A pair with the confirmed flag and the state of a success is passed over. -/
theorem tryNominateBest_passes_over_confirmed :
    ∃ (manager : CandidateManager) (pair : CandidatePair), manager.nominatedKey = "" ∧
      manager.candidates.records = [pair] ∧ pair.state = .succeeded ∧ pair.successCount = 1 ∧
      pair.nominationCooldownUntil = 0 ∧ (manager.tryNominateBest 5).1 = none :=
  let pair := { newCandidatePair "a:1" "b:1" 1 with
    state := .succeeded, successCount := 1, confirmed := true }
  ⟨(newCandidateManager "b:1").put pair, pair, rfl, by decide +kernel, rfl, rfl, rfl,
    by decide +kernel⟩

def hasConfirmed (manager : CandidateManager) : Bool := manager.confirmedKey ≠ ""

end CandidateManager

end DeepNps.P2P
