import Mathlib.Data.Int.GCD
import Mathlib.Data.List.Induction
import Mathlib.Data.List.Nodup
import Mathlib.Data.List.Perm.Subperm
import Mathlib.Tactic.LinearCombination

/-!
# The ports of a target spray

Each loop of `BuildTargetSprayPortsMulti` ends only when there are ports enough.  The
second one comes to every port; what the first one comes to depends on the intervals, whose
multiples wrap around.
-/

namespace DeepNps.P2P

open List Nat

def defaultPredictionInterval : Int := 1

def int (value : Int) : Int := value.bmod (2 ^ 64)

/-- `appendPort`; the map `seen` has the ports. -/
def appendPort (span : Nat) (ports : List Int) (port : Int) : List Int :=
  if span ≤ ports.length ∨ port < 1 ∨ 65535 < port ∨ port ∈ ports then ports
  else ports ++ [port]

def sprayRound (basePort : Int) (span step : Nat) : List Int → List Int → List Int
  | [], ports => ports
  | interval :: intervals, ports =>
      if interval ≤ 0 then sprayRound basePort span step intervals ports
      else
        let ports := appendPort span (appendPort span ports (int (basePort + step * interval)))
          (int (basePort - step * interval))
        if span / 2 ≤ ports.length then ports
        else sprayRound basePort span step intervals ports

/-- The loop ends when there are `bound` ports; no result if that takes more than `fuel` turns. -/
def collectPorts (bound : Nat) (turn : Nat → List Int → List Int) :
    (fuel step : Nat) → List Int → Option (List Int)
  | 0, _, ports => if bound ≤ ports.length then some ports else none
  | fuel + 1, step, ports =>
      if bound ≤ ports.length then some ports
      else collectPorts bound turn fuel (step + 1) (turn step ports)

def buildTargetSprayPortsMulti (fuel : Nat) (basePort : Int) (intervals : List Int) (span : Nat) :
    Option (List Int) :=
  if span = 0 ∨ basePort ≤ 0 then some []
  else
    let intervals := if intervals = [] then [defaultPredictionInterval] else intervals
    (collectPorts (span / 2) (fun step => sprayRound basePort span step intervals) fuel 1
      (appendPort span [] basePort)).bind
      (collectPorts span (fun delta ports =>
        appendPort span (appendPort span ports (int (basePort - delta))) (int (basePort + delta)))
        fuel 1)

structure SprayPorts (basePort : Int) (span : Nat) (ports : List Int) : Prop where
  nodup : ports.Nodup
  inRange : ∀ port ∈ ports, 1 ≤ port ∧ port ≤ 65535
  first : ports.head? = some basePort
  length : ports.length ≤ span

/-- Ports that a loop has added to others: only those that it was offered, and all of them unless
there are enough. -/
structure Adds (basePort : Int) (span bound : Nat) (ports after : List Int)
    (offered : Int → Prop) : Prop where
  sprays : SprayPorts basePort span ports → SprayPorts basePort span after
  subset : ports ⊆ after
  length : ports.length ≤ after.length
  origin : ∀ port ∈ after, port ∈ ports ∨ offered port
  mem : after.length < bound → ∀ port, offered port → 1 ≤ port → port ≤ 65535 → port ∈ after

variable {basePort : Int} {span bound : Nat} {ports intervals : List Int}

theorem SprayPorts.appendPort (sprays : SprayPorts basePort span ports) (port : Int) :
    SprayPorts basePort span (appendPort span ports port) := by
  rw [P2P.appendPort]
  split_ifs with isRefused
  · exact sprays
  · obtain ⟨nodup, inRange, first, length⟩ := sprays
    constructor
    · grind [nodup_append]
    · grind
    · rw [head?_append, first, Option.some_or]
    · grind

theorem adds_appendPort (small : bound ≤ span) (value : Int) :
    Adds basePort span bound ports (appendPort span ports value) (· = value) := by
  constructor
  · exact fun sprays => sprays.appendPort _
  · grind [appendPort]
  · grind [appendPort]
  · grind [appendPort]
  · grind [appendPort]

theorem Adds.trans {after last : List Int} {first second : Int → Prop}
    (adds : Adds basePort span bound ports after first)
    (more : Adds basePort span bound after last second) :
    Adds basePort span bound ports last fun port => first port ∨ second port := by
  constructor
  · exact fun sprays => more.sprays (adds.sprays sprays)
  · exact List.Subset.trans adds.subset more.subset
  · exact le_trans adds.length more.length
  · intro port isLast
    rcases more.origin port isLast with isAfter | isSecond
    · exact (adds.origin port isAfter).imp_right .inl
    · exact .inr (.inr isSecond)
  · rintro isShort port (isFirst | isSecond) isPositive isLow
    · have := more.length
      exact more.subset (adds.mem (by omega) port isFirst isPositive isLow)
    · exact more.mem isShort port isSecond isPositive isLow

theorem adds_sprayRound (step : Nat) (ports : List Int) :
    Adds basePort span (span / 2) ports (sprayRound basePort span step intervals ports)
      (fun port => ∃ interval ∈ intervals, 0 < interval ∧
        (port = int (basePort + step * interval) ∨ port = int (basePort - step * interval))) := by
  induction intervals generalizing ports with
  | nil => constructor <;> simp [sprayRound]
  | cons interval intervals ih =>
    have pair : Adds basePort span (span / 2) ports _ _ :=
      (adds_appendPort (div_le_self span 2) (int (basePort + step * interval))).trans
        (adds_appendPort (div_le_self span 2) (int (basePort - step * interval)))
    rw [sprayRound]
    split_ifs
    · obtain ⟨sprays, subset, length, origin, mem⟩ := ih ports
      constructor <;> grind
    · dsimp only
      split_ifs
      · obtain ⟨sprays, subset, length, origin, mem⟩ := pair
        constructor <;> grind
      · obtain ⟨sprays, subset, length, origin, mem⟩ := pair.trans (ih _)
        constructor <;> grind

/-- A loop that is offered enough ports ends. -/
theorem collectPorts_eq {turn : Nat → List Int → List Int} {offered : Nat → Int → Prop}
    (adds : ∀ step ports, Adds basePort span bound ports (turn step ports) (offered step))
    (sprays : SprayPorts basePort span ports) (fuel step : Nat) (reached : List Int)
    (nodup : reached.Nodup) (enough : bound ≤ reached.length)
    (inRange : ∀ port ∈ reached, 1 ≤ port ∧ port ≤ 65535)
    (comes : ports.length < bound → ∀ port ∈ reached,
      port ∈ ports ∨ ∃ later < fuel, offered (step + later) port) :
    ∃ result, collectPorts bound turn fuel step ports = some result ∧
      SprayPorts basePort span result ∧ bound ≤ result.length := by
  induction fuel generalizing step ports with
  | zero =>
    have isDone : bound ≤ ports.length := by
      by_contra isShort
      have isSubset : reached ⊆ ports := by
        intro port isReached
        simpa using comes (by omega) port isReached
      have := (subperm_of_subset nodup isSubset).length_le
      omega
    exact ⟨ports, if_pos isDone, sprays, isDone⟩
  | succ fuel ih =>
    rw [collectPorts]
    split_ifs with isDone
    · exact ⟨ports, rfl, sprays, isDone⟩
    · apply ih ((adds step ports).sprays sprays)
      intro isShort port isReached
      obtain ⟨isPositive, isLow⟩ := inRange port isReached
      rcases comes (by omega) port isReached with isIn | ⟨later, isLess, isOffered⟩
      · exact .inl ((adds step ports).subset isIn)
      · cases later with
        | zero => exact .inl ((adds step ports).mem isShort port isOffered isPositive isLow)
        | succ later => exact .inr ⟨later, by omega, by rwa [Nat.add_right_comm]⟩

/-- A loop that has ended has its ports from where it began and from what it was offered. -/
theorem of_collectPorts {turn : Nat → List Int → List Int} {offered : Nat → Int → Prop}
    (adds : ∀ step ports, Adds basePort span bound ports (turn step ports) (offered step))
    (sprays : SprayPorts basePort span ports) (fuel step : Nat) {result : List Int}
    (isResult : collectPorts bound turn fuel step ports = some result) :
    SprayPorts basePort span result ∧ bound ≤ result.length ∧
      ∀ port ∈ result, port ∈ ports ∨ ∃ turn, offered turn port := by
  induction fuel generalizing step ports with
  | zero =>
    rw [collectPorts] at isResult
    split_ifs at isResult with isDone
    cases isResult
    exact ⟨sprays, isDone, fun _ isPort => .inl isPort⟩
  | succ fuel ih =>
    rw [collectPorts] at isResult
    split_ifs at isResult with isDone
    · cases isResult
      exact ⟨sprays, isDone, fun _ isPort => .inl isPort⟩
    · obtain ⟨sprays, isDone, origin⟩ := ih ((adds step ports).sprays sprays) (step + 1) isResult
      refine ⟨sprays, isDone, fun port isPort => ?_⟩
      rcases origin port isPort with isAfter | isOffered
      · exact ((adds step ports).origin port isAfter).imp_right fun isOffered => ⟨step, isOffered⟩
      · exact .inr isOffered

theorem int_eq_of_dvd {value port : Int} (isPort : 1 ≤ port ∧ port ≤ 65535)
    (same : (2 ^ 64 : Int) ∣ value - port) : int value = port := by
  obtain ⟨factor, isProduct⟩ := same
  have isValue : value = port + (2 ^ 64 : Nat) * factor := by omega
  rw [int, isValue, Int.add_mul_bmod_self_left]
  apply Int.bmod_eq_of_le <;> omega

section

variable {interval port : Int}

/-- What the interval has in common with the modulus divides the way to every port that a turn
comes to. -/
theorem dvd_of_turn (step : Nat)
    (isOffered : port = int (basePort + step * interval) ∨
      port = int (basePort - step * interval)) :
    (Int.gcd interval (2 ^ 64) : Int) ∣ port - basePort := by
  have dvdInt (value : Int) : (Int.gcd interval (2 ^ 64) : Int) ∣ int value - value :=
    Int.dvd_trans (Int.gcd_dvd_right ..) (@Int.dvd_bmod_sub_self value (2 ^ 64))
  have dvdStep : (Int.gcd interval (2 ^ 64) : Int) ∣ step * interval :=
    Int.dvd_mul_of_dvd_right (Int.gcd_dvd_left ..)
  rcases isOffered with isUp | isDown
  · have both := Int.dvd_add (dvdInt (basePort + step * interval)) dvdStep
    rwa [← isUp, show port - (basePort + step * interval) + step * interval =
      port - basePort by omega] at both
  · have both := Int.dvd_sub (dvdInt (basePort - step * interval)) dvdStep
    rwa [← isDown, show port - (basePort - step * interval) - step * interval =
      port - basePort by omega] at both

/-- A port on such a way is a combination of the interval and the modulus, and the turn is the
factor of the interval, modulo 2⁶⁴. -/
theorem exists_turn (isPort : 1 ≤ port ∧ port ≤ 65535)
    (divides : (Int.gcd interval (2 ^ 64) : Int) ∣ port - basePort) :
    ∃ later < 2 ^ 64, port = int (basePort + (1 + later : Nat) * interval) := by
  obtain ⟨factor, isProduct⟩ := divides
  rw [Int.gcd_eq_gcd_ab, Int.add_mul] at isProduct
  generalize isTurn : Int.gcdA interval (2 ^ 64) * factor = turn
  have nonneg := Int.emod_nonneg (turn - 1) (show (2 ^ 64 : Int) ≠ 0 by decide)
  refine ⟨((turn - 1) % 2 ^ 64).toNat, by omega, (int_eq_of_dvd isPort ?_).symm⟩
  have isStep : ((1 + ((turn - 1) % 2 ^ 64).toNat : Nat) : Int) =
      turn - 2 ^ 64 * ((turn - 1) / 2 ^ 64) := by
    omega
  refine ⟨-((turn - 1) / 2 ^ 64 * interval) - Int.gcdB interval (2 ^ 64) * factor, ?_⟩
  rw [isStep]
  linear_combination -isProduct - interval * isTurn

end

/-- A port that the first loop comes to, if it does not end before. -/
def SprayReaches (basePort : Int) (intervals : List Int) (port : Int) : Prop :=
  (1 ≤ port ∧ port ≤ 65535) ∧ (port = basePort ∨
    ∃ interval ∈ (if intervals = [] then [defaultPredictionInterval] else intervals),
      0 < interval ∧ (Int.gcd interval (2 ^ 64) : Int) ∣ port - basePort)

/-- The second loop comes to every port. -/
theorem collectPorts_around (sprays : SprayPorts basePort span ports)
    (isPort : 1 ≤ basePort ∧ basePort ≤ 65535) (small : span ≤ 65535) {fuel : Nat}
    (long : 65535 ≤ fuel) :
    ∃ result, collectPorts span (fun delta ports =>
        appendPort span (appendPort span ports (int (basePort - delta))) (int (basePort + delta)))
        fuel 1 ports = some result ∧ SprayPorts basePort span result ∧ span ≤ result.length := by
  have adds (delta : Nat) (ports : List Int) : Adds basePort span span ports _ _ :=
    (adds_appendPort (le_refl _) (int (basePort - delta))).trans
      (adds_appendPort (le_refl _) (int (basePort + delta)))
  have allPorts (count : Nat) : ((range count).map fun i : Nat => (i : Int) + 1).Nodup :=
    List.Nodup.map (fun _ _ same => by simp at same; omega) nodup_range
  apply collectPorts_eq adds sprays fuel 1 _ (allPorts 65535)
  · rw [length_map, length_range]
    exact small
  · simp only [mem_map, mem_range]
    omega
  · intro _ port isReached
    simp only [mem_map, mem_range] at isReached
    rw [or_iff_not_imp_left]
    intro isNew
    have isOther : port ≠ basePort := by
      rintro rfl
      exact isNew (mem_of_head? sprays.first)
    refine ⟨(port - basePort).natAbs - 1, by omega, ?_⟩
    rcases Int.le_total port basePort with below | above
    · exact .inl (int_eq_of_dvd (by omega) ⟨0, by omega⟩).symm
    · exact .inr (int_eq_of_dvd (by omega) ⟨0, by omega⟩).symm

section

variable (isPort : 1 ≤ basePort ∧ basePort ≤ 65535) (isPositive : 0 < span)

include isPort isPositive

theorem appendPort_base : appendPort span [] basePort = [basePort] ∧
    SprayPorts basePort span [basePort] := by
  refine ⟨?_, by simp, by simpa using isPort, rfl, isPositive⟩
  rw [appendPort, if_neg (by simp; omega), nil_append]

/-- If the first loop comes to ports for half of the span, both loops end. -/
theorem build_of_reached (small : span ≤ 65535) {reached : List Int} (nodup : reached.Nodup)
    (enough : span / 2 ≤ reached.length)
    (reaches : ∀ port ∈ reached, SprayReaches basePort intervals port) {fuel : Nat}
    (long : 2 ^ 64 ≤ fuel) :
    ∃ ports, buildTargetSprayPortsMulti fuel basePort intervals span = some ports ∧
      SprayPorts basePort span ports ∧ span ≤ ports.length := by
  obtain ⟨based, start⟩ := appendPort_base isPort isPositive
  rw [buildTargetSprayPortsMulti, if_neg (by omega), based]
  obtain ⟨half, halfEq, halfSprays, -⟩ := collectPorts_eq adds_sprayRound start fuel 1 reached
    nodup enough (fun port isReached => (reaches port isReached).1) <| by
      intro _ port isReached
      obtain ⟨inRange, isBase | ⟨interval, isInterval, isPositive, divides⟩⟩ :=
        reaches port isReached
      · exact .inl (mem_singleton.mpr isBase)
      · obtain ⟨later, isLess, isOffered⟩ := exists_turn inRange divides
        exact .inr ⟨later, by omega, interval, isInterval, isPositive, .inl isOffered⟩
  obtain ⟨ports, portsEq, isSpray⟩ := collectPorts_around halfSprays isPort small
    (le_trans (by decide) long)
  exact ⟨ports, Option.bind_eq_some_iff.mpr ⟨half, halfEq, portsEq⟩, isSpray⟩

/-- The ports of the first loop, once it has ended, are ports that it comes to. -/
theorem reached_of_build {fuel : Nat} {ports : List Int}
    (isResult : buildTargetSprayPortsMulti fuel basePort intervals span = some ports) :
    ∃ reached : List Int, reached.Nodup ∧ span / 2 ≤ reached.length ∧
      ∀ port ∈ reached, SprayReaches basePort intervals port := by
  obtain ⟨based, start⟩ := appendPort_base isPort isPositive
  rw [buildTargetSprayPortsMulti, if_neg (by omega), based] at isResult
  obtain ⟨half, halfEq, -⟩ := Option.bind_eq_some_iff.mp isResult
  obtain ⟨sprays, isDone, origin⟩ := of_collectPorts adds_sprayRound start fuel 1 halfEq
  refine ⟨half, sprays.nodup, isDone, fun port isHalf => ⟨sprays.inRange port isHalf, ?_⟩⟩
  rcases origin port isHalf with isBase | ⟨step, interval, isInterval, isPositive, isOffered⟩
  · exact .inl (mem_singleton.mp isBase)
  · exact .inr ⟨interval, isInterval, isPositive, dvd_of_turn step isOffered⟩

end

/-- The ports are as many as the span, distinct and in range, with the base port first, exactly if
the first loop comes to ports for half of the span. -/
theorem spray_ports_collected (basePort : Int) (isPort : 1 ≤ basePort ∧ basePort ≤ 65535)
    (intervals : List Int) (span : Nat) (small : span ≤ 65535) :
    (∃ enough, ∀ fuel ≥ enough, ∃ ports,
      buildTargetSprayPortsMulti fuel basePort intervals span = some ports ∧
        ports.length = span ∧ ports.Nodup ∧ (∀ port ∈ ports, 1 ≤ port ∧ port ≤ 65535) ∧
        ports.head? = some basePort) ↔
      0 < span ∧ ∃ reached : List Int, reached.Nodup ∧ span / 2 ≤ reached.length ∧
        ∀ port ∈ reached, SprayReaches basePort intervals port := by
  constructor
  · rintro ⟨enough, results⟩
    obtain ⟨ports, isResult, length, -, -, first⟩ := results enough (le_refl _)
    have isPositive : 0 < span := by
      rw [← length]
      exact length_pos_of_mem (mem_of_head? first)
    exact ⟨isPositive, reached_of_build isPort isPositive isResult⟩
  · rintro ⟨isPositive, reached, nodup, enough, reaches⟩
    refine ⟨2 ^ 64, fun fuel long => ?_⟩
    obtain ⟨ports, isResult, sprays, isEnough⟩ :=
      build_of_reached isPort isPositive small nodup enough reaches long
    exact ⟨ports, isResult, le_antisymm sprays.length isEnough, sprays.nodup, sprays.inRange,
      sprays.first⟩

/-- An interval so large that its multiples wrap around, and the ports that come out. -/
theorem spray_ports_collected_four :
    (∃ enough, ∀ fuel ≥ enough, ∃ ports,
      buildTargetSprayPortsMulti fuel 5000 [9223372036854775807] 4 = some ports ∧
        ports.length = 4 ∧ ports.head? = some 5000) ∧
    buildTargetSprayPortsMulti 2 5000 [9223372036854775807] 4 =
      some [5000, 4998, 5002, 4999] := by
  have reaches : ∀ port ∈ [5000, 5002], SprayReaches 5000 [9223372036854775807] port := by
    have coprime : Int.gcd 9223372036854775807 18446744073709551616 = 1 := by decide +kernel
    simp [SprayReaches, coprime]
  obtain ⟨enough, results⟩ := (spray_ports_collected 5000 (by decide) [9223372036854775807] 4
    (by decide)).mpr ⟨by decide, [5000, 5002], by decide, by decide, reaches⟩
  refine ⟨⟨enough, fun fuel long => ?_⟩, by decide +kernel⟩
  obtain ⟨ports, isResult, length, -, -, first⟩ := results fuel long
  exact ⟨ports, isResult, length, first⟩

/-- Without a positive interval the first loop never ends. -/
theorem spray_never_ends :
    ¬ ∃ fuel ports, buildTargetSprayPortsMulti fuel 5000 [0] 4 = some ports := by
  have turns (fuel step : Nat) :
      collectPorts 2 (fun step => sprayRound 5000 4 step [0]) fuel step [5000] = none := by
    induction fuel generalizing step with
    | zero => rfl
    | succ fuel ih => exact ih (step + 1)
  rintro ⟨fuel, ports, isResult⟩
  have noResult : buildTargetSprayPortsMulti fuel 5000 [0] 4 = none :=
    congrArg (Option.bind · _) (turns fuel 1)
  cases noResult.symm.trans isResult

/-! ## The dominant step -/

structure StepCounts where
  counts : Int → Nat
  bestValue : Int
  bestCount : Nat

def StepCounts.add (steps : StepCounts) (value : Int) : StepCounts :=
  if value ≤ 0 then steps
  else
    let count := steps.counts value + 1
    let counts := Function.update steps.counts value count
    if steps.bestCount < count ∨
        count = steps.bestCount ∧ (steps.bestValue = 0 ∨ value < steps.bestValue) then
      ⟨counts, value, count⟩
    else { steps with counts }

def dominantPositive (values : List Int) : Int :=
  (values.foldl StepCounts.add ⟨fun _ => 0, 0, 0⟩).bestValue

/-- No other positive value is more frequent, or as frequent and smaller. -/
structure StepCounts.Best (seen : List Int) (steps : StepCounts) : Prop where
  counts : ∀ value, 0 < value → steps.counts value = seen.count value
  highest : ∀ value, 0 < value → seen.count value < steps.bestCount ∨
    seen.count value = steps.bestCount ∧ steps.bestValue ≤ value
  best : steps.bestValue = 0 ∧ steps.bestCount = 0 ∨
    0 < steps.bestValue ∧ 0 < steps.bestCount ∧ seen.count steps.bestValue = steps.bestCount

theorem StepCounts.Best.add {seen : List Int} {steps : StepCounts} (best : steps.Best seen)
    (value : Int) : (steps.add value).Best (seen ++ [value]) := by
  obtain ⟨counts, highest, best⟩ := best
  have own := counts value
  have kept := highest value
  have counted (other : Int) :
      (seen ++ [value]).count other = seen.count other + if value = other then 1 else 0 := by
    simp [List.count_append, List.count_singleton]
  rw [StepCounts.add]
  dsimp only
  split_ifs <;> constructor <;> grind [Function.update_apply]

theorem StepCounts.best_foldl (values : List Int) :
    (values.foldl add ⟨fun _ => 0, 0, 0⟩).Best values := by
  induction values using reverseRecOn with
  | nil =>
    exact ⟨fun _ _ => rfl, fun _ positive => .inr ⟨rfl, Int.le_of_lt positive⟩, .inl ⟨rfl, rfl⟩⟩
  | append_singleton _ value ih => simpa using ih.add value

/-- The smallest of the most frequent positive values is returned, or 0 if there is none; so the
order of the values does not matter. -/
theorem dominantPositive_spec (values : List Int) :
    ((∀ value ∈ values, value ≤ 0) → dominantPositive values = 0) ∧
    ((∃ value ∈ values, 0 < value) → 0 < dominantPositive values ∧
      dominantPositive values ∈ values ∧ ∀ value ∈ values, 0 < value →
        values.count value < values.count (dominantPositive values) ∨
          values.count value = values.count (dominantPositive values) ∧
            dominantPositive values ≤ value) ∧
    ∀ others, others.Perm values → dominantPositive others = dominantPositive values := by
  obtain ⟨-, highest, best⟩ := StepCounts.best_foldl values
  rw [dominantPositive]
  refine ⟨fun nonePositive => ?_, ?_, fun others perm => ?_⟩
  · grind [count_pos_iff]
  · rintro ⟨value, isValue, positive⟩
    grind [count_pos_iff]
  · obtain ⟨-, other, bestOther⟩ := StepCounts.best_foldl others
    simp only [perm.count_eq] at other bestOther
    rw [dominantPositive]
    grind

end DeepNps.P2P
