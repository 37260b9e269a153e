import DeepNps.LabelledRuns
import Mathlib.Tactic.Ring

/-!
# The arithmetic of the rate limiter

Costs and byte rates are quotients of 64-bit numbers with a factor of a second.  An operation
wraps around where nothing guards it.
-/

namespace DeepNps.Rate

open Int

def maxI64 : Int := 2 ^ 63 - 1

def sampleIntervalNs : Int := 10 ^ 9

def wrap (value : Int) : Int := (value + 2 ^ 63) % 2 ^ 64 - 2 ^ 63

def bytesToNsCeil (bytes rate : Int) : Int :=
  if bytes ≤ 0 ∨ rate ≤ 0 then 0
  else if bytes > maxI64.tdiv (10 ^ 9) then maxI64
  else
    let num := bytes * 10 ^ 9
    (wrap (wrap (num + rate) - 1)).tdiv rate

/-- Here every operation is guarded against an overflow. -/
def bytesPerSec (bytes dtNs : Int) : Int :=
  if bytes ≤ 0 ∨ dtNs ≤ 0 then 0
  else
    let q := bytes.tdiv dtNs
    let rem := bytes.tmod dtNs
    if q > maxI64.tdiv (10 ^ 9) then maxI64
    else
      let res := q * 10 ^ 9
      let add := if rem > maxI64.tdiv (10 ^ 9) then maxI64.tdiv dtNs
        else (rem * 10 ^ 9).tdiv dtNs
      if rem > 0 ∧ add > maxI64 - res then maxI64
      else
        let res := if rem > 0 then res + add else res
        if res < 0 then maxI64 else res

structure Meter where
  lastSampleNs : Int
  inAcc : Int
  outAcc : Int
  inBps : Int
  outBps : Int

/-- `roll`, when no other call comes in between. -/
def Meter.roll (meter : Meter) (nowNs : Int) : Meter :=
  let delta := wrap (nowNs - meter.lastSampleNs)
  if nowNs ≤ meter.lastSampleNs ∨ delta < sampleIntervalNs then meter
  else if delta ≤ 0 then { meter with lastSampleNs := nowNs }
  else
    { lastSampleNs := nowNs
      inAcc := 0
      outAcc := 0
      inBps := (wrap (meter.inAcc * sampleIntervalNs)).tdiv delta
      outBps := (wrap (meter.outAcc * sampleIntervalNs)).tdiv delta }

/-- The part of a `Rate` that measures. -/
structure Sampler where
  bytesAcc : Int
  lastSampleNs : Int
  nowBps : Int

def Sampler.updateRateWithNow (rate : Sampler) (now : Int) : Sampler :=
  let dt := wrap (now - rate.lastSampleNs)
  if dt < sampleIntervalNs then rate
  else
    let bytes := if rate.bytesAcc < 0 then 0 else rate.bytesAcc
    { bytesAcc := 0
      lastSampleNs := now
      nowBps := if dt ≤ 0 then rate.nowBps else bytesPerSec bytes dt }

/-- A value if it fits, and else the largest one. -/
def saturated (value : Int) : Int := min value maxI64

theorem wrap_eq {value : Int} (low : -2 ^ 63 ≤ value) (high : value ≤ maxI64) :
    wrap value = value := by
  rw [maxI64] at high
  rw [wrap]
  omega

theorem tdiv_nonpos {value divisor : Int} (notPos : value ≤ 0) (nonneg : 0 ≤ divisor) :
    value.tdiv divisor ≤ 0 := by
  have opposite := Int.tdiv_nonneg (show 0 ≤ -value by omega) nonneg
  rw [Int.neg_tdiv] at opposite
  omega

theorem maxI64_tdiv : maxI64.tdiv (10 ^ 9) = 9223372036 := by
  decide

section

variable {bytes rate dt : Int} (isPos : 0 < bytes)

include isPos

theorem bytesToNsCeil_eq (ratePos : 0 < rate) (sumFits : bytes * 10 ^ 9 + rate - 1 ≤ maxI64) :
    bytesToNsCeil bytes rate = saturated ((bytes * 10 ^ 9 + rate - 1) / rate) := by
  have wrapped : wrap (wrap (bytes * 10 ^ 9 + rate) - 1) = bytes * 10 ^ 9 + rate - 1 := by
    rw [maxI64] at sumFits
    rw [wrap, wrap]
    omega
  have quotLe : (bytes * 10 ^ 9 + rate - 1) / rate ≤ bytes * 10 ^ 9 + rate - 1 :=
    ediv_le_self _ (by omega)
  rw [bytesToNsCeil, if_neg (by omega), maxI64_tdiv, saturated,
    if_neg (by rw [maxI64] at sumFits; omega), min_eq_left (quotLe.trans sumFits)]
  dsimp only
  rw [wrapped, tdiv_eq_ediv_of_nonneg (by omega)]

/-- A sum that overflows comes out negative; bytes that are not multiplied cost the maximum. -/
theorem bytesToNsCeil_eq_iff (ratePos : 0 < rate) (rateLe : rate ≤ maxI64) :
    bytesToNsCeil bytes rate = saturated ((bytes * 10 ^ 9 + rate - 1) / rate) ↔
      if bytes ≤ 9223372036 then bytes * 10 ^ 9 + rate - 1 ≤ maxI64
      else (maxI64 - 1) * rate < bytes * 10 ^ 9 := by
  split_ifs with small
  · refine ⟨fun isRight => ?_, bytesToNsCeil_eq isPos ratePos⟩
    by_contra overflows
    rw [maxI64] at overflows rateLe
    have wrapped : wrap (wrap (bytes * 10 ^ 9 + rate) - 1) =
        bytes * 10 ^ 9 + rate - 1 - 2 ^ 64 := by
      rw [wrap, wrap]
      omega
    have notPos : (bytes * 10 ^ 9 + rate - 1 - 2 ^ 64).tdiv rate ≤ 0 :=
      tdiv_nonpos (by omega) ratePos.le
    have atLeastOne : 1 ≤ (bytes * 10 ^ 9 + rate - 1) / rate :=
      Int.le_ediv_of_mul_le ratePos (by omega)
    rw [bytesToNsCeil, if_neg (by omega), maxI64_tdiv, if_neg (by omega)] at isRight
    dsimp only at isRight
    rw [wrapped, saturated, maxI64] at isRight
    omega
  · rw [bytesToNsCeil, if_neg (by omega), maxI64_tdiv, if_pos (by omega), saturated,
      eq_comm, min_eq_right_iff, Int.le_ediv_iff_mul_le ratePos, maxI64]
    omega

section

variable (dtPos : 0 < dt)

include dtPos

omit isPos in
theorem quotient_split : bytes * 10 ^ 9 / dt = bytes % dt * 10 ^ 9 / dt + bytes / dt * 10 ^ 9 := by
  rw [← add_mul_ediv_left _ _ dtPos.ne']
  congr 1
  calc bytes * 10 ^ 9 = (bytes % dt + dt * (bytes / dt)) * 10 ^ 9 := by
        rw [emod_add_mul_ediv]
    _ = bytes % dt * 10 ^ 9 + dt * (bytes / dt * 10 ^ 9) := by ring

/-- The rest of the division is small enough to be multiplied. -/
theorem bytesPerSec_eq (guarded : bytes % dt ≤ 9223372036) :
    bytesPerSec bytes dt = saturated (bytes * 10 ^ 9 / dt) := by
  have remNonneg := emod_nonneg bytes dtPos.ne'
  have quotNonneg : 0 ≤ bytes / dt := ediv_nonneg (by omega) (by omega)
  have addNonneg : 0 ≤ bytes % dt * 10 ^ 9 / dt := ediv_nonneg (by omega) (by omega)
  rw [bytesPerSec, if_neg (by omega), maxI64_tdiv, tdiv_eq_ediv_of_nonneg (by omega),
    tmod_eq_emod_of_nonneg (by omega), saturated, quotient_split dtPos]
  dsimp only
  rw [if_neg (show ¬ bytes % dt > 9223372036 by omega), tdiv_eq_ediv_of_nonneg (by omega)]
  rcases remNonneg.eq_or_lt with noRem | someRem
  · rw [← noRem, zero_mul, zero_ediv]
    simp only [maxI64]
    omega
  · simp only [maxI64]
    omega

/-- For a larger rest the maximum is divided in its place. -/
theorem bytesPerSec_eq_iff (bytesLe : bytes ≤ maxI64) :
    bytesPerSec bytes dt = saturated (bytes * 10 ^ 9 / dt) ↔
      bytes % dt ≤ 9223372036 ∨ bytes % dt * 10 ^ 9 / dt = maxI64 / dt := by
  by_cases guarded : bytes % dt ≤ 9223372036
  · exact iff_of_true (bytesPerSec_eq isPos dtPos guarded) (.inl guarded)
  rw [maxI64] at bytesLe
  have remLt := emod_lt_of_pos bytes dtPos
  have quotLt : bytes / dt < 10 ^ 9 := Int.ediv_lt_of_lt_mul dtPos (by omega)
  have addLt : bytes % dt * 10 ^ 9 / dt < 10 ^ 9 := Int.ediv_lt_of_lt_mul dtPos (by omega)
  have maxLt : maxI64 / dt < 10 ^ 9 := Int.ediv_lt_of_lt_mul dtPos (by rw [maxI64]; omega)
  have quotNonneg : 0 ≤ bytes / dt := ediv_nonneg (by omega) (by omega)
  have maxNonneg : 0 ≤ maxI64 / dt := ediv_nonneg (by decide) (by omega)
  have notNeg : ¬ bytes / dt * 10 ^ 9 + maxI64 / dt < 0 := by omega
  have isResult : bytesPerSec bytes dt = bytes / dt * 10 ^ 9 + maxI64 / dt := by
    rw [bytesPerSec, if_neg (by omega), maxI64_tdiv, tdiv_eq_ediv_of_nonneg (by omega),
      tmod_eq_emod_of_nonneg (by omega)]
    dsimp only
    rw [if_neg (show ¬ bytes / dt > 9223372036 by omega),
      if_pos (show bytes % dt > 9223372036 by omega), tdiv_eq_ediv_of_nonneg (by decide),
      if_pos (show bytes % dt > 0 by omega), if_neg notNeg,
      if_neg (by rw [maxI64] at maxLt ⊢; omega)]
  rw [isResult, saturated, quotient_split dtPos,
    min_eq_left (by rw [maxI64]; omega)]
  omega

end

/-- The product of the other meter wraps around unless it fits. -/
theorem rolled_eq_iff (sampled : sampleIntervalNs ≤ dt) (dtLe : dt ≤ maxI64)
    (bytesLe : bytes ≤ maxI64) :
    (wrap (bytes * sampleIntervalNs)).tdiv dt = saturated (bytes * 10 ^ 9 / dt) ↔
      bytes ≤ 9223372036 := by
  rw [sampleIntervalNs] at sampled ⊢
  have fits : bytes * 10 ^ 9 / dt ≤ maxI64 := by
    have product := Int.mul_le_mul_of_nonneg_left sampled isPos.le
    have := Int.ediv_le_of_le_mul (show 0 < dt by omega) product
    omega
  rw [saturated, min_eq_left fits]
  rw [maxI64] at dtLe bytesLe
  constructor
  · intro isRight
    by_contra large
    have dtPos : 0 < dt := by omega
    have wrapped : wrap (bytes * 10 ^ 9) + dt ≤ bytes * 10 ^ 9 := by
      rw [wrap]
      omega
    rcases Int.le_total 0 (wrap (bytes * 10 ^ 9)) with nonneg | notPos
    · have less := Int.ediv_le_ediv dtPos wrapped
      rw [Int.add_ediv_of_dvd_right (Int.dvd_refl dt), Int.ediv_self dtPos.ne'] at less
      rw [tdiv_eq_ediv_of_nonneg nonneg] at isRight
      omega
    · have atMost := tdiv_nonpos notPos dtPos.le
      have atLeastOne : 1 ≤ bytes * 10 ^ 9 / dt := Int.le_ediv_of_mul_le dtPos (by omega)
      omega
  · intro small
    rw [wrap_eq (by omega) (by rw [maxI64]; omega), tdiv_eq_ediv_of_nonneg (by omega)]

end

/-- When a cost and the byte rate of either meter are exact or saturate, for all positive
numbers of 64 bits. -/
theorem rate_arithmetic_exact {bytes rate dt : Int} (isBytes : 0 < bytes ∧ bytes ≤ maxI64)
    (isRate : 0 < rate ∧ rate ≤ maxI64) (isDt : 0 < dt ∧ dt ≤ maxI64) :
    (bytesToNsCeil bytes rate = saturated ((bytes * 10 ^ 9 + rate - 1) / rate) ↔
      if bytes ≤ 9223372036 then bytes * 10 ^ 9 + rate - 1 ≤ maxI64
      else (maxI64 - 1) * rate < bytes * 10 ^ 9) ∧
    (bytesPerSec bytes dt = saturated (bytes * 10 ^ 9 / dt) ↔
      bytes % dt ≤ 9223372036 ∨ bytes % dt * 10 ^ 9 / dt = maxI64 / dt) ∧
    ∀ (meter : Meter) (sampler : Sampler) (nowNs now : Int),
      sampleIntervalNs ≤ dt → wrap (nowNs - meter.lastSampleNs) = dt →
      meter.lastSampleNs < nowNs → wrap (now - sampler.lastSampleNs) = dt →
      (meter.inAcc = bytes →
        ((meter.roll nowNs).inBps = saturated (bytes * 10 ^ 9 / dt) ↔ bytes ≤ 9223372036)) ∧
      (meter.outAcc = bytes →
        ((meter.roll nowNs).outBps = saturated (bytes * 10 ^ 9 / dt) ↔ bytes ≤ 9223372036)) ∧
      (sampler.bytesAcc = bytes →
        ((sampler.updateRateWithNow now).nowBps = saturated (bytes * 10 ^ 9 / dt) ↔
          bytes % dt ≤ 9223372036 ∨ bytes % dt * 10 ^ 9 / dt = maxI64 / dt)) := by
  obtain ⟨isPos, bytesLe⟩ := isBytes
  obtain ⟨dtPos, dtLe⟩ := isDt
  have perSec := bytesPerSec_eq_iff isPos dtPos bytesLe
  refine ⟨bytesToNsCeil_eq_iff isPos isRate.1 isRate.2, perSec, ?_⟩
  intro meter sampler nowNs now sampled isDelta later isDt
  have rolled := rolled_eq_iff isPos sampled dtLe bytesLe
  rw [Meter.roll, Sampler.updateRateWithNow, isDelta, isDt, if_neg (by omega),
    if_neg (by omega), if_neg (by omega)]
  refine ⟨fun isIn => isIn ▸ rolled, fun isOut => isOut ▸ rolled, fun isAcc => ?_⟩
  dsimp only
  rwa [isAcc, if_neg (by omega), if_neg (by omega)]

/-- Where the meters are exact, and a byte rate and a cost that come out right although the
product with a second does not fit. -/
theorem rate_arithmetic_exact_second :
    bytesToNsCeil 5 3 = saturated 1666666667 ∧ bytesPerSec 5 (10 ^ 9) = saturated 5 ∧
      ((⟨0, 5, 0, 0, 0⟩ : Meter).roll (10 ^ 9)).inBps = saturated 5 ∧
      bytesToNsCeil maxI64 (10 ^ 9) = saturated maxI64 ∧
      bytesPerSec 9223372037 (10 ^ 10) = saturated 922337203 := by
  have exact := @rate_arithmetic_exact 5 3 (10 ^ 9) (by decide) (by decide) (by decide)
  have large := @rate_arithmetic_exact maxI64 (10 ^ 9) 1 (by decide) (by decide) (by decide)
  have divided := @rate_arithmetic_exact 9223372037 1 (10 ^ 10) (by decide) (by decide) (by decide)
  refine ⟨exact.1.mpr (by decide), exact.2.1.mpr (by decide), ?_, large.1.mpr (by decide),
    divided.2.1.mpr (by decide)⟩
  exact ((exact.2.2 ⟨0, 5, 0, 0, 0⟩ ⟨5, 0, 0⟩ _ (10 ^ 9) (by decide) (by decide) (by decide)
    (by decide)).1 rfl).mpr (by decide)

/-- A cost comes out negative, one at the maximum although it is small, a byte rate too low,
and the other meter's negative. -/
theorem rate_arithmetic_wraps :
    bytesToNsCeil 9223372036 (2 ^ 62) = -1 ∧ bytesToNsCeil (10 ^ 10) (10 ^ 10) = maxI64 ∧
      bytesPerSec (10 ^ 10) (2 * 10 ^ 10) = 461168601 ∧
      10 ^ 10 * 10 ^ 9 / (2 * 10 ^ 10) = (500000000 : Int) ∧
      ((⟨0, 10 ^ 10, 0, 0, 0⟩ : Meter).roll (2 * 10 ^ 10)).inBps = -422337203 := by
  decide +kernel

/-! ## The limiter -/

def minI64 : Int := -2 ^ 63

def burstWindowNs : Int := 2 * 10 ^ 9

def clampAdd (a b : Int) : Int := if b ≤ 0 then a else if a > maxI64 - b then maxI64 else a + b

def clampSub (a b : Int) : Int := if b ≤ 0 then a else if a < minI64 + b then minI64 else a - b

/-- A round of the loop of `reserve` or `ReturnBucket`: the clock, the loaded `tat`, the bytes. -/
inductive Round
  | reserve (now prev size : Int)
  | returnBucket (now prev size : Int)

namespace Round

def prev : Round → Int
  | .reserve _ prev _ | .returnBucket _ prev _ => prev

/-- The value that the round wants to store. -/
def next (rate : Int) : Round → Int
  | .reserve now prev size => clampAdd (max prev (now - burstWindowNs)) (bytesToNsCeil size rate)
  | .returnBucket now prev size =>
      max (clampSub prev (bytesToNsCeil size rate)) (now - burstWindowNs)

def cost (rate : Int) : Round → Int
  | .reserve _ _ size => bytesToNsCeil size rate
  | .returnBucket _ _ size => -bytesToNsCeil size rate

/-- The cost and the sum are not cut off. -/
def Fits (rate : Int) : Round → Prop
  | .reserve now prev size => size * 10 ^ 9 + rate - 1 ≤ maxI64 ∧
      max prev (now - burstWindowNs) + bytesToNsCeil size rate ≤ maxI64
  | .returnBucket _ _ size => size * 10 ^ 9 + rate - 1 ≤ maxI64

end Round

/-- What `reserve` returns after its swap. -/
def wait (rate now prev size : Int) : Int := max 0 ((Round.reserve now prev size).next rate - now)

/-- `tat`, and the costs so far less the refunds. -/
structure Bucket where
  tat : Int
  charged : Int
  deriving DecidableEq

/-- A swap that does not find the loaded value changes nothing. -/
def Bucket.step (rate : Int) (bucket : Bucket) (round : Round) : Option Bucket :=
  some (if bucket.tat = round.prev then ⟨round.next rate, bucket.charged + round.cost rate⟩
    else bucket)

theorem le_clampAdd {a b : Int} (fits : a + b ≤ maxI64) : a + b ≤ clampAdd a b := by
  rw [clampAdd]
  split_ifs <;> omega

section

variable {rate : Int} (ratePos : 0 < rate)

include ratePos

theorem Round.le_next {round : Round} (fits : round.Fits rate) :
    round.prev + round.cost rate ≤ round.next rate := by
  cases round with
  | reserve now prev size =>
    have sum := le_clampAdd fits.2
    have prevLe := le_max_left prev (now - burstWindowNs)
    simp only [Round.prev, cost, next]
    omega
  | returnBucket now prev size =>
    have nonneg : 0 ≤ bytesToNsCeil size rate := by
      by_cases isPos : 0 < size
      · rw [bytesToNsCeil_eq isPos ratePos fits]
        exact le_min (ediv_nonneg (by omega) (by omega)) (by decide)
      · rw [bytesToNsCeil, if_pos (by omega)]
    refine le_trans ?_ (le_max_left ..)
    simp only [Round.prev, cost, clampSub]
    split_ifs <;> omega

/-- From one reservation to another the costs less the refunds are within the time from the
clock of the first to the end of the wait of the second, and one burst. -/
theorem throughput_bounded {bucket last : Bucket} {now later size more : Int} {rounds : List Round}
    (fits : ∀ round ∈ Round.reserve now bucket.tat size :: rounds, round.Fits rate)
    (reaches : Runs.execute (Bucket.step rate) bucket (.reserve now bucket.tat size :: rounds) =
      some last)
    (lastFits : (Round.reserve later last.tat more).Fits rate) :
    last.charged + bytesToNsCeil more rate - bucket.charged ≤
      later + wait rate later last.tat more - now + burstWindowNs ∧
    bytesToNsCeil size rate ≤ wait rate now bucket.tat size + burstWindowNs := by
  obtain ⟨firstFits, fits⟩ := List.forall_mem_cons.mp fits
  obtain ⟨_, stepEq, reaches⟩ := Runs.execute_cons_eq_some.mp reaches
  have first := le_clampAdd firstFits.2
  have floor := le_max_right bucket.tat (now - burstWindowNs)
  have second := Round.le_next ratePos lastFits
  have reached := Runs.invariant_of_meets
    (fun other => now - burstWindowNs + other.charged ≤ other.tat + bucket.charged)
    ?_ ?_ (Runs.meets_of_always fun round isRound _ => fits round isRound) reaches
  · simp only [wait, Round.next, Round.prev, Round.cost] at second ⊢
    omega
  · intro other round next holds fits stepEq
    have grows := Round.le_next ratePos fits
    cases stepEq
    split_ifs with isPrev
    · dsimp only
      omega
    · exact holds
  · cases (congrArg some (if_pos rfl)).symm.trans stepEq
    simp only [Round.next, Round.cost]
    omega

end

theorem throughput_bounded_two : ∃ last : Bucket, last.charged = 10 ^ 9 ∧
    last.charged + bytesToNsCeil 7 1000 - 0 ≤ 5 + wait 1000 5 last.tat 7 - 0 + burstWindowNs := by
  have reaches : Runs.execute (Bucket.step 1000) ⟨0, 0⟩ [.reserve 0 0 1000] =
      some ⟨10 ^ 9, 10 ^ 9⟩ := by decide +kernel
  have fits : (Round.reserve 0 0 1000).Fits 1000 := ⟨by decide +kernel, by decide +kernel⟩
  have lastFits : (Round.reserve 5 (10 ^ 9) 7).Fits 1000 := ⟨by decide +kernel, by decide +kernel⟩
  exact ⟨_, rfl, (throughput_bounded (by decide) (List.forall_mem_singleton.mpr fits) reaches
    lastFits).1⟩

end DeepNps.Rate
