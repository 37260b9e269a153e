import DeepNps.MuxWindowWord

/-!
# Mux configuration and receive budgets

`normalizeMuxConfig` clamps the limits of a mux.  The session counter is read anew for
every bound of a window, so the value it had is an argument of each function.
-/

namespace DeepNps.Mux

def defaultInitialConnWindow : UInt32 := UInt32.ofNat (maximumSegmentSize * 30)

theorem defaultInitialConnWindow_toNat : defaultInitialConnWindow.toNat = 122550 := rfl

/-- The fields of `MuxConfig` that `normalizeMuxConfig` sets; durations are
nanosecond counts. -/
structure MuxConfig where
  pingJitter : Int64
  pingMaxPad : Int64
  acceptBacklog : Int64
  maxConnReceiveWindow : UInt32
  maxSessionReceiveWindow : UInt64
  pingTimeout : Int64
  minPingTimeout : Int64
  openTimeout : Int64
  socketKeepAlive : Int64
  closeTimeout : Int64
  writeQueueHighWater : UInt64
  writeQueueLowWater : UInt64

def defaultMuxConfig : MuxConfig where
  pingJitter := 2000000000
  pingMaxPad := 16
  acceptBacklog := 1024
  maxConnReceiveWindow := UInt32.ofNat maximumWindowSize
  maxSessionReceiveWindow := UInt64.ofNat maximumWindowSize * 2
  pingTimeout := 0
  minPingTimeout := 0
  openTimeout := 0
  socketKeepAlive := 15000000000
  closeTimeout := 5000000000
  writeQueueHighWater := 2048
  writeQueueLowWater := 1024

def absoluteDuration (duration : Int64) : Int64 := if duration < 0 then -duration else duration

def normalizeWriteQueueWatermarks (high low : UInt64) : UInt64 × UInt64 :=
  let high := if high = 0 then defaultMuxConfig.writeQueueHighWater else high
  let low := if low = 0 then defaultMuxConfig.writeQueueLowWater else low
  let high := if high < 2 then 2 else high
  let low := if low = 0 then 1 else low
  if low ≥ high then
    let low := high / 2
    (high, if low = 0 then 1 else low)
  else
    (high, low)

namespace MuxConfig

def normalizedMaxConnReceiveWindow (cfg : MuxConfig) : UInt32 :=
  let window := cfg.maxConnReceiveWindow
  let window := if window < defaultInitialConnWindow then defaultInitialConnWindow else window
  if window > mask31 then mask31 else window

def normalizedMaxSessionReceiveWindow (cfg : MuxConfig) : UInt64 :=
  let window := cfg.maxSessionReceiveWindow
  let least := cfg.normalizedMaxConnReceiveWindow.toUInt64
  let window := if window < least then least else window
  if window > mask31.toUInt64 then mask31.toUInt64 else window

end MuxConfig

/-- Negative durations stand for "none", zero for the package default. -/
private def durationOr (fallback duration : Int64) : Int64 :=
  if duration < 0 then 0 else if duration = 0 then fallback else duration

private def nonNegative (duration : Int64) : Int64 := if duration < 0 then 0 else duration

def normalizeMuxConfig (cfg : MuxConfig) : MuxConfig :=
  let padLimit : Int64 := Int64.ofNat (maximumSegmentSize - 8)
  let watermarks := normalizeWriteQueueWatermarks cfg.writeQueueHighWater cfg.writeQueueLowWater
  { pingJitter := absoluteDuration cfg.pingJitter
    pingMaxPad :=
      if cfg.pingMaxPad < 0 then 0
      else if cfg.pingMaxPad > padLimit then padLimit else cfg.pingMaxPad
    acceptBacklog := if cfg.acceptBacklog ≤ 0 then 1 else cfg.acceptBacklog
    maxConnReceiveWindow := cfg.normalizedMaxConnReceiveWindow
    maxSessionReceiveWindow := cfg.normalizedMaxSessionReceiveWindow
    pingTimeout := nonNegative cfg.pingTimeout
    minPingTimeout := nonNegative cfg.minPingTimeout
    openTimeout := nonNegative cfg.openTimeout
    socketKeepAlive := durationOr defaultMuxConfig.socketKeepAlive cfg.socketKeepAlive
    closeTimeout := durationOr defaultMuxConfig.closeTimeout cfg.closeTimeout
    writeQueueHighWater := watermarks.1
    writeQueueLowWater := watermarks.2 }

/-- The stream limit covers the initial window, the session limit the stream limit, in 31 bits. -/
structure MuxConfig.Normalized (cfg : MuxConfig) : Prop where
  conn_ge : 122550 ≤ cfg.maxConnReceiveWindow.toNat
  conn_lt : cfg.maxConnReceiveWindow.toNat < 2 ^ 31
  session_ge : cfg.maxConnReceiveWindow.toNat ≤ cfg.maxSessionReceiveWindow.toNat
  session_lt : cfg.maxSessionReceiveWindow.toNat < 2 ^ 31

theorem MuxConfig.normalizedMaxConnReceiveWindow_bounds (cfg : MuxConfig) :
    122550 ≤ cfg.normalizedMaxConnReceiveWindow.toNat ∧
      cfg.normalizedMaxConnReceiveWindow.toNat < 2 ^ 31 := by
  have initial := defaultInitialConnWindow_toNat
  have mask := mask31_toNat
  simp only [normalizedMaxConnReceiveWindow, gt_iff_lt, UInt32.lt_iff_toNat_lt]
  split_ifs <;> omega

theorem normalizeMuxConfig_normalized (cfg : MuxConfig) : (normalizeMuxConfig cfg).Normalized := by
  obtain ⟨connLow, connHigh⟩ := cfg.normalizedMaxConnReceiveWindow_bounds
  have mask := mask31_toNat
  have session : cfg.normalizedMaxConnReceiveWindow.toNat ≤
      cfg.normalizedMaxSessionReceiveWindow.toNat ∧
      cfg.normalizedMaxSessionReceiveWindow.toNat < 2 ^ 31 := by
    simp only [MuxConfig.normalizedMaxSessionReceiveWindow, gt_iff_lt, UInt64.lt_iff_toNat_lt,
      UInt32.toNat_toUInt64]
    split_ifs <;> (try simp only [UInt32.toNat_toUInt64] at *) <;> omega
  exact ⟨connLow, connHigh, session.1, session.2⟩

def maxConnReceiveWindow (cfg : MuxConfig) : UInt32 :=
  if cfg.maxConnReceiveWindow = 0 then (normalizeMuxConfig defaultMuxConfig).maxConnReceiveWindow
  else cfg.maxConnReceiveWindow

def addSessionReceive (queued : UInt64) (n : UInt32) : UInt64 :=
  if n = 0 then queued else queued + n.toUInt64

def releaseSessionReceive (queued : UInt64) (n : UInt32) : UInt64 :=
  if n = 0 then queued else queued + ~~~(n.toUInt64 - 1)

/-- The session counter is as it was read, the session limit is the configured one. -/
def sessionReceiveWindowForConn (cfg : MuxConfig) (queued : UInt64) (buffered : UInt32) : UInt32 :=
  let limit := cfg.maxSessionReceiveWindow
  if queued ≥ limit then
    if buffered = 0 then defaultInitialConnWindow
    else if buffered > mask31 then mask31
    else buffered
  else
    let allowed := buffered.toUInt64 + (limit - queued)
    let allowed :=
      if buffered = 0 ∧ allowed < defaultInitialConnWindow.toUInt64 then
        defaultInitialConnWindow.toUInt64
      else allowed
    (if allowed > mask31.toUInt64 then mask31.toUInt64 else allowed).toUInt32

/-- `receiveWindow.effectiveMaxSize`, with the counters as they were read. -/
def effectiveMaxSize (cfg : MuxConfig) (queued : UInt64) (buffered maxSize : UInt32) : UInt32 :=
  let maxSize := if maxSize < defaultInitialConnWindow then defaultInitialConnWindow else maxSize
  let limit := maxConnReceiveWindow cfg
  let maxSize := if maxSize > limit then limit else maxSize
  let sessionLimit := sessionReceiveWindowForConn cfg queued buffered
  if maxSize > sessionLimit then sessionLimit else maxSize

def unusedSize (maxSize buffered : UInt32) (delta : UInt16) : UInt32 :=
  let used := buffered.toUInt64 + delta.toUInt64
  if used < maxSize.toUInt64 then (maxSize.toUInt64 - used).toUInt32 else 0

def receiveRemainingSize (cfg : MuxConfig) (queued : UInt64) (buffered maxSize : UInt32)
    (delta : UInt16) : UInt32 :=
  unusedSize (effectiveMaxSize cfg queued buffered maxSize) buffered delta

theorem addSessionReceive_eq (queued : UInt64) (n : UInt32) :
    addSessionReceive queued n = queued + n.toUInt64 := by
  rw [addSessionReceive]
  split_ifs with isZero
  · simp [isZero]
  · rfl

theorem releaseSessionReceive_eq (queued : UInt64) (n : UInt32) :
    releaseSessionReceive queued n = queued - n.toUInt64 := by
  rw [releaseSessionReceive]
  split_ifs with isZero
  · simp [isZero]
  · have complement := UInt64.neg_eq_not_add (n.toUInt64 - 1)
    grind

section Bounds

variable {cfg : MuxConfig} (normalized : cfg.Normalized)

include normalized

theorem maxConnReceiveWindow_eq : maxConnReceiveWindow cfg = cfg.maxConnReceiveWindow := by
  have nonzero : cfg.maxConnReceiveWindow ≠ 0 := by
    intro isZero
    have low := normalized.conn_ge
    rw [isZero] at low
    simp at low
  simp [maxConnReceiveWindow, nonzero]

/-- The session never grants less than one byte, and grants the initial window
to a stream with nothing buffered. -/
theorem sessionReceiveWindowForConn_bounds (queued : UInt64) (buffered : UInt32) :
    0 < (sessionReceiveWindowForConn cfg queued buffered).toNat ∧
      (buffered.toNat = 0 → 122550 ≤ (sessionReceiveWindowForConn cfg queued buffered).toNat) := by
  have initial := defaultInitialConnWindow_toNat
  have mask := mask31_toNat
  have limitLt := normalized.session_lt
  have bufferedLt := buffered.toNat_lt
  have isZero : buffered = 0 ↔ buffered.toNat = 0 := by
    rw [← UInt32.toNat_inj]
    rfl
  by_cases exhausted : cfg.maxSessionReceiveWindow.toNat ≤ queued.toNat
  · simp only [sessionReceiveWindowForConn, ge_iff_le, UInt64.le_iff_toNat_le, exhausted, if_true,
      isZero, gt_iff_lt, UInt32.lt_iff_toNat_lt]
    split_ifs <;> omega
  · have room : (cfg.maxSessionReceiveWindow - queued).toNat =
        cfg.maxSessionReceiveWindow.toNat - queued.toNat :=
      UInt64.toNat_sub_of_le _ _ (UInt64.le_iff_toNat_le.mpr (by omega))
    have sum : (buffered.toUInt64 + (cfg.maxSessionReceiveWindow - queued)).toNat =
        buffered.toNat + (cfg.maxSessionReceiveWindow.toNat - queued.toNat) := by
      rw [UInt64.toNat_add, UInt32.toNat_toUInt64, room, Nat.mod_eq_of_lt (by omega)]
    simp only [sessionReceiveWindowForConn, ge_iff_le, UInt64.le_iff_toNat_le, exhausted, if_false,
      isZero, gt_iff_lt, UInt64.lt_iff_toNat_lt, UInt64.toNat_toUInt32, apply_ite UInt64.toNat,
      UInt32.toNat_toUInt64, sum]
    split_ifs <;> omega

theorem effectiveMaxSize_toNat (queued : UInt64) (buffered maxSize : UInt32) :
    (effectiveMaxSize cfg queued buffered maxSize).toNat =
      min (min (max maxSize.toNat 122550) cfg.maxConnReceiveWindow.toNat)
        (sessionReceiveWindowForConn cfg queued buffered).toNat := by
  have initial := defaultInitialConnWindow_toNat
  have low := normalized.conn_ge
  simp only [effectiveMaxSize, maxConnReceiveWindow_eq normalized, gt_iff_lt,
    UInt32.lt_iff_toNat_lt]
  split_ifs <;> omega

theorem effectiveMaxSize_bounds (queued : UInt64) (buffered maxSize : UInt32) :
    0 < (effectiveMaxSize cfg queued buffered maxSize).toNat ∧
      (effectiveMaxSize cfg queued buffered maxSize).toNat ≤ cfg.maxConnReceiveWindow.toNat := by
  have low := normalized.conn_ge
  have session := (sessionReceiveWindowForConn_bounds normalized queued buffered).1
  rw [effectiveMaxSize_toNat normalized]
  omega

end Bounds

end DeepNps.Mux
