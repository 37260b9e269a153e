import Mathlib.Data.List.Infix

/-!
# The buffered writer of a mux

Small writes are collected, large ones go past the buffer, and the first error stays.  So
the connection gets a front part of what was written, and all of it after a flush.
-/

namespace DeepNps.Mux

open List Option

variable {Error : Type}

/-- What a connection answers to call after call of `SetWriteDeadline` and of `Write`. -/
structure Transport (Error : Type) where
  setWriteDeadline : Nat → Option Error
  write : Nat → Nat × Option Error
  errShortWrite : Error

/-- `FlushWriter`, with the bytes that the connection has taken and the number of calls. -/
structure FlushWriter (Error : Type) where
  buf : List UInt8
  err : Option Error
  written : List UInt8
  calls : Nat

namespace FlushWriter

def new : FlushWriter Error where
  buf := []
  err := none
  written := []
  calls := 0

variable (conn : Transport Error) (timed : Bool) (maxSize : Nat)

/-- The loop of `writeAll`: what was taken, the error and the number of calls. -/
def writeLoop (calls : Nat) (p : List UInt8) : List UInt8 × Option Error × Nat :=
  if p = [] then ([], none, calls)
  else
    let nn := min (conn.write calls).1 p.length
    match (conn.write calls).2 with
    | some err => (p.take nn, some err, calls + 1)
    | none =>
        if nn = 0 then ([], some conn.errShortWrite, calls + 1)
        else
          let (rest, result) := writeLoop (calls + 1) (p.drop nn)
          (p.take nn ++ rest, result)
termination_by p.length
decreasing_by
  have := List.length_pos_of_ne_nil ‹_›
  simp only [List.length_drop]
  omega

/-- `writeAll`, where `timed` says that there is a write timeout. -/
def writeAll (w : FlushWriter Error) (p : List UInt8) : FlushWriter Error :=
  let deadline := if timed then conn.setWriteDeadline w.calls else none
  let calls := if timed then w.calls + 1 else w.calls
  match deadline with
  | some err => { w with err := some err, calls }
  | none =>
      let (sent, err, calls) := writeLoop conn calls p
      let clearErr := if timed then conn.setWriteDeadline calls else none
      { w with
        err := err.or clearErr
        written := w.written ++ sent
        calls := if timed then calls + 1 else calls }

def flush (w : FlushWriter Error) : FlushWriter Error :=
  if w.buf = [] then w else { w.writeAll conn timed w.buf with buf := [] }

inductive Call
  | write (p : List UInt8)
  | flush
  | close

def Call.bytes : Call → List UInt8
  | .write p => p
  | .flush | .close => []

/-- The number of bytes is zero unless the call is a `Write`; the error is the writer's. -/
def call (w : FlushWriter Error) : Call → Nat × FlushWriter Error
  | .write p =>
      if w.err.isSome then (0, w)
      else
        let w := if maxSize < p.length + w.buf.length ∧ 0 < w.buf.length then w.flush conn timed
          else w
        if w.err.isSome then (0, w)
        else if maxSize < p.length then (p.length, w.writeAll conn timed p)
        else (p.length, { w with buf := w.buf ++ p })
  | .flush => (0, if w.err.isSome then w else w.flush conn timed)
  | .close => (0, { (if w.err.isSome then w else w.flush conn timed) with buf := [] })

def run (w : FlushWriter Error) (calls : List Call) : FlushWriter Error :=
  calls.foldl (fun w next => (w.call conn timed maxSize next).2) w

/-- The connection has a front part of what was passed, and the buffer the rest unless there was
an error. -/
structure Sound (w : FlushWriter Error) (passed : List UInt8) : Prop where
  isFront : w.written <+: passed
  rest : w.err = none → w.written ++ w.buf = passed

variable {w : FlushWriter Error} {p passed : List UInt8}

theorem writeLoop_spec (calls : Nat) (p : List UInt8) :
    (writeLoop conn calls p).1 <+: p ∧
      ((writeLoop conn calls p).2.1 = none → (writeLoop conn calls p).1 = p) := by
  fun_induction writeLoop conn calls p with
  | case1 => exact ⟨prefix_refl _, fun _ => rfl⟩
  | case2 => exact ⟨List.take_prefix .., nofun⟩
  | case3 => exact ⟨List.nil_prefix, nofun⟩
  | case4 calls p _ nn _ _ rest result isRest ih =>
    simp only [isRest] at ih
    have split := take_append_drop nn p
    refine ⟨?_, fun noErr => ?_⟩
    · nth_rewrite 2 [← split]
      exact (prefix_append_right_inj _).mpr ih.1
    · simp only [ih.2 noErr, split]

theorem writeAll_spec (isPassed : w.written ++ p = passed) :
    (w.writeAll conn timed p).written <+: passed ∧
      ((w.writeAll conn timed p).err = none → (w.writeAll conn timed p).written = passed) := by
  subst isPassed
  rw [writeAll]
  dsimp only
  split
  · exact ⟨prefix_append .., nofun⟩
  · obtain ⟨isFront, isAll⟩ := writeLoop_spec conn (if timed then w.calls + 1 else w.calls) p
    refine ⟨(prefix_append_right_inj _).mpr isFront, fun noErr => ?_⟩
    rw [isAll (or_eq_none_iff.mp noErr).1]

theorem writeAll_buf : (w.writeAll conn timed p).buf = w.buf := by
  rw [writeAll]
  dsimp only
  split <;> rfl

theorem call_of_isSome (isErr : w.err.isSome = true) (next : Call) :
    (w.call conn timed maxSize next).2.written = w.written ∧
      (w.call conn timed maxSize next).2.err = w.err := by
  cases next <;> simp [call, isErr]

namespace Sound

variable (sound : w.Sound passed)

include sound

theorem flush (noErr : w.err = none) :
    (w.flush conn timed).Sound passed ∧
      ((w.flush conn timed).err = none → (w.flush conn timed).buf = []) := by
  rw [FlushWriter.flush]
  split_ifs with isEmpty
  · exact ⟨sound, fun _ => isEmpty⟩
  · obtain ⟨isFront, isAll⟩ := writeAll_spec conn timed (sound.rest noErr)
    exact ⟨⟨isFront, fun noErr => by rw [append_nil]; exact isAll noErr⟩, fun _ => rfl⟩

theorem write (noErr : w.err = none) :
    (w.call conn timed maxSize (.write p)).2.Sound (passed ++ p) := by
  have flushed := sound.flush conn timed noErr
  obtain ⟨room, roomEq⟩ : ∃ room, room =
      if maxSize < p.length + w.buf.length ∧ 0 < w.buf.length then w.flush conn timed else w :=
    ⟨_, rfl⟩
  have roomSound : room.Sound passed := by grind
  have isDrained : maxSize < p.length → room.err = none → room.buf = [] := by grind
  rw [call, if_neg (by simp [noErr]), ← roomEq]
  dsimp only
  split_ifs with isErr isLarge
  · exact ⟨roomSound.isFront.trans (prefix_append ..), fun noErr =>
      absurd noErr (isSome_iff_ne_none.mp isErr)⟩
  · have noErr := not_isSome_iff_eq_none.mp isErr
    have isWritten := roomSound.rest noErr
    rw [isDrained isLarge noErr, append_nil] at isWritten
    obtain ⟨isFront, isAll⟩ := writeAll_spec conn timed (congrArg (· ++ p) isWritten)
    refine ⟨isFront, fun noErr => ?_⟩
    rw [isAll noErr, writeAll_buf, isDrained isLarge ‹_›, append_nil]
  · refine ⟨roomSound.isFront.trans (prefix_append ..), fun noErr => ?_⟩
    rw [← append_assoc, roomSound.rest noErr]

/-- A call keeps the writer sound, and a `Flush` or `Close` that succeeds leaves nothing in the
buffer. -/
theorem call (next : Call) :
    (w.call conn timed maxSize next).2.Sound (passed ++ next.bytes) ∧
      (next = .flush ∨ next = .close → (w.call conn timed maxSize next).2.err = none →
        (w.call conn timed maxSize next).2.buf = []) := by
  by_cases isErr : w.err.isSome = true
  · obtain ⟨sameWritten, sameErr⟩ := call_of_isSome conn timed maxSize isErr next
    have failed : ¬ (w.call conn timed maxSize next).2.err = none := by
      rw [sameErr]
      exact isSome_iff_ne_none.mp isErr
    refine ⟨⟨?_, fun noErr => absurd noErr failed⟩, fun _ noErr => absurd noErr failed⟩
    rw [sameWritten]
    exact sound.isFront.trans (prefix_append ..)
  · have noErr := not_isSome_iff_eq_none.mp isErr
    obtain ⟨flushed, isDrained⟩ := sound.flush conn timed noErr
    cases next with
    | write p => exact ⟨sound.write conn timed maxSize noErr, by simp⟩
    | flush =>
      rw [FlushWriter.call, if_neg isErr, Call.bytes, append_nil]
      exact ⟨flushed, fun _ => isDrained⟩
    | close =>
      rw [FlushWriter.call, if_neg isErr, Call.bytes, append_nil]
      refine ⟨⟨flushed.isFront, fun noErr => ?_⟩, fun _ _ => rfl⟩
      rw [← isDrained noErr]
      exact flushed.rest noErr

theorem run (calls : List Call) :
    (w.run conn timed maxSize calls).Sound (passed ++ calls.flatMap Call.bytes) := by
  induction calls generalizing w passed with
  | nil => simpa [FlushWriter.run] using sound
  | cons next calls ih =>
    rw [flatMap_cons, ← append_assoc]
    exact ih (sound.call conn timed maxSize next).1

end Sound

theorem run_of_isSome (isErr : w.err.isSome = true) (calls : List Call) :
    (w.run conn timed maxSize calls).written = w.written ∧
      (w.run conn timed maxSize calls).err = w.err := by
  induction calls generalizing w with
  | nil => exact ⟨rfl, rfl⟩
  | cons next calls ih =>
    obtain ⟨sameWritten, sameErr⟩ := call_of_isSome conn timed maxSize isErr next
    have rest := ih (sameErr ▸ isErr)
    exact ⟨rest.1.trans sameWritten, rest.2.trans sameErr⟩

/-- The connection has a front part of what was passed to `Write`; after a call that fails nothing
is written and every call fails; a `Flush` or `Close` that succeeds has written everything. -/
theorem written_is_front (before after : List Call) (next : Call) :
    let w := new.run conn timed maxSize before
    let called := (w.call conn timed maxSize next).2
    w.written <+: before.flatMap Call.bytes ∧
      (called.err.isSome = true →
        (called.run conn timed maxSize after).written = called.written ∧
          (called.run conn timed maxSize after).err.isSome = true) ∧
      (next = .flush ∨ next = .close → called.err = none →
        called.written = before.flatMap Call.bytes) := by
  intro w called
  have start : (new : FlushWriter Error).Sound [] := ⟨prefix_refl _, fun _ => rfl⟩
  have sound : w.Sound (before.flatMap Call.bytes) := start.run conn timed maxSize before
  refine ⟨sound.isFront, fun isErr => ?_, fun isFlush noErr => ?_⟩
  · obtain ⟨sameWritten, sameErr⟩ := run_of_isSome conn timed maxSize isErr after
    exact ⟨sameWritten, sameErr ▸ isErr⟩
  · obtain ⟨nextSound, isDrained⟩ := sound.call conn timed maxSize next
    have isAll := nextSound.rest noErr
    rw [isDrained isFlush noErr, append_nil] at isAll
    rcases isFlush with rfl | rfl
    · exact isAll.trans (append_nil _)
    · exact isAll.trans (append_nil _)

end FlushWriter

end DeepNps.Mux
