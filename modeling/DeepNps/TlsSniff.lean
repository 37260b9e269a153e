import DeepNps.Segments

/-!
# Looking into a TLS handshake

The bytes of a connection are fed to a TLS server that cannot answer, while a copy of them
is kept, up to a bound.
-/

namespace DeepNps.Crypt

open Segments List

def defaultMaxSize : Nat := 8192

structure SniffConn where
  source : Source UInt8
  buf : List UInt8
  rb : List UInt8
  maxSize : Nat
  limitReached : Bool

namespace SniffConn

def new (source : Source UInt8) (maxSize : Nat) : SniffConn where
  source
  buf := []
  rb := []
  maxSize := if maxSize = 0 then defaultMaxSize else maxSize
  limitReached := false

/-- Keep a copy of what was read from the connection, as far as there is room for it. -/
def keep (sniff : SniffConn) (bytes : List UInt8) (source : Source UInt8) : SniffConn :=
  let buf := sniff.buf ++ bytes.take (sniff.maxSize - sniff.buf.length)
  { sniff with source, buf, limitReached := sniff.maxSize ≤ buf.length }

/-- `Read`: what is read, and whether an error is reported with it. -/
def read (sniff : SniffConn) (size : Nat) : List UInt8 × Bool × SniffConn :=
  if sniff.rb ≠ [] then (sniff.rb.take size, false, { sniff with rb := sniff.rb.drop size })
  else if sniff.limitReached then ([], true, sniff)
  else
    match Segments.read size sniff.source with
    | none => ([], true, sniff)
    | some (bytes, source) =>
        if bytes = [] then ([], false, sniff)
        else
          let sniff := sniff.keep bytes source
          (bytes, sniff.limitReached, sniff)

/-- What a read takes from the connection leaves room for a copy. -/
def Room (sniff : SniffConn) (size : Nat) : Prop :=
  ∀ bytes source, Segments.read size sniff.source = some (bytes, source) →
    sniff.rb = [] → sniff.limitReached = false → bytes.length ≤ sniff.maxSize - sniff.buf.length

def behind (source : Source UInt8) (front : List UInt8) : SniffConn :=
  { new source defaultMaxSize with buf := front, rb := front }

end SniffConn

/-- A TLS server that can only read asks for bytes until it gives up.  The result is the server
name, if it came as far as the hello of the client. -/
inductive Handshake
  | done (serverName : Option (List UInt8))
  | read (size : Nat) (next : List UInt8 → Bool → Handshake)

namespace Handshake

/-- `tls.Conn.Handshake` on a sniffed connection. -/
def run : Handshake → SniffConn → Option (List UInt8) × SniffConn
  | .done serverName, sniff => (serverName, sniff)
  | .read size next, sniff =>
      let outcome := sniff.read size
      (next outcome.1 outcome.2.1).run outcome.2.2

/-- Each read of the handshake leaves room for a copy. -/
def Fits : Handshake → SniffConn → Prop
  | .done _, _ => True
  | .read size next, sniff =>
      sniff.Room size ∧
      let outcome := sniff.read size
      (next outcome.1 outcome.2.1).Fits outcome.2.2

end Handshake

def SniffConn.stream (sniff : SniffConn) : List UInt8 := sniff.buf ++ contents sniff.source

/-- A read keeps the stream if there is room for a copy, and else loses some of it. -/
theorem SniffConn.stream_read (sniff : SniffConn) (size : Nat) :
    sniff.Room size ∧ (sniff.read size).2.2.stream = sniff.stream ∨
      ¬ sniff.Room size ∧ (sniff.read size).2.2.stream.length < sniff.stream.length := by
  rw [read]
  split_ifs with hasFront isLimit
  · exact .inl ⟨fun _ _ _ noFront => absurd noFront hasFront, rfl⟩
  · exact .inl ⟨fun _ _ _ _ notLimit => by simp [isLimit] at notLimit, rfl⟩
  · rw [ne_eq, not_not] at hasFront
    rw [Bool.not_eq_true] at isLimit
    cases isRead : Segments.read size sniff.source with
    | none => exact .inl ⟨by simp [Room, isRead], rfl⟩
    | some taken =>
      obtain ⟨bytes, source⟩ := taken
      have room : sniff.Room size ↔ bytes.length ≤ sniff.maxSize - sniff.buf.length := by
        simp [Room, isRead, hasFront, isLimit]
      have isStream := contents_of_read isRead
      simp only [room]
      split_ifs with isEmpty
      · exact .inl ⟨by simp [isEmpty], rfl⟩
      · rw [stream, stream, keep, isStream]
        by_cases fits : bytes.length ≤ sniff.maxSize - sniff.buf.length
        · left
          refine ⟨fits, ?_⟩
          rw [take_of_length_le fits, append_assoc]
        · right
          refine ⟨fits, ?_⟩
          simp only [length_append, length_take]
          omega

variable {handshake : Handshake}

/-- A handshake keeps the stream if its reads fit, and else loses some of it. -/
theorem Handshake.stream_run (handshake : Handshake) (sniff : SniffConn) :
    handshake.Fits sniff ∧ (handshake.run sniff).2.stream = sniff.stream ∨
      ¬ handshake.Fits sniff ∧ (handshake.run sniff).2.stream.length < sniff.stream.length := by
  induction handshake generalizing sniff with
  | done => exact .inl ⟨trivial, rfl⟩
  | read size _ ih =>
    rw [run, Fits]
    rcases sniff.stream_read size with ⟨room, keeps⟩ | ⟨noRoom, loses⟩
    · rw [← keeps]
      exact (ih _ _ _).imp (And.imp_left fun fits => ⟨room, fits⟩)
        (And.imp_left fun notFits both => notFits both.2)
    · right
      refine ⟨fun both => noRoom both.1, ?_⟩
      rcases ih _ _ (sniff.read size).2.2 with ⟨-, keeps⟩ | ⟨-, losesMore⟩
      · rwa [keeps]
      · exact Nat.lt_trans losesMore loses

theorem SniffConn.buf_read (sniff : SniffConn) (size : Nat) :
    sniff.buf <+: (sniff.read size).2.2.buf := by
  rw [read]
  split_ifs
  · exact prefix_rfl
  · exact prefix_rfl
  · cases Segments.read size sniff.source with
    | none => exact prefix_rfl
    | some =>
      simp only
      split_ifs
      · exact prefix_rfl
      · exact prefix_append ..

theorem Handshake.buf_run (handshake : Handshake) (sniff : SniffConn) :
    sniff.buf <+: (handshake.run sniff).2.buf := by
  induction handshake generalizing sniff with
  | done => exact prefix_rfl
  | read size _ ih => exact (sniff.buf_read size).trans (ih _ _ _)

/-- `ReadClientHello`: the server name, what was read, and the connection behind it. -/
def readClientHello (handshake : Handshake) (source : Source UInt8) (front : List UInt8) :
    Option (List UInt8) × List UInt8 × Source UInt8 :=
  let (serverName, sniff) := handshake.run (SniffConn.behind source front)
  (serverName, sniff.buf, sniff.source)

theorem readClientHello_ne_nil {source : Source UInt8} {front : List UInt8}
    (nonempty : front ≠ []) :
    (readClientHello handshake source front).2.1 ≠ [] := by
  have kept : front <+: (readClientHello handshake source front).2.1 :=
    Handshake.buf_run handshake (SniffConn.behind source front)
  intro isEmpty
  rw [isEmpty, prefix_nil] at kept
  exact nonempty kept

end DeepNps.Crypt
