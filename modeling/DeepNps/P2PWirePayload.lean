import DeepNps.ByteOrder
import DeepNps.Text
import Mathlib.Algebra.Ring.Int.Defs

/-!
# The sizes of P2P payloads

A payload is padded to a random size between the bounds of the wire spec.  The normal form
of a spec caps the upper bound last, so a lower bound beyond the cap stays above it.
-/

namespace DeepNps.P2P.Wire

open List

def defaultWirePayloadMinBytes : Int := 96

def defaultWirePayloadMaxBytes : Int := 192

structure P2PWireSpec where
  routeID : String
  payloadMinBytes : Int
  payloadMaxBytes : Int

def normalizeP2PWireSpec (spec : P2PWireSpec) (fallbackRouteID : String) : P2PWireSpec :=
  let least := if spec.payloadMinBytes ≤ 0 then defaultWirePayloadMinBytes else spec.payloadMinBytes
  let most := if spec.payloadMaxBytes ≤ 0 then defaultWirePayloadMaxBytes else spec.payloadMaxBytes
  let least := if least < 32 then 32 else least
  let most := if most < least then least else most
  { routeID := if Text.trimSpace spec.routeID = "" then fallbackRouteID else spec.routeID
    payloadMinBytes := least
    payloadMaxBytes := if most > 1024 then 1024 else most }

/-- The value of `randomInt` for the two random bytes that it reads. -/
def randomInt (least most : Int) (draw : UInt16) : Int :=
  if most ≤ least then least else least + draw.toNat % (most - least + 1)

def randomPayloadTarget (baseLen minBytes maxBytes : Int) (draw : UInt16) : Int :=
  let baseLen := if baseLen < 0 then 0 else baseLen
  let minBytes := if minBytes ≤ 0 then defaultWirePayloadMinBytes else minBytes
  let maxBytes := if maxBytes ≤ 0 then defaultWirePayloadMaxBytes else maxBytes
  let maxBytes := if maxBytes < minBytes then minBytes else maxBytes
  randomInt (if minBytes > baseLen then minBytes else baseLen)
    (if maxBytes > baseLen then maxBytes else baseLen) draw

inductive PacketKind
  | probe
  | ack
  | probeX
  | punch
  | succ
  | endOf
  | accept
  | ready
  | unsupported

inductive PacketRole
  | unnamed
  | visitor
  | provider
  | unsupported

structure Packet where
  payloadMinBytes : Int
  payloadMaxBytes : Int
  sessionID : List UInt8
  kind : PacketKind
  role : PacketRole
  nominationEpoch : UInt32
  probePort : Int
  observedAddr : List UInt8
  extraReply : Bool
  timestamp : Int

def udpPacketTypeCode : PacketKind → Option UInt8
  | .probe => some 1
  | .ack => some 2
  | .probeX => some 3
  | .punch => some 4
  | .succ => some 5
  | .endOf => some 6
  | .accept => some 7
  | .ready => some 8
  | .unsupported => none

def udpPacketRoleCode : PacketRole → Option UInt8
  | .unnamed => some 0
  | .visitor => some 1
  | .provider => some 2
  | .unsupported => none

def putBigEndian (width : Nat) (value : Int) : List UInt8 :=
  (ByteOrder.putLittleEndian width (value % 256 ^ width).toNat).reverse

namespace Packet

def baseLen (pkt : Packet) : Nat := 20 + pkt.sessionID.length + pkt.observedAddr.length + 2

def padLen (pkt : Packet) (draw : UInt16) : Nat :=
  (randomPayloadTarget pkt.baseLen pkt.payloadMinBytes pkt.payloadMaxBytes draw - pkt.baseLen).toNat

end Packet

/-- The payload for the bytes that are drawn: two for its size, and the padding. -/
def encodeUDPPacketPayload (pkt : Packet) (draw : UInt16) (padding : Nat → UInt8) :
    Option (List UInt8) :=
  (udpPacketTypeCode pkt.kind).bind fun typeCode =>
    (udpPacketRoleCode pkt.role).bind fun roleCode =>
      if pkt.sessionID.length = 0 ∨ pkt.sessionID.length > 255 ∨ pkt.observedAddr.length > 255 then
        none
      else
        some ([1, typeCode, roleCode, if pkt.extraReply then 1 else 0] ++
          putBigEndian 2 pkt.probePort ++ putBigEndian 8 pkt.timestamp ++
          putBigEndian 4 pkt.nominationEpoch.toNat ++
          [UInt8.ofNat pkt.sessionID.length, UInt8.ofNat pkt.observedAddr.length] ++
          pkt.sessionID ++ pkt.observedAddr ++ putBigEndian 2 (pkt.padLen draw) ++
          (List.range (pkt.padLen draw)).map padding)

theorem randomInt_mem {least most : Int} (ordered : least ≤ most) (draw : UInt16) :
    least ≤ randomInt least most draw ∧ randomInt least most draw ≤ most := by
  rw [randomInt]
  split_ifs with single
  · exact ⟨Int.le_refl least, ordered⟩
  · have low := Int.emod_nonneg draw.toNat (show most - least + 1 ≠ 0 by omega)
    have high := Int.emod_lt_of_pos draw.toNat (show 0 < most - least + 1 by omega)
    omega

/-- Normalising once more with the same fallback changes nothing. -/
theorem normalizeP2PWireSpec_normalized (spec : P2PWireSpec) (fallbackRouteID : String) :
    normalizeP2PWireSpec (normalizeP2PWireSpec spec fallbackRouteID) fallbackRouteID =
      normalizeP2PWireSpec spec fallbackRouteID := by
  simp only [normalizeP2PWireSpec, P2PWireSpec.mk.injEq, defaultWirePayloadMinBytes,
    defaultWirePayloadMaxBytes]
  refine ⟨?_, ?_, ?_⟩
  · split_ifs <;> rfl
  · omega
  · omega

theorem length_encodeUDPPacketPayload {pkt : Packet} {draw : UInt16} {padding : Nat → UInt8}
    {payload : List UInt8} (encoded : encodeUDPPacketPayload pkt draw padding = some payload) :
    payload.length = pkt.baseLen + pkt.padLen draw := by
  simp only [encodeUDPPacketPayload, Option.bind_eq_some_iff] at encoded
  obtain ⟨_, -, _, -, encoded⟩ := encoded
  split_ifs at encoded <;>
  · cases encoded
    simp only [Packet.baseLen, putBigEndian, length_append, length_cons,
      length_nil, length_reverse, ByteOrder.length_putLittleEndian, length_map,
      length_range]

/-- With positive bounds in order, the size that is drawn keeps to them. -/
theorem randomPayloadTarget_mem {baseLen minBytes maxBytes : Int} (isLen : 0 ≤ baseLen)
    (positive : 0 < minBytes) (ordered : minBytes ≤ maxBytes) (draw : UInt16) :
    max baseLen minBytes ≤ randomPayloadTarget baseLen minBytes maxBytes draw ∧
      randomPayloadTarget baseLen minBytes maxBytes draw ≤ max baseLen maxBytes := by
  have target : randomPayloadTarget baseLen minBytes maxBytes draw =
      randomInt (max baseLen minBytes) (max baseLen maxBytes) draw := by
    rw [randomPayloadTarget]
    congr 1 <;> omega
  rw [target]
  apply randomInt_mem
  omega

/-- A spec keeps its bounds, and its packets keep to them, exactly if its lower bound is within
the cap. -/
theorem payload_within_bounds (spec : P2PWireSpec) (fallbackRouteID : String) :
    let wire := normalizeP2PWireSpec spec fallbackRouteID
    (32 ≤ wire.payloadMinBytes ∧ wire.payloadMinBytes ≤ wire.payloadMaxBytes ∧
      wire.payloadMaxBytes ≤ 1024 ∧ normalizeP2PWireSpec wire fallbackRouteID = wire ∧
      ∀ (pkt : Packet) draw padding payload, pkt.payloadMinBytes = wire.payloadMinBytes →
        pkt.payloadMaxBytes = wire.payloadMaxBytes →
        encodeUDPPacketPayload pkt draw padding = some payload →
        max (pkt.baseLen : Int) wire.payloadMinBytes ≤ payload.length ∧
          payload.length ≤ max (pkt.baseLen : Int) wire.payloadMaxBytes) ↔
      spec.payloadMinBytes ≤ 1024 := by
  intro wire
  have bounds : 32 ≤ wire.payloadMinBytes ∧ wire.payloadMaxBytes ≤ 1024 ∧
      (wire.payloadMinBytes ≤ wire.payloadMaxBytes ↔ spec.payloadMinBytes ≤ 1024) := by
    simp only [wire, normalizeP2PWireSpec, defaultWirePayloadMinBytes, defaultWirePayloadMaxBytes]
    omega
  obtain ⟨low, high, inOrder⟩ := bounds
  constructor
  · rintro ⟨-, ordered, -⟩
    exact inOrder.mp ordered
  intro withinCap
  have ordered := inOrder.mpr withinCap
  refine ⟨low, ordered, high, normalizeP2PWireSpec_normalized spec fallbackRouteID, ?_⟩
  intro pkt draw padding payload isMin isMax encoded
  have drawn := randomPayloadTarget_mem (Int.natCast_nonneg pkt.baseLen)
    (show 0 < wire.payloadMinBytes by omega) ordered draw
  rw [length_encodeUDPPacketPayload encoded, Packet.padLen, isMin, isMax]
  omega

def shortPacket (wire : P2PWireSpec) : Packet where
  payloadMinBytes := wire.payloadMinBytes
  payloadMaxBytes := wire.payloadMaxBytes
  sessionID := [115]
  kind := .probe
  role := .visitor
  nominationEpoch := 0
  probePort := 0
  observedAddr := []
  extraReply := false
  timestamp := 0

theorem payload_within_bounds_default :
    let wire := normalizeP2PWireSpec ⟨"route", 0, 0⟩ ""
    ∃ payload, encodeUDPPacketPayload (shortPacket wire) 7 (fun _ => 0) = some payload ∧
      max ((shortPacket wire).baseLen : Int) wire.payloadMinBytes ≤ payload.length ∧
        payload.length ≤ max ((shortPacket wire).baseLen : Int) wire.payloadMaxBytes :=
  ⟨_, rfl, ((payload_within_bounds ⟨"route", 0, 0⟩ "").mpr (by decide)).2.2.2.2 _ _ _ _ rfl rfl rfl⟩

/-- A lower bound of 2000 bytes stays above the upper bound, and the payload is that long. -/
theorem payload_beyond_cap :
    let wire := normalizeP2PWireSpec ⟨"route", 2000, 0⟩ ""
    wire.payloadMinBytes = 2000 ∧ wire.payloadMaxBytes = 1024 ∧
      (shortPacket wire).baseLen = 23 ∧ ∃ payload,
        encodeUDPPacketPayload (shortPacket wire) 0 (fun _ => 0) = some payload ∧
        payload.length = 2000 :=
  ⟨rfl, rfl, rfl, _, rfl, by decide +kernel⟩

end DeepNps.P2P.Wire
