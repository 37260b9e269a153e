import DeepNps.ByteOrder
import DeepNps.MuxFrame

/-!
# Frames on the wire

Every frame that `Set` has built is read back by `UnPack` as `Pack` wrote it, up to the
priority flag, which is not written.
-/

namespace DeepNps.Mux

open ByteOrder Option

namespace MuxPackager

def pack (packager : MuxPackager) : List UInt8 :=
  packager.flag :: putLittleEndian 4 packager.id.toUInt32.toNat ++
    if carriesContent packager.flag then
      putLittleEndian 2 (UInt16.ofNat packager.content.length).toNat ++ packager.content
    else if packager.flag == muxMsgSendOk then putLittleEndian 8 packager.window.toNat
    else []

section Reader

variable {Stream : Type} (readFull : Nat → Stream → Option (List UInt8 × Stream))

/-- `basePackager.UnPack`: the length and the content. -/
def unPackContent (stream : Stream) : Option (Except String (List UInt8) × Stream) :=
  (readFull 2 stream).bind fun (head, stream) =>
    let length := littleEndian head
    if maximumSegmentSize < length then
      some (.error "mux:packer: unpack content segment too large", stream)
    else (readFull length stream).map fun (content, stream) => (.ok content, stream)

/-- `muxPackager.UnPack` with the reader that `io.ReadFull` reads from.  There is no result while
the frame is incomplete. -/
def unPackWith (stream : Stream) : Option (Except String MuxPackager × Stream) :=
  (readFull 5 stream).bind fun (head, stream) =>
    let flag := head.headD 0
    let id := (UInt32.ofNat (littleEndian head.tail)).toInt32
    if carriesContent flag then
      (unPackContent readFull stream).map fun (content, stream) =>
        (content.map fun content => { flag := flag, id := id, content := content }, stream)
    else if flag == muxMsgSendOk then
      (readFull 8 stream).map fun (word, stream) =>
        (.ok { flag := flag, id := id, window := UInt64.ofNat (littleEndian word) }, stream)
    else some (.ok { flag := flag, id := id }, stream)

end Reader

def unPack (stream : List UInt8) : Option (Except String MuxPackager × List UInt8) :=
  unPackWith readFull stream

def onWire (packager : MuxPackager) : MuxPackager := { packager with priority := false }

/-- A frame that carries what its flag calls for and nothing else. -/
structure Encodable (packager : MuxPackager) : Prop where
  content_le : packager.content.length ≤ maximumSegmentSize
  noContent : carriesContent packager.flag = false → packager.content = []
  noWindow : packager.flag ≠ muxMsgSendOk → packager.window = 0

variable {packager : MuxPackager}

theorem set_encodable {priority : Bool} {flag : UInt8} {id : Int32} {content : FrameData}
    (isSet : set priority flag id content = .ok packager) :
    packager.Encodable ∧ packager.flag = flag ∧ packager.id = id ∧
      packager.priority = priority := by
  simp only [set] at isSet
  cases carries : carriesContent flag with
  | true =>
    rw [carries, if_pos rfl] at isSet
    cases content with
    | nil => cases isSet
    | window => cases isSet
    | bytes =>
      simp only [basePackagerSet] at isSet
      split_ifs at isSet with isEmpty tooLarge
      cases isSet
      exact ⟨⟨by simpa using tooLarge, by simp [carries], fun _ => rfl⟩, rfl, rfl, rfl⟩
  | false =>
    rw [carries, if_neg Bool.false_ne_true] at isSet
    split_ifs at isSet with isUpdate
    · cases content with
      | nil | bytes => cases isSet
      | window =>
        cases isSet
        refine ⟨⟨Nat.zero_le _, fun _ => rfl, ?_⟩, rfl, rfl, rfl⟩
        intro notUpdate
        exact absurd (by simpa using isUpdate) notUpdate
    · cases isSet
      exact ⟨⟨Nat.zero_le _, fun _ => rfl, fun _ => rfl⟩, rfl, rfl, rfl⟩

theorem unPackContent_append {content : List UInt8} (short : content.length ≤ maximumSegmentSize)
    (rest : List UInt8) :
    unPackContent readFull
        (putLittleEndian 2 (UInt16.ofNat content.length).toNat ++ content ++ rest) =
      some (.ok content, rest) := by
  have fits : content.length < 2 ^ 16 := Nat.lt_of_le_of_lt short (by decide)
  have length : littleEndian (putLittleEndian 2 (UInt16.ofNat content.length).toNat) =
      content.length := by
    rw [UInt16.toNat_ofNat', Nat.mod_eq_of_lt fits]
    exact littleEndian_putLittleEndian fits
  rw [unPackContent, List.append_assoc, readFull_append (length_putLittleEndian _ _),
    bind_some]
  simp only [length, if_neg (Nat.not_lt.mpr short), readFull_append rfl, map_some]

theorem unPack_pack_append (encodable : packager.Encodable) (rest : List UInt8) :
    unPack (packager.pack ++ rest) = some (.ok packager.onWire, rest) := by
  obtain ⟨flag, id, window, _, _⟩ := packager
  have idFits : id.toUInt32.toNat < 256 ^ 4 := id.toUInt32.toNat_lt
  have windowFits : window.toNat < 256 ^ 8 := window.toNat_lt
  have head : (flag :: putLittleEndian 4 id.toUInt32.toNat).length = 5 := by simp
  have isId : (UInt32.ofNat (littleEndian (putLittleEndian 4 id.toUInt32.toNat))).toInt32 = id := by
    rw [littleEndian_putLittleEndian idFits]
    simp
  rw [unPack, unPackWith, pack, List.append_assoc, readFull_append head, bind_some]
  simp only [List.headD_cons, List.tail_cons, isId]
  cases carries : carriesContent flag with
  | true =>
    have notUpdate : flag ≠ muxMsgSendOk := by
      rintro rfl
      simp [carriesContent] at carries
      revert carries
      decide
    have noWindow := encodable.noWindow notUpdate
    simp only at noWindow
    simp only [if_true, unPackContent_append encodable.content_le, map_some, onWire,
      noWindow]
    rfl
  | false =>
    have noContent := encodable.noContent carries
    simp only at noContent
    simp only [Bool.false_eq_true, if_false]
    split_ifs with isUpdate
    · rw [readFull_append (length_putLittleEndian _ _), map_some,
        littleEndian_putLittleEndian windowFits]
      simp [onWire, noContent]
    · have noWindow := encodable.noWindow (by simpa using isUpdate)
      simp only at noWindow
      simp [onWire, noContent, noWindow]

end MuxPackager

end DeepNps.Mux
