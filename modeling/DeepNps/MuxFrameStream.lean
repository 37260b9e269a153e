import DeepNps.MuxFrameCodec
import DeepNps.Segments

/-!
# Frames off a connection

Wherever the segments of a connection are cut, a session reader gets the frames that were
packed, and reports an error when the stream ends within a frame.
-/

namespace DeepNps.Mux.MuxPackager

open ByteOrder List Option

section Reader

variable {Stream Other : Type} (readFull : Nat → Stream → Option (List UInt8 × Stream))

/-- The frames of so many calls, and the stream behind them; none if a call fails. -/
def unPacks : Nat → Stream → Option (List MuxPackager × Stream)
  | 0, stream => some ([], stream)
  | calls + 1, stream =>
      match unPackWith readFull stream with
      | some (.ok packager, stream) =>
          (unPacks calls stream).map fun (packagers, stream) => (packager :: packagers, stream)
      | _ => none

section Related

variable {readFull} {others : Nat → Other → Option (List UInt8 × Other)}
  {related : Stream → Other → Prop}
  (reads : ∀ count stream other field rest, related stream other →
    readFull count stream = some (field, rest) →
    ∃ left, others count other = some (field, left) ∧ related rest left)
  {stream rest : Stream} {other : Other} (isRelated : related stream other)

include reads isRelated

theorem unPackContent_of_related {content : Except String (List UInt8)}
    (isUnpacked : unPackContent readFull stream = some (content, rest)) :
    ∃ left, unPackContent others other = some (content, left) ∧ related rest left := by
  obtain ⟨⟨head, behind⟩, isHead, isUnpacked⟩ := bind_eq_some_iff.mp isUnpacked
  obtain ⟨left, headRead, headRelated⟩ := reads _ _ _ _ _ isRelated isHead
  rw [unPackContent, headRead, bind_some]
  dsimp only at isUnpacked ⊢
  split_ifs at isUnpacked ⊢
  · cases isUnpacked
    exact ⟨left, rfl, headRelated⟩
  · obtain ⟨_, isField, same⟩ := map_eq_some_iff.mp isUnpacked
    cases same
    obtain ⟨left, fieldRead, fieldRelated⟩ := reads _ _ _ _ _ headRelated isField
    exact ⟨left, by rw [fieldRead]; rfl, fieldRelated⟩

theorem unPackWith_of_related {result : Except String MuxPackager}
    (isUnpacked : unPackWith readFull stream = some (result, rest)) :
    ∃ left, unPackWith others other = some (result, left) ∧ related rest left := by
  obtain ⟨⟨head, behind⟩, isHead, isUnpacked⟩ := bind_eq_some_iff.mp isUnpacked
  obtain ⟨left, headRead, headRelated⟩ := reads _ _ _ _ _ isRelated isHead
  rw [unPackWith, headRead, bind_some]
  dsimp only at isUnpacked ⊢
  split_ifs at isUnpacked ⊢
  · obtain ⟨_, isContent, same⟩ := map_eq_some_iff.mp isUnpacked
    cases same
    obtain ⟨left, contentRead, contentRelated⟩ :=
      unPackContent_of_related reads headRelated isContent
    exact ⟨left, by rw [contentRead]; rfl, contentRelated⟩
  · obtain ⟨_, isField, same⟩ := map_eq_some_iff.mp isUnpacked
    cases same
    obtain ⟨left, fieldRead, fieldRelated⟩ := reads _ _ _ _ _ headRelated isField
    exact ⟨left, by rw [fieldRead]; rfl, fieldRelated⟩
  · cases isUnpacked
    exact ⟨left, rfl, headRelated⟩

end Related

end Reader

/-- The source gives the complete ones of the frames and then an error within the next frame. -/
def EndsWithin (packagers : List MuxPackager) (source : Segments.Source UInt8) : Prop :=
  ∃ complete packager others rest, packagers = complete ++ packager :: others ∧
    unPacks Segments.readFull complete.length source = some (complete.map onWire, rest) ∧
    Segments.contents rest <+: packager.pack ∧ unPackWith Segments.readFull rest = none

variable {bytes more : List UInt8} {source rest : Segments.Source UInt8}
  {result : Except String MuxPackager}

theorem unPack_append (isUnpacked : unPack bytes = some (result, more)) (tail : List UInt8) :
    unPack (bytes ++ tail) = some (result, more ++ tail) := by
  have reads (count : Nat) (bytes other field rest : List UInt8) (isOther : other = bytes ++ tail)
      (isRead : readFull count bytes = some (field, rest)) :
      ∃ left, readFull count other = some (field, left) ∧ left = rest ++ tail := by
    grind [readFull]
  obtain ⟨_, isSame, rfl⟩ := unPackWith_of_related reads rfl isUnpacked
  exact isSame

theorem unPack_contents (isUnpacked : unPackWith Segments.readFull source = some (result, rest)) :
    unPack (Segments.contents source) = some (result, Segments.contents rest) := by
  have reads (count : Nat) (source : Segments.Source UInt8) (bytes field : List UInt8)
      (rest : Segments.Source UInt8)
      (isContents : bytes = Segments.contents source)
      (isRead : Segments.readFull count source = some (field, rest)) :
      ∃ left, readFull count bytes = some (field, left) ∧ left = Segments.contents rest := by
    obtain ⟨contentsEq, lengthEq⟩ := Segments.contents_of_readFull isRead
    rw [isContents, contentsEq]
    exact ⟨_, readFull_append lengthEq _, rfl⟩
  obtain ⟨_, isSame, rfl⟩ := unPackWith_of_related reads rfl isUnpacked
  exact isSame

theorem unPackWith_pack {packager : MuxPackager} (encodable : packager.Encodable)
    (isStream : Segments.contents source = packager.pack ++ more) :
    ∃ rest, unPackWith Segments.readFull source = some (.ok packager.onWire, rest) ∧
      more = Segments.contents rest := by
  have isUnpacked := unPack_pack_append encodable more
  rw [← isStream] at isUnpacked
  have reads (count : Nat) (bytes : List UInt8) (source : Segments.Source UInt8)
      (field more : List UInt8) (isContents : bytes = Segments.contents source)
      (isRead : readFull count bytes = some (field, more)) :
      ∃ rest, Segments.readFull count source = some (field, rest) ∧
        more = Segments.contents rest := by
    obtain ⟨isLength, isStream⟩ : field.length = count ∧ bytes = field ++ more := by
      grind [readFull, take_append_drop]
    obtain ⟨rest, fieldRead, isRest⟩ :=
      Segments.readFull_of_contents isLength (isContents ▸ isStream)
    exact ⟨rest, fieldRead, isRest.symm⟩
  exact unPackWith_of_related reads rfl isUnpacked

theorem unPacks_pack {packagers : List MuxPackager}
    (encodable : ∀ packager ∈ packagers, packager.Encodable)
    (isStream : Segments.contents source = packagers.flatMap pack ++ more) :
    ∃ rest, unPacks Segments.readFull packagers.length source =
        some (packagers.map onWire, rest) ∧ more = Segments.contents rest := by
  induction packagers generalizing source with
  | nil => exact ⟨source, rfl, isStream.symm⟩
  | cons packager packagers ih =>
    rw [flatMap_cons, append_assoc] at isStream
    obtain ⟨rest, isUnpacked, isRest⟩ :=
      unPackWith_pack (encodable packager mem_cons_self) isStream
    obtain ⟨last, areUnpacked, isLast⟩ := ih
      (fun other isOther => encodable other (mem_cons_of_mem _ isOther)) isRest.symm
    exact ⟨last, by simp [unPacks, isUnpacked, areUnpacked], isLast⟩

theorem unPackWith_eq_none {packager : MuxPackager} (encodable : packager.Encodable)
    {missing : List UInt8} (isMissing : missing ≠ [])
    (isStream : Segments.contents source ++ missing = packager.pack) :
    unPackWith Segments.readFull source = none := by
  by_contra isUnpacked
  obtain ⟨⟨_, _⟩, isUnpacked⟩ := ne_none_iff_exists'.mp isUnpacked
  have isWhole := unPack_append (unPack_contents isUnpacked) missing
  rw [isStream, ← append_nil packager.pack, unPack_pack_append encodable] at isWhole
  have isNil := congrArg Prod.snd (some_inj.mp isWhole)
  exact isMissing (append_eq_nil_iff.mp isNil.symm).2

theorem endsWithin_of_missing {packagers : List MuxPackager}
    (encodable : ∀ packager ∈ packagers, packager.Encodable) {missing : List UInt8}
    (isMissing : missing ≠ [])
    (isStream : Segments.contents source ++ missing = packagers.flatMap pack) :
    EndsWithin packagers source := by
  induction packagers generalizing source with
  | nil => exact absurd (append_eq_nil_iff.mp isStream).2 isMissing
  | cons packager packagers ih =>
    have isFirst := encodable packager mem_cons_self
    rw [flatMap_cons] at isStream
    -- the frame is there as a whole, or the stream ends within it
    have goesOn (more : List UInt8) (isSource : Segments.contents source = packager.pack ++ more)
        (isRest : more ++ missing = packagers.flatMap pack) :
        EndsWithin (packager :: packagers) source := by
      obtain ⟨rest, isUnpacked, rfl⟩ := unPackWith_pack isFirst isSource
      obtain ⟨complete, last, others, left, rfl, areUnpacked, isCut⟩ := ih
        (fun other isOther => encodable other (mem_cons_of_mem _ isOther)) isRest
      exact ⟨packager :: complete, last, others, left, rfl,
        by simp [unPacks, isUnpacked, areUnpacked], isCut⟩
    rcases append_eq_append_iff.mp isStream with ⟨cut, isPack, isRest⟩ | ⟨_, isSource, isRest⟩
    · cases cut with
      | nil => exact goesOn [] (by simpa using isPack.symm) isRest
      | cons => exact ⟨[], packager, packagers, source, rfl, rfl, ⟨_, isPack.symm⟩,
          unPackWith_eq_none isFirst (cons_ne_nil _ _) isPack.symm⟩
    · exact goesOn _ isSource isRest.symm

/-- The frames come off the wire as they were set, whatever the segments are, and nothing but
their bytes is taken.  A stream that ends early gives its complete frames and then an error. -/
theorem frames_come_through (packagers : List MuxPackager)
    (areSet : ∀ packager ∈ packagers, ∃ priority flag id content,
      set priority flag id content = .ok packager) (source : Segments.Source UInt8) :
    (∀ more, Segments.contents source = packagers.flatMap pack ++ more →
      ∃ rest, unPacks Segments.readFull packagers.length source =
        some (packagers.map onWire, rest) ∧ Segments.contents rest = more) ∧
    (∀ missing ≠ [], Segments.contents source ++ missing = packagers.flatMap pack →
      EndsWithin packagers source) := by
  have encodable : ∀ packager ∈ packagers, packager.Encodable := by
    intro packager isPackager
    obtain ⟨_, _, _, _, isSet⟩ := areSet packager isPackager
    exact (set_encodable isSet).1
  refine ⟨fun more isStream => ?_,
    fun missing isMissing => endsWithin_of_missing encodable isMissing⟩
  obtain ⟨rest, areUnpacked, isMore⟩ := unPacks_pack encodable isStream
  exact ⟨rest, areUnpacked, isMore.symm⟩

/-- Two frames in segments that end where no field ends. -/
theorem frames_come_through_two :
    let packagers : List MuxPackager :=
      [{ flag := muxNewMsg, id := 1, content := [7, 8, 9] }, { flag := muxNewConn, id := 2 }]
    let source := Segments.ofParts [[3, 1, 0], [0, 0, 3, 0, 7], [8, 9, 6, 2, 0, 0, 0, 5]]
    ∃ rest, unPacks Segments.readFull 2 source = some (packagers.map onWire, rest) ∧
      Segments.contents rest = [5] := by
  intro packagers source
  refine (frames_come_through packagers ?_ source).1 [5] rfl
  intro packager isPackager
  rcases mem_pair.mp isPackager with rfl | rfl
  · exact ⟨false, muxNewMsg, 1, .bytes [7, 8, 9], rfl⟩
  · exact ⟨false, muxNewConn, 2, .nil, rfl⟩

end DeepNps.Mux.MuxPackager
