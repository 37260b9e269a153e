import DeepNps.P2PReplayWindow

/-!
# Flooding a replay window

A window that remembers only so many nonces can be made to forget one that it still has to
refuse.
-/

namespace DeepNps.P2P.Receiver

open ReplayWindow List

def flooding (now : Int) (index : Nat) : Arrival where
  now
  timestampMs := now + index
  nonce := String.ofList (List.replicate (index + 1) 'n')

def flood (now : Int) (count : Nat) : List Arrival := (List.range count).map (flooding now)

def floodSeen (now : Int) (count : Nat) : List ReplaySeen :=
  ((flood now count).map Arrival.seen).reverse

theorem mem_floodSeen {now : Int} {count : Nat} {seen : ReplaySeen} :
    seen ∈ floodSeen now count ↔ ∃ index < count, (flooding now index).seen = seen := by
  simp [floodSeen, flood]

/-- Every packet of a flood was accepted and is remembered. -/
structure Flooded (window : ReplayWindow) (now : Int) (count : Nat) (receiver : Receiver) :
    Prop where
  maxAge : receiver.window.maxAge = window.maxAge
  maxEntries : receiver.window.maxEntries = window.maxEntries
  clock : receiver.clock ≤ now
  observed : receiver.window.observed.records = floodSeen now count
  accepted : ∀ index < count,
    ((flooding now index).nonce, (flooding now index).timestampMs) ∈ receiver.accepted

section Flood

variable {window : ReplayWindow} {receiver : Receiver} {now : Int} {count index : Nat}

section

variable (flooded : Flooded window now count receiver)

include flooded

theorem Flooded.windowMs : receiver.window.windowMs = window.windowMs :=
  congrArg milliseconds flooded.maxAge

theorem Flooded.len : receiver.window.len = count := by
  simp [ReplayWindow.len, flooded.observed, floodSeen, flood]

theorem Flooded.expire (isNonneg : 0 ≤ window.windowMs) :
    receiver.window.expire (now - receiver.window.windowMs) = receiver.window := by
  have kept : receiver.window.observed.filter
      (fun seen => ¬ seen.ts < now - receiver.window.windowMs) = receiver.window.observed := by
    apply Table.ext
    apply filter_eq_self.mpr
    intro _ isSeen
    rw [flooded.observed, mem_floodSeen] at isSeen
    obtain ⟨index, -, rfl⟩ := isSeen
    rw [flooded.windowMs, decide_eq_true_iff]
    change ¬ now + index < now - window.windowMs
    omega
  rw [ReplayWindow.expire, kept, ReplayWindow.setObserved]

end

theorem Flooded.accept (flooded : Flooded window now count receiver) (isPositive : 0 < now)
    (isRecent : index ≤ window.windowMs) :
    receiver.window.accept now (flooding now index).timestampMs (flooding now index).nonce =
      receiver.window.pruneOverflow.observe (flooding now index).timestampMs
        (flooding now index).nonce := by
  have isText : (flooding now index).nonce ≠ "" := by
    intro isEmpty
    have lengths := congrArg (fun nonce : String => nonce.toList.length) isEmpty
    simp [flooding] at lengths
  have isInWindow : receiver.window.inWindow now (flooding now index).timestampMs
      (flooding now index).nonce = true := by
    rw [inWindow, decide_eq_true_iff, flooded.windowMs]
    refine ⟨?_, ?_⟩
    · rintro (isEmpty | isOld)
      · exact isText isEmpty
      · change now + index ≤ 0 at isOld
        omega
    · change ¬ (now + index < now - window.windowMs ∨ now + window.windowMs < now + index)
      omega
  rw [ReplayWindow.accept, if_pos isInWindow, flooded.expire (by omega)]

theorem Flooded.step (flooded : Flooded window now count receiver) (isPositive : 0 < now)
    (isRecent : count ≤ window.windowMs) (hasRoom : count < window.maxEntries) :
    ∃ next, receiver.step (flooding now count) = some next ∧
      Flooded window now (count + 1) next := by
  have isFresh : ∀ seen ∈ receiver.window.observed.records,
      seen.nonce ≠ (flooding now count).nonce := by
    intro _ isSeen sameNonce
    rw [flooded.observed, mem_floodSeen] at isSeen
    obtain ⟨_, isEarlier, rfl⟩ := isSeen
    have lengths := congrArg (fun nonce : String => nonce.toList.length) sameNonce
    exact isEarlier.ne (by simpa [flooding, Arrival.seen] using lengths)
  have accepts : receiver.window.accept now (flooding now count).timestampMs
      (flooding now count).nonce = (true, receiver.window.remember (flooding now count).seen) := by
    rw [flooded.accept isPositive isRecent, pruneOverflow_of_lt
      (by rw [flooded.len, flooded.maxEntries]; exact hasRoom), observe,
      Table.get_eq_none_iff.mpr isFresh]
    rfl
  refine ⟨_, step_of_accept flooded.clock accepts, ?_⟩
  · refine ⟨flooded.maxAge, flooded.maxEntries, Int.le_refl now, ?_, ?_⟩
    · have kept : (receiver.window.observed.delete (flooding now count).nonce).records =
          receiver.window.observed.records :=
        filter_eq_self.mpr fun seen isSeen => by simpa using isFresh seen isSeen
      change (flooding now count).seen ::
        (receiver.window.observed.delete (flooding now count).nonce).records = _
      rw [kept, flooded.observed, floodSeen, floodSeen, flood, flood, range_succ]
      simp
    · intro index isFlooded
      rcases Nat.lt_succ_iff_lt_or_eq.mp isFlooded with isEarlier | rfl
      · exact mem_cons_of_mem _ (flooded.accepted index isEarlier)
      · exact mem_cons_self

end Flood

end DeepNps.P2P.Receiver
