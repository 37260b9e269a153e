import DeepNps.MuxReceiveWindow

/-!
# The bytes a receive window holds

How each action on a window changes the number of bytes held; a segment that is partly
read counts whole until its last byte is copied.
-/

namespace DeepNps.Mux

open List UInt32

theorem toUInt32_eq_ofNat (l : UInt16) : l.toUInt32 = UInt32.ofNat l.toNat := by
  apply UInt32.toNat_inj.mp
  have small := l.toNat_lt
  rw [UInt16.toNat_toUInt32, UInt32.toNat_ofNat', Nat.mod_eq_of_lt (by omega)]

theorem sum_toUInt32 (elements : List ListElement) :
    (elements.map fun element => element.l.toUInt32).sum =
      ofNat (elements.map fun element => element.l.toNat).sum := by
  induction elements with
  | nil => rfl
  | cons _ _ ih =>
    rw [map_cons, sum_cons, ih, map_cons, sum_cons, ofNat_add, toUInt32_eq_ofNat]

namespace ReceiveWindow

def held (window : ReceiveWindow) : Nat :=
  (window.queue.map fun element => element.l.toNat).sum + window.currentLength.toNat

variable {window : ReceiveWindow}

theorem calcSize_eq (cfg : MuxConfig) (sample : SizeSample) (window : ReceiveWindow) :
    ∃ word count, window.calcSize cfg sample =
      { window with maxSizeDone := word, count := count } := by
  rw [calcSize]
  split_ifs
  · exact ⟨_, _, rfl⟩
  · exact ⟨_, _, rfl⟩

theorem held_push (window : ReceiveWindow) (element : ListElement) :
    (window.push element).held = window.held + element.l.toNat := by
  show (map _ (window.queue ++ [element])).sum + window.currentLength.toNat = _
  rw [map_append, sum_append, map_singleton, sum_singleton, held]
  omega

theorem held_closeWindow (window : ReceiveWindow) : window.closeWindow.held = 0 := by
  simp [closeWindow_eq, held, currentLength]

variable {element : ListElement}

theorem length_unread_le (isElement : window.element = some element) :
    window.unread.length ≤ element.l.toNat - window.off.toNat := by
  simp only [unread, isElement, ListElement.bytes, length_drop, length_take]
  omega

theorem currentLength_eq (isElement : window.element = some element) :
    window.currentLength = if window.off.toNat < element.l.toNat then element.l else 0 := by
  simp only [currentLength, isElement, lt_iff_toNat_lt, UInt16.toNat_toUInt32]

theorem atEnd_iff (window : ReceiveWindow) (element : ListElement) :
    window.atEnd element = true ↔ window.off.toNat = element.l.toNat := by
  rw [atEnd, beq_iff_eq, ← UInt32.toNat_inj, UInt16.toNat_toUInt32]

section

variable (isElement : window.element = some element)

include isElement

theorem copy_off (offLe : window.off.toNat ≤ element.l.toNat) (room : Nat) :
    (window.copy room).2.off.toNat ≤ element.l.toNat := by
  have small := element.l.toNat_lt
  have unreadLe := length_unread_le isElement
  simp only [copy, UInt32.toNat_add, UInt32.toNat_ofNat', length_take]
  omega

theorem currentLength_of_atEnd (ended : window.atEnd element = true) :
    window.currentLength = 0 := by
  rw [currentLength_eq isElement, if_neg (by rw [(atEnd_iff _ _).mp ended]; omega)]

theorem currentLength_of_inside (offLe : window.off.toNat ≤ element.l.toNat)
    (inside : ¬ window.atEnd element = true) : window.currentLength = element.l := by
  rw [currentLength_eq isElement, if_pos]
  exact lt_of_le_of_ne offLe fun same => inside ((atEnd_iff _ _).mpr same)

theorem held_copy (current : window.currentLength = element.l)
    (offLe : window.off.toNat ≤ element.l.toNat) (room : Nat) :
    if (window.copy room).2.atEnd element then
      window.held = (window.copy room).2.held + element.l.toNat ∧
        (window.copy room).2.currentLength = 0
    else (window.copy room).2.held = window.held := by
  have staysElement : (window.copy room).2.element = some element := isElement
  have sameQueue : (window.copy room).2.queue = window.queue := rfl
  split_ifs with ended
  · have nothing := currentLength_of_atEnd staysElement ended
    refine ⟨?_, nothing⟩
    rw [held, held, nothing, current, sameQueue]
    rfl
  · have inside := currentLength_of_inside staysElement (copy_off isElement offLe room) ended
    rw [held, held, inside, current, sameQueue]

end

theorem pop_eq_element {after : ReceiveWindow} (popped : window.pop = .element element after) :
    ∃ rest, window.queue = element :: rest ∧ after =
      { window with queue := rest, queueLength := window.queueLength - element.l.toUInt32 } := by
  rw [pop] at popped
  split_ifs at popped
  cases isQueue : window.queue with
  | nil => simp [tryPop, isQueue] at popped
  | cons _ rest =>
    simp only [tryPop, isQueue, PopResult.element.injEq] at popped
    obtain ⟨rfl, rfl⟩ := popped
    exact ⟨rest, rfl, rfl⟩

theorem held_next (nothing : window.currentLength = 0) {after : ReceiveWindow}
    (popped : window.pop = .element element after) :
    ({ after with element := some element, off := 0 } : ReceiveWindow).held = window.held ∧
      ({ after with element := some element, off := 0 } : ReceiveWindow).currentLength =
        element.l := by
  obtain ⟨rest, isQueue, rfl⟩ := pop_eq_element popped
  have whole : ({ window with
      queue := rest
      queueLength := window.queueLength - element.l.toUInt32
      element := some element
      off := 0 } : ReceiveWindow).currentLength = element.l := by
    rw [currentLength_eq rfl]
    split_ifs with positive
    · rfl
    · apply UInt16.toNat_inj.mp
      simp only [UInt32.toNat_zero, UInt16.toNat_zero] at positive ⊢
      omega
  refine ⟨?_, whole⟩
  rw [held, held, whole, nothing, isQueue]
  simp only [map_cons, sum_cons, UInt16.toNat_zero]
  omega

theorem held_dropElement (nothing : window.currentLength = 0) :
    ({ window with element := none, off := 0 } : ReceiveWindow).held = window.held := by
  rw [held, held, nothing]
  rfl

end ReceiveWindow

end DeepNps.Mux
