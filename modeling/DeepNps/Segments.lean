import Mathlib.Data.List.Basic

/-!
# Streams that arrive in segments

What is written to a connection arrives in segments cut anywhere.  A read returns no more
than one segment, and no more than it has room for.
-/

namespace DeepNps.Segments

open List

variable {Item : Type*}

abbrev Segment (Item : Type*) : Type _ := { items : List Item // items ≠ [] }

abbrev Source (Item : Type*) : Type _ := List (Segment Item)

/-- The parts of a list of parts that are not empty. -/
def ofParts (parts : List (List Item)) : Source Item :=
  parts.filterMap fun part => if nonempty : part ≠ [] then some ⟨part, nonempty⟩ else none

def contents (source : Source Item) : List Item := (source.map Subtype.val).flatten

/-- Read at most `size` items; there is no result when nothing more arrives. -/
def read (size : Nat) : Source Item → Option (List Item × Source Item)
  | [] => none
  | segment :: rest =>
      if fits : segment.val.length ≤ size then some (segment.val, rest)
      else
        have nonempty : segment.val.drop size ≠ [] := by
          rw [ne_eq, List.drop_eq_nil_iff]
          exact fits
        some (segment.val.take size, ⟨segment.val.drop size, nonempty⟩ :: rest)

section Rules

variable {size : Nat} {source rest : Source Item} {items : List Item}

@[simp]
theorem contents_nil : contents ([] : Source Item) = [] := rfl

@[simp]
theorem contents_cons (segment : Segment Item) (source : Source Item) :
    contents (segment :: source) = segment.val ++ contents source :=
  rfl

theorem read_eq_none_iff : read size source = none ↔ source = [] := by
  cases source with
  | nil => simp [read]
  | cons =>
    rw [read]
    split_ifs <;> simp

section

variable (isRead : read size source = some (items, rest))

include isRead

theorem contents_of_read : contents source = items ++ contents rest := by
  cases source with
  | nil => cases isRead
  | cons =>
    rw [read] at isRead
    split_ifs at isRead with fits
    · cases isRead
      rfl
    · cases isRead
      simp only [contents_cons]
      rw [← append_assoc, take_append_drop]

theorem length_le_of_read : items.length ≤ size := by
  cases source with
  | nil => cases isRead
  | cons =>
    rw [read] at isRead
    split_ifs at isRead with fits
    · cases isRead
      exact fits
    · cases isRead
      exact length_take_le ..

theorem ne_nil_of_read (hasRoom : 0 < size) : items ≠ [] := by
  cases source with
  | nil => cases isRead
  | cons segment =>
    rw [read] at isRead
    split_ifs at isRead with fits
    · cases isRead
      exact segment.property
    · cases isRead
      rw [ne_eq, take_eq_nil_iff]
      rintro (isZero | isNil)
      · omega
      · exact segment.property isNil

theorem length_contents_lt_of_read (nonempty : items ≠ []) :
    (contents rest).length < (contents source).length := by
  rw [contents_of_read isRead, length_append]
  have := length_pos_of_ne_nil nonempty
  omega

/-- A read takes a whole segment, or as much as it has room for. -/
theorem cons_or_full_of_read :
    (∃ segment : Segment Item, segment.val = items ∧ source = segment :: rest) ∨
      items.length = size := by
  cases source with
  | nil => cases isRead
  | cons segment =>
    rw [read] at isRead
    split_ifs at isRead with fits
    · cases isRead
      exact .inl ⟨segment, rfl, rfl⟩
    · cases isRead
      right
      rw [length_take]
      omega

end

/-- A segment ends where the items end that arrive first. -/
def EndsAt (source : Source Item) (items : List Item) : Prop :=
  ∃ arrived later, source = arrived ++ later ∧ contents arrived = items

theorem endsAt_nil (source : Source Item) : EndsAt source [] := ⟨[], source, rfl, rfl⟩

theorem EndsAt.cons (ends : EndsAt source items) (segment : Segment Item) :
    EndsAt (segment :: source) (segment.val ++ items) := by
  obtain ⟨arrived, later, rfl, rfl⟩ := ends
  exact ⟨segment :: arrived, later, rfl, rfl⟩

/-- Such an end is not read over, if there is room up to it. -/
theorem EndsAt.read {wanted : List Item} (ends : EndsAt source wanted) (nonempty : wanted ≠ [])
    (room : wanted.length ≤ size) (isRead : read size source = some (items, rest)) :
    ∃ more, items ++ more = wanted ∧ EndsAt rest more := by
  obtain ⟨arrived, later, rfl, rfl⟩ := ends
  cases arrived with
  | nil => exact absurd rfl nonempty
  | cons segment arrived =>
    rw [contents_cons, length_append] at room
    rw [cons_append, Segments.read, dif_pos (by omega)] at isRead
    cases isRead
    exact ⟨contents arrived, rfl, arrived, later, rfl, rfl⟩

end Rules

/-- `io.ReadFull`: read until there are `count` items. -/
def readFull (count : Nat) (source : Source Item) : Option (List Item × Source Item) :=
  if isZero : count = 0 then some ([], source)
  else
    match isRead : read count source with
    | none => none
    | some (items, rest) =>
        have := length_contents_lt_of_read isRead (ne_nil_of_read isRead (by omega))
        (readFull (count - items.length) rest).map fun more => (items ++ more.1, more.2)
termination_by (contents source).length

theorem contents_of_readFull {count : Nat} {source rest : Source Item} {items : List Item}
    (isRead : readFull count source = some (items, rest)) :
    contents source = items ++ contents rest ∧ items.length = count := by
  fun_induction readFull count source generalizing items with
  | case1 =>
    cases isRead
    exact ⟨rfl, rfl⟩
  | case2 => cases isRead
  | case3 _ _ _ _ _ firstRead _ ih =>
    obtain ⟨⟨more, last⟩, moreRead, same⟩ := Option.map_eq_some_iff.mp isRead
    cases same
    obtain ⟨contentsEq, lengthEq⟩ := ih moreRead
    have isShort := length_le_of_read firstRead
    refine ⟨?_, ?_⟩
    · rw [contents_of_read firstRead, contentsEq, append_assoc]
    · rw [length_append, lengthEq]
      omega

theorem exists_of_length_le {count : Nat} {source : Source Item}
    (isLong : count ≤ (contents source).length) :
    ∃ items rest, readFull count source = some (items, rest) := by
  fun_induction readFull count source with
  | case1 => exact ⟨_, _, rfl⟩
  | case2 _ _ _ isRead =>
    rw [read_eq_none_iff.mp isRead] at isLong
    exact absurd isLong (by simpa using ‹_›)
  | case3 _ _ _ items rest firstRead _ ih =>
    rw [contents_of_read firstRead, length_append] at isLong
    obtain ⟨more, last, moreRead⟩ := ih (by omega)
    exact ⟨items ++ more, last, by rw [moreRead]; rfl⟩

theorem readFull_of_contents {count : Nat} {source : Source Item} {items more : List Item}
    (isLength : items.length = count) (isStream : contents source = items ++ more) :
    ∃ rest, readFull count source = some (items, rest) ∧ contents rest = more := by
  have isLong : count ≤ (contents source).length := by
    rw [isStream, length_append]
    omega
  obtain ⟨field, rest, isRead⟩ := exists_of_length_le isLong
  obtain ⟨contentsEq, lengthEq⟩ := contents_of_readFull isRead
  obtain ⟨rfl, rfl⟩ :=
    append_inj (contentsEq.symm.trans isStream) (lengthEq.trans isLength.symm)
  exact ⟨rest, isRead, rfl⟩

end DeepNps.Segments
