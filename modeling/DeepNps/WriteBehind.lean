import DeepNps.Table

/-!
# Deferred writes

Stored data waits until some thread takes all of it and writes it in a later step.  As
long as nobody takes data while another thread holds some, nothing is lost or reordered.
-/

namespace DeepNps

open List

/-- How stored data joins the data that waits, and what writing data does to a file. -/
structure Medium (Item : Type) where
  hold : List Item → List Item → List Item
  put : List Item → List Item → List Item
  put_nil : ∀ file, put file [] = file
  put_hold : ∀ file pending data, data ≠ [] →
    put file (hold pending data) = put (put file pending) data

namespace Medium

variable {Item : Type}

def replace : Medium Item where
  hold := fun _ data => data
  put := fun file data => if data = [] then file else data
  put_nil := fun _ => if_pos rfl
  put_hold := fun _ _ data some_data => by rw [if_neg some_data, if_neg some_data]

def append : Medium Item where
  hold := fun pending data => pending ++ data
  put := fun file data => file ++ data
  put_nil := List.append_nil
  put_hold := fun _ _ _ _ => (List.append_assoc ..).symm

theorem foldl_replace (file : List Item) (stored : List (List Item))
    (some_data : ∀ data ∈ stored, data ≠ []) :
    stored.foldl replace.put file = stored.getLast?.getD file := by
  rcases eq_nil_or_concat stored with rfl | ⟨front, data, rfl⟩
  · rfl
  · rw [concat_eq_append] at some_data ⊢
    rw [foldl_concat, getLast?_concat]
    exact if_neg (some_data data (by simp))

end Medium

/-- The data that waits, the data taken by threads that have not written it yet, and the
file. -/
structure WriteBehind (Thread Item : Type) where
  pending : List Item
  taken : List (Thread × List Item)
  file : List Item

namespace WriteBehind

variable {Thread Item : Type} (medium : Medium Item)

def store (buffer : WriteBehind Thread Item) (data : List Item) : WriteBehind Thread Item :=
  { buffer with pending := medium.hold buffer.pending data }

def take (buffer : WriteBehind Thread Item) (thread : Thread) : WriteBehind Thread Item :=
  { buffer with
    pending := []
    taken := (thread, buffer.pending) :: buffer.taken }

variable [DecidableEq Thread]

def takenBy (buffer : WriteBehind Thread Item) (thread : Thread) : List Item :=
  (buffer.taken.lookup thread).getD []

def write (buffer : WriteBehind Thread Item) (thread : Thread) : WriteBehind Thread Item :=
  { buffer with
    taken := buffer.taken.filter fun entry => entry.1 ≠ thread
    file := medium.put buffer.file (buffer.takenBy thread) }

def Quiet (buffer : WriteBehind Thread Item) : Prop := ∀ entry ∈ buffer.taken, entry.2 = []

instance [DecidableEq Item] (buffer : WriteBehind Thread Item) : Decidable buffer.Quiet :=
  List.decidableBAll _ buffer.taken

/-- Only one thread may have data that it has not written. -/
def HeldBy (buffer : WriteBehind Thread Item) (holder : Thread) : Prop :=
  ∀ entry ∈ buffer.taken, entry.1 ≠ holder → entry.2 = []

/-- The file, with what is taken and what waits, is a value. -/
def Carries (buffer : WriteBehind Thread Item) (value : List Item) : Prop :=
  ∃ holder, buffer.HeldBy holder ∧
    medium.put (medium.put buffer.file (buffer.takenBy holder)) buffer.pending = value

variable {medium} {buffer : WriteBehind Thread Item} {holder thread : Thread} {value : List Item}

/-! ## What a thread has taken -/

theorem takenBy_take_self : (buffer.take thread).takenBy thread = buffer.pending := by
  simp [takenBy, take]

theorem takenBy_eq_nil (isHolder : buffer.HeldBy holder) (isOther : thread ≠ holder) :
    buffer.takenBy thread = [] := by
  rw [takenBy]
  cases found : buffer.taken.lookup thread with
  | none => rfl
  | some => exact isHolder _ (Assoc.mem_of_lookup found) isOther

theorem takenBy_write (writer : Thread) :
    (buffer.write medium writer).takenBy thread =
      if thread = writer then [] else buffer.takenBy thread := by
  rw [takenBy, takenBy, write, Assoc.lookup_filter_ne]
  split_ifs <;> rfl

theorem takenBy_of_quiet (quiet : buffer.Quiet) (thread : Thread) : buffer.takenBy thread = [] := by
  rw [takenBy]
  cases found : buffer.taken.lookup thread with
  | none => rfl
  | some => exact quiet _ (Assoc.mem_of_lookup found)

/-! ## The value that is carried -/

theorem HeldBy.write (isHolder : buffer.HeldBy holder) (thread : Thread) :
    (buffer.write medium thread).HeldBy holder := fun entry isEntry =>
  isHolder entry (mem_of_mem_filter isEntry)

omit [DecidableEq Thread] in
theorem heldBy_take (quiet : buffer.Quiet) (thread : Thread) :
    (buffer.take thread).HeldBy thread := by
  intro entry isEntry isOther
  rcases mem_cons.mp isEntry with rfl | isOld
  · exact absurd rfl isOther
  · exact quiet entry isOld

section

variable (carries : buffer.Carries medium value)

include carries

theorem Carries.store {data : List Item} (some_data : data ≠ []) :
    (buffer.store medium data).Carries medium (medium.put value data) := by
  obtain ⟨holder, isHolder, valueEq⟩ := carries
  refine ⟨holder, isHolder, ?_⟩
  rw [← valueEq]
  exact medium.put_hold _ _ _ some_data

theorem Carries.take (quiet : buffer.Quiet) (thread : Thread) :
    (buffer.take thread).Carries medium value := by
  obtain ⟨_, -, valueEq⟩ := carries
  rw [takenBy_of_quiet quiet, medium.put_nil] at valueEq
  refine ⟨thread, heldBy_take quiet thread, ?_⟩
  rw [takenBy_take_self]
  exact (medium.put_nil _).trans valueEq

theorem Carries.write (thread : Thread) : (buffer.write medium thread).Carries medium value := by
  obtain ⟨holder, isHolder, valueEq⟩ := carries
  refine ⟨holder, isHolder.write thread, ?_⟩
  rw [← valueEq, takenBy_write]
  change medium.put (medium.put (medium.put buffer.file (buffer.takenBy thread)) _)
    buffer.pending = _
  by_cases isThread : holder = thread
  · rw [if_pos isThread, medium.put_nil, isThread]
  · rw [if_neg isThread, takenBy_eq_nil isHolder (Ne.symm isThread), medium.put_nil]

theorem Carries.file_eq (quiet : buffer.Quiet) (nothing : buffer.pending = []) :
    buffer.file = value := by
  obtain ⟨_, -, valueEq⟩ := carries
  rwa [takenBy_of_quiet quiet, nothing, medium.put_nil, medium.put_nil] at valueEq

end

/-! ## Emptying the buffer -/

/-- Nothing waits, and only one thread may have data left to write. -/
structure DrainedBy (buffer : WriteBehind Thread Item) (holder : Thread) : Prop where
  nothing : buffer.pending = []
  heldBy : buffer.HeldBy holder

omit [DecidableEq Thread] in
theorem drainedBy_take (quiet : buffer.Quiet) (thread : Thread) :
    (buffer.take thread).DrainedBy thread :=
  ⟨rfl, heldBy_take quiet thread⟩

omit [DecidableEq Thread] in
theorem DrainedBy.take (drained : buffer.DrainedBy holder) (thread : Thread) :
    (buffer.take thread).DrainedBy holder := by
  refine ⟨rfl, fun entry isEntry isOther => ?_⟩
  rcases mem_cons.mp isEntry with rfl | isOld
  · exact drained.nothing
  · exact drained.heldBy entry isOld isOther

theorem DrainedBy.write (drained : buffer.DrainedBy holder) (thread : Thread) :
    (buffer.write medium thread).DrainedBy holder :=
  ⟨drained.nothing, drained.heldBy.write thread⟩

/-- Nothing waits and nobody has data left to write. -/
structure Settled (buffer : WriteBehind Thread Item) : Prop where
  nothing : buffer.pending = []
  quiet : buffer.Quiet

theorem DrainedBy.settled_write (drained : buffer.DrainedBy holder) :
    (buffer.write medium holder).Settled :=
  ⟨drained.nothing, fun entry isEntry => drained.heldBy entry (mem_of_mem_filter isEntry)
    (by simpa using (mem_filter.mp isEntry).2)⟩

omit [DecidableEq Thread] in
theorem Settled.take (settled : buffer.Settled) (thread : Thread) :
    (buffer.take thread).Settled := by
  refine ⟨rfl, fun entry isEntry => ?_⟩
  rcases mem_cons.mp isEntry with rfl | isOld
  · exact settled.nothing
  · exact settled.quiet entry isOld

theorem Settled.write (settled : buffer.Settled) (thread : Thread) :
    (buffer.write medium thread).Settled :=
  ⟨settled.nothing, fun entry isEntry => settled.quiet entry (mem_of_mem_filter isEntry)⟩

theorem Settled.carries_file (settled : buffer.Settled) (holder : Thread) (file : List Item) :
    Carries medium { buffer with file := file } file := by
  refine ⟨holder, fun entry isEntry _ => settled.quiet entry isEntry, ?_⟩
  have nothingTaken := takenBy_of_quiet settled.quiet holder
  change medium.put (medium.put file (buffer.takenBy holder)) buffer.pending = file
  rw [nothingTaken, settled.nothing, medium.put_nil, medium.put_nil]

/-! ## Steps of flushing threads -/

/-- A step takes data while nobody else has any, writes what it has, or neither. -/
inductive Flush (medium : Medium Item) (buffer : WriteBehind Thread Item) :
    WriteBehind Thread Item → Prop
  | took (thread : Thread) (quiet : buffer.Quiet) : Flush medium buffer (buffer.take thread)
  | wrote (thread : Thread) : Flush medium buffer (buffer.write medium thread)
  | kept : Flush medium buffer buffer

variable {next : WriteBehind Thread Item}

theorem Carries.flush (carries : buffer.Carries medium value) (flush : Flush medium buffer next) :
    next.Carries medium value := by
  cases flush with
  | took thread quiet => exact carries.take quiet thread
  | wrote thread => exact carries.write thread
  | kept => exact carries

theorem DrainedBy.flush (drained : buffer.DrainedBy holder) (flush : Flush medium buffer next) :
    next.DrainedBy holder := by
  cases flush with
  | took thread => exact drained.take thread
  | wrote thread => exact drained.write thread
  | kept => exact drained

theorem Settled.flush (settled : buffer.Settled) (flush : Flush medium buffer next) :
    next.Settled := by
  cases flush with
  | took thread => exact settled.take thread
  | wrote thread => exact settled.write thread
  | kept => exact settled

end WriteBehind

end DeepNps
