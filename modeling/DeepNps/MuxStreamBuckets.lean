import DeepNps.LinkedRotation
import DeepNps.MuxFrame

/-!
# Per-stream buckets of the write queue

The frames of a bucket are chained through `queueNext`, modelled by a list; the active
buckets form an intrusive doubly linked rotation, modelled pointer by pointer.
-/

namespace DeepNps.Mux

open Function Option List

/-- A bucket: its stream id, the chain from `head` to `tail`, and whether it is
linked into the rotation. -/
structure StreamBucket where
  id : Int32
  frames : List MuxPackager
  active : Bool

/-- The ends of the rotation are `activeHead` and `activeTail`, its pointers `prevActive` and
`nextActive`. -/
structure StreamBucketSet where
  buckets : Int32 → Option StreamBucket
  rotation : Rotation Int32

namespace StreamBucketSet

def init : StreamBucketSet where
  buckets := fun _ => none
  rotation := Rotation.empty

def hasPending (set : StreamBucketSet) : Bool := set.rotation.head.isSome

/-- `getStreamBucket`: a bucket from the pool, which holds cleared buckets. -/
def getStreamBucket (id : Int32) : StreamBucket where
  id := id
  frames := []
  active := false

def appendActive (set : StreamBucketSet) (bucket : StreamBucket) : StreamBucketSet where
  buckets := update set.buckets bucket.id (some { bucket with active := true })
  rotation := set.rotation.append bucket.id

def moveActiveToTail (set : StreamBucketSet) (bucket : StreamBucket) : StreamBucketSet :=
  if set.rotation.tail = some bucket.id then set
  else appendActive { set with rotation := set.rotation.detach bucket.id } bucket

def removeActive (set : StreamBucketSet) (bucket : StreamBucket) : StreamBucketSet :=
  if bucket.active then { set with rotation := set.rotation.detach bucket.id } else set

def push (set : StreamBucketSet) (packager : MuxPackager) : StreamBucketSet :=
  let bucket := (set.buckets packager.id).getD (getStreamBucket packager.id)
  let filled := { bucket with frames := bucket.frames ++ [packager] }
  let stored := { set with buckets := update set.buckets packager.id (some filled) }
  if bucket.active then stored else stored.appendActive filled

/-- An exhausted bucket leaves the rotation and the map, another one moves to the tail. -/
def pop (set : StreamBucketSet) : Option MuxPackager × StreamBucketSet :=
  match set.rotation.head.bind set.buckets with
  | none => (none, set)
  | some bucket =>
    match bucket.frames with
    | [] => (none, set)
    | packager :: rest =>
      let drained := { bucket with frames := rest }
      let stored := { set with buckets := update set.buckets bucket.id (some drained) }
      if rest.isEmpty then
        let unlinked := stored.removeActive drained
        (some packager,
          { unlinked with buckets := update unlinked.buckets bucket.id none })
      else
        (some packager, stored.moveActiveToTail drained)

def queued (set : StreamBucketSet) (id : Int32) : List MuxPackager :=
  ((set.buckets id).map StreamBucket.frames).getD []

structure BucketOk (id : Int32) (bucket : StreamBucket) : Prop where
  id_eq : bucket.id = id
  active : bucket.active = true
  nonempty : bucket.frames ≠ []
  ids : ∀ packager ∈ bucket.frames, packager.id = id

/-- The rotation lists exactly the streams that have a bucket, in `keys`. -/
structure Represents (set : StreamBucketSet) (keys : List Int32) : Prop where
  lists : set.rotation.Lists keys
  mem_iff : ∀ id, id ∈ keys ↔ (set.buckets id).isSome
  bucketOk : ∀ id bucket, set.buckets id = some bucket → BucketOk id bucket

theorem init_represents : init.Represents [] where
  lists := Rotation.empty_lists
  mem_iff := by simp [init]
  bucketOk := by simp [init]

variable {set : StreamBucketSet} {keys others : List Int32} {id : Int32}

section

variable (represents : set.Represents keys)

include represents

theorem Represents.bucket_of_mem (member : id ∈ keys) :
    ∃ bucket, set.buckets id = some bucket ∧ BucketOk id bucket := by
  obtain ⟨bucket, found⟩ := isSome_iff_exists.mp ((represents.mem_iff id).mp member)
  exact ⟨bucket, found, represents.bucketOk id bucket found⟩

theorem Represents.none_of_not_mem (absent : id ∉ keys) : set.buckets id = none := by
  cases found : set.buckets id with
  | none => rfl
  | some => exact absurd ((represents.mem_iff id).mpr (by simp [found])) absent

theorem Represents.queued_eq_nil (absent : id ∉ keys) : set.queued id = [] := by
  simp [queued, represents.none_of_not_mem absent]

theorem Represents.hasPending_iff : set.hasPending = true ↔ keys ≠ [] := by
  rw [hasPending, isSome_iff_ne_none, Ne, represents.lists.head_eq, head?_eq_none_iff]

end

theorem queued_push (set : StreamBucketSet) (keys : List Int32) (packager : MuxPackager)
    (represents : set.Represents keys) :
    (set.push packager).queued =
      update set.queued packager.id (set.queued packager.id ++ [packager]) := by
  funext id
  cases found : set.buckets packager.id with
  | none =>
    by_cases same : id = packager.id
    · subst same
      simp [push, found, getStreamBucket, appendActive, queued]
    · simp [push, found, getStreamBucket, appendActive, queued, same]
  | some =>
    have ok := represents.bucketOk _ _ found
    by_cases same : id = packager.id
    · subst same
      simp [push, found, ok.active, queued]
    · simp [push, found, ok.active, queued, same]

/-- A push leaves an active stream where it is in the rotation and links a new
one behind the others. -/
theorem Represents.push (represents : set.Represents keys) (packager : MuxPackager) :
    (set.push packager).Represents
      (if packager.id ∈ keys then keys else keys ++ [packager.id]) := by
  by_cases member : packager.id ∈ keys
  · obtain ⟨_, found, ok⟩ := represents.bucket_of_mem member
    rw [if_pos member]
    refine ⟨?_, ?_, ?_⟩
    · simpa [StreamBucketSet.push, found, ok.active] using represents.lists
    · intro id
      by_cases same : id = packager.id
      · subst same
        simp [StreamBucketSet.push, found, ok.active, member]
      · simpa [StreamBucketSet.push, found, ok.active, same] using represents.mem_iff id
    · intro id other otherEq
      by_cases same : id = packager.id
      · subst same
        simp only [StreamBucketSet.push, found, ok.active, getD_some, if_true,
          update_self, some.injEq] at otherEq
        subst other
        refine ⟨ok.id_eq, rfl, by simp, ?_⟩
        intro frame frameMem
        simp only [mem_append, mem_singleton] at frameMem
        rcases frameMem with old | rfl
        · exact ok.ids frame old
        · rfl
      · simp only [StreamBucketSet.push, found, ok.active, getD_some, if_true,
          update_of_ne same] at otherEq
        exact represents.bucketOk id other otherEq
  · have missing := represents.none_of_not_mem member
    rw [if_neg member]
    refine ⟨?_, ?_, ?_⟩
    · simpa [StreamBucketSet.push, missing, getStreamBucket, appendActive] using
        represents.lists.append member
    · intro id
      by_cases same : id = packager.id
      · subst same
        simp [StreamBucketSet.push, missing, getStreamBucket, appendActive]
      · simpa [StreamBucketSet.push, missing, getStreamBucket, appendActive, same] using
          represents.mem_iff id
    · intro id other otherEq
      by_cases same : id = packager.id
      · subst same
        simp only [StreamBucketSet.push, missing, getStreamBucket, appendActive, getD_none,
          Bool.false_eq_true, if_false, update_self, some.injEq] at otherEq
        subst other
        exact ⟨rfl, rfl, by simp, by simp⟩
      · simp only [StreamBucketSet.push, missing, getStreamBucket, appendActive, getD_none,
          Bool.false_eq_true, if_false, update_of_ne same] at otherEq
        exact represents.bucketOk id other otherEq

section

variable (represents : set.Represents (id :: others))

include represents

private theorem Represents.removeHead :
    StreamBucketSet.Represents
      { buckets := update set.buckets id none, rotation := set.rotation.detach id }
      others := by
  have distinct := nodup_cons.mp represents.lists.nodup
  refine ⟨represents.lists.detach_head, ?_, ?_⟩
  · intro other
    by_cases same : other = id
    · subst same
      simp [distinct.1]
    · simpa [same] using represents.mem_iff other
  · intro other bucket bucketEq
    by_cases same : other = id
    · subst same
      simp at bucketEq
    · exact represents.bucketOk other bucket (by simpa [same] using bucketEq)

private theorem Represents.rotateHead {bucket : StreamBucket} {links : Rotation Int32}
    (ok : BucketOk id bucket) (lists : links.Lists (others ++ [id])) :
    StreamBucketSet.Represents
      { buckets := update set.buckets id (some bucket), rotation := links }
      (others ++ [id]) := by
  refine ⟨lists, ?_, ?_⟩
  · intro other
    by_cases same : other = id
    · subst same
      simp
    · simpa [same] using represents.mem_iff other
  · intro other found foundEq
    by_cases same : other = id
    · subst same
      simp only [update_self, some.injEq] at foundEq
      exact foundEq ▸ ok
    · exact represents.bucketOk other found (by simpa [same] using foundEq)

/-- The first frame at the head of the rotation leaves; a stream that has more moves behind the
others. -/
theorem Represents.pop :
    ∃ packager rest, set.queued id = packager :: rest ∧
      set.pop.1 = some packager ∧
      set.pop.2.queued = update set.queued id rest ∧
      set.pop.2.Represents (if rest = [] then others else others ++ [id]) := by
  obtain ⟨bucket, found, ok⟩ := represents.bucket_of_mem (mem_cons_self ..)
  have headEq : set.rotation.head = some id := represents.lists.head_eq
  have distinct := nodup_cons.mp represents.lists.nodup
  cases framesEq : bucket.frames with
  | nil => exact absurd framesEq ok.nonempty
  | cons packager rest =>
    refine ⟨packager, rest, by simp [queued, found, framesEq], ?_⟩
    cases rest with
    | nil =>
      have popEq : set.pop = (some packager,
          { buckets := update set.buckets id none,
            rotation := set.rotation.detach id }) := by
        simp [StreamBucketSet.pop, headEq, found, framesEq, removeActive, ok.active, ok.id_eq]
      rw [popEq]
      refine ⟨rfl, ?_, by simpa using represents.removeHead⟩
      funext other
      by_cases same : other = id
      · subst same
        simp [queued]
      · simp [queued, same]
    | cons second rest =>
      let drained : StreamBucket := { bucket with frames := second :: rest }
      have drainedOk : BucketOk id drained :=
        ⟨ok.id_eq, ok.active, by simp [drained], fun frame member =>
          ok.ids frame (by rw [framesEq]; exact mem_cons_of_mem _ member)⟩
      have buckets : (set.pop).2.buckets = update set.buckets id (some drained) := by
        by_cases isTail : set.rotation.tail = some id
        · simp [StreamBucketSet.pop, headEq, found, framesEq, moveActiveToTail, ok.id_eq, isTail,
            drained]
        · simp [StreamBucketSet.pop, headEq, found, framesEq, moveActiveToTail, ok.id_eq, isTail,
            appendActive, drained, ok.active]
      have lists : (set.pop).2.rotation.Lists (others ++ [id]) := by
        by_cases isTail : set.rotation.tail = some id
        · -- a bucket that is head and tail at once is the only one
          have single : others = [] := by
            cases others with
            | nil => rfl
            | cons =>
              have lastEq := represents.lists.tail_eq
              rw [isTail, getLast?_cons_cons] at lastEq
              exact absurd (mem_of_getLast? lastEq.symm) distinct.1
          subst single
          simpa [StreamBucketSet.pop, headEq, found, framesEq, moveActiveToTail, ok.id_eq, isTail]
            using represents.lists
        · have moved := (represents.lists.detach_head).append distinct.1
          simpa [StreamBucketSet.pop, headEq, found, framesEq, moveActiveToTail, ok.id_eq, isTail,
            appendActive] using moved
      refine ⟨?_, ?_, ?_⟩
      · simp [StreamBucketSet.pop, headEq, found, framesEq]
      · funext other
        by_cases same : other = id
        · subst same
          simp [queued, buckets, drained]
        · simp [queued, buckets, same]
      · have rotated := represents.rotateHead drainedOk lists
        have popEq : set.pop.2 =
            { buckets := update set.buckets id (some drained),
              rotation := set.pop.2.rotation } := by
          rw [← buckets]
        rw [if_neg (by simp), popEq]
        exact rotated

end

end StreamBucketSet

end DeepNps.Mux
