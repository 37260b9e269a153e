import DeepNps.EventLog
import DeepNps.LabelledRuns

/-!
# Reading the event log page by page

A consumer passes the `NextAfter` of each page as its next cursor.  The gap test does not
look at a cursor of zero: a consumer whose cursor comes from an empty log is not told that
events were trimmed before its second query.
-/

namespace DeepNps.Node

open NodeEventLog Sequenced Option List

variable {Payload : Type}

/-- The log, all events recorded, and a consumer: its cursor, what it received and whether it saw
a gap. -/
structure Paging (Payload : Type) where
  log : NodeEventLog Payload
  recorded : List (Event Payload)
  cursor : Int
  received : List (Event Payload)
  gap : Bool

inductive PagingEvent (Payload : Type)
  | record (payload : Payload)
  | recordLiveOnly (payload : Payload)
  | query (limit : Int) (durable : Bool)

namespace Paging

def start (log : NodeEventLog Payload) (recorded : List (Event Payload)) (cursor : Int) :
    Paging Payload where
  log := log
  recorded := recorded
  cursor := cursor
  received := []
  gap := false

def step (allow : Option (Event Payload → Bool)) (paging : Paging Payload) :
    PagingEvent Payload → Option (Paging Payload)
  | .record payload =>
      let recording := paging.log.record payload true
      some { paging with
        log := recording.log
        recorded := paging.recorded ++ [recording.event] }
  | .recordLiveOnly payload => some { paging with log := (paging.log.record payload false).log }
  | .query limit durable =>
      let page := paging.log.query paging.cursor limit allow durable
      some { paging with
        cursor := page.nextAfter
        received := paging.received ++ page.items
        gap := paging.gap || page.gap }

/-- A query is made with a positive cursor, or while its window still begins with the
first event. -/
def Tracked (paging : Paging Payload) : PagingEvent Payload → Prop
  | .query _ durable =>
      0 < paging.cursor ∨ (paging.log.source durable).head?.all fun oldest => oldest.sequence ≤ 1
  | _ => True

instance (paging : Paging Payload) (event : PagingEvent Payload) :
    Decidable (paging.Tracked event) :=
  match event with
  | .record _ => .isTrue trivial
  | .recordLiveOnly _ => .isTrue trivial
  | .query _ durable => inferInstanceAs (Decidable (0 < paging.cursor ∨
      (paging.log.source durable).head?.all (fun oldest => oldest.sequence ≤ 1) = true))

def allowed (allow : Option (Event Payload → Bool)) (paging : Paging Payload) :
    List (Event Payload) :=
  paging.recorded.filter fun event => allow.all (· event)

/-- The consumer has received the allowed events from where it started, or before, to its
cursor. -/
structure Exact (allow : Option (Event Payload → Bool)) (begun low : Int)
    (paging : Paging Payload) : Prop where
  low_le_begun : low ≤ begun
  low_le_cursor : low ≤ paging.cursor
  received_eq : paging.received = between Event.sequence low paging.cursor (paging.allowed allow)
  issued : paging.cursor ≤ paging.log.nextSeq ∨ paging.cursor = low

variable {allow : Option (Event Payload → Bool)} {paging : Paging Payload} {begun low : Int}

theorem allowed_ordered (allow : Option (Event Payload → Bool))
    (keeps : paging.log.Keeps paging.recorded) :
    Ordered Event.sequence (paging.allowed allow) :=
  keeps.ordered.filter _

theorem allowed_le_nextSeq (allow : Option (Event Payload → Bool))
    (keeps : paging.log.Keeps paging.recorded) :
    ∀ event ∈ paging.allowed allow, event.sequence ≤ paging.log.nextSeq := fun event isEvent =>
  (keeps.numbered event (mem_of_mem_filter isEvent)).2

/-! ## One query -/

variable {limit : Int} {durable : Bool} {next : Paging Payload}

section

variable (keeps : paging.log.Keeps paging.recorded)

include keeps

theorem above_source (tracked : paging.Tracked (.query limit durable))
    (noGap : (paging.log.query paging.cursor limit allow durable).gap = false) :
    above Event.sequence paging.cursor (paging.log.source durable) =
      above Event.sequence paging.cursor paging.recorded := by
  rw [query_eq_page keeps] at noGap
  dsimp only [page] at noGap
  have sourceEq := source_eq_rtake keeps durable
  have reachPos := reach_pos keeps durable
  cases isFirst : (paging.log.source durable).head? with
  | none =>
    have isEmpty := head?_eq_none_iff.mp isFirst
    have nothing := eq_nil_of_rtake reachPos (sourceEq.symm.trans isEmpty)
    rw [isEmpty, nothing]
  | some first =>
    rw [isFirst] at noGap
    have reaches : (0 < paging.cursor ∧ first.sequence ≤ paging.cursor + 1) ∨
        first.sequence ≤ 1 := by
      have notGap : ¬ (0 < paging.cursor ∧ paging.cursor < first.sequence - 1) := by
        simpa using noGap
      have isTracked : 0 < paging.cursor ∨ first.sequence ≤ 1 := by
        simpa [Tracked, isFirst] using tracked
      omega
    rw [sourceEq] at isFirst ⊢
    rcases reaches with ⟨-, fromCursor⟩ | fromStart
    · exact above_rtake keeps.ordered isFirst fromCursor
    · -- A window that begins with the first event is the whole list.
      have positive : ∀ event ∈ paging.recorded, 0 < event.sequence := fun event isEvent =>
        (keeps.numbered event isEvent).1
      have whole : above Event.sequence 0 (paging.recorded.rtake (paging.log.reach durable)) =
          above Event.sequence 0 paging.recorded :=
        above_rtake keeps.ordered isFirst (by omega)
      have windowPositive : ∀ event ∈ paging.recorded.rtake (paging.log.reach durable),
          0 < event.sequence := fun event isEvent => positive event (mem_of_mem_drop isEvent)
      rw [above_eq_self positive, above_eq_self windowPositive] at whole
      rw [whole]

theorem query_eq (tracked : paging.Tracked (.query limit durable))
    (noGap : (paging.log.query paging.cursor limit allow durable).gap = false) :
    paging.log.query paging.cursor limit allow durable =
      paging.log.page paging.cursor (normalizeNodeEventLimit limit) durable
        (above Event.sequence paging.cursor (paging.allowed allow)) := by
  rw [query_eq_page keeps, ← wanted_above, above_source keeps tracked noGap, wanted_above]
  rfl

theorem exact_query (isExact : paging.Exact allow begun low)
    (tracked : paging.Tracked (.query limit durable))
    (noGap : (paging.log.query paging.cursor limit allow durable).gap = false)
    (steps : paging.step allow (.query limit durable) = some next) :
    ∃ low, next.Exact allow begun low := by
  obtain ⟨low_le_begun, low_le_cursor, received_eq, issued⟩ := isExact
  obtain rfl := some.inj steps
  have ordered := allowed_ordered allow keeps
  rcases page_reads paging.log durable ordered (allowed_le_nextSeq allow keeps)
    (normalizeNodeEventLimit_pos limit) with
    ⟨items_eq, forward, le_nextSeq⟩ | ⟨items_eq, nextEq, ahead⟩
  · rw [← query_eq keeps tracked noGap] at items_eq forward le_nextSeq
    refine ⟨low, low_le_begun, Int.le_trans low_le_cursor forward, ?_, .inl le_nextSeq⟩
    rw [received_eq, items_eq]
    exact between_append_between ordered low_le_cursor forward
  · -- The cursor was never issued, so nothing was received and the reading starts again.
    rw [← query_eq keeps tracked noGap] at items_eq nextEq
    have isLow : paging.cursor = low := by omega
    refine ⟨paging.log.nextSeq, by omega, Int.le_of_eq nextEq.symm, ?_, .inl (Int.le_of_eq nextEq)⟩
    dsimp only
    rw [received_eq, items_eq, nextEq, isLow, between_self, between_self, append_nil]

end

/-! ## Runs -/

theorem exact_record (isExact : paging.Exact allow begun low) (payload : Payload)
    (steps : paging.step allow (.record payload) = some next) : next.Exact allow begun low := by
  obtain ⟨low_le_begun, low_le_cursor, received_eq, _⟩ := isExact
  obtain rfl := some.inj steps
  refine ⟨low_le_begun, low_le_cursor, ?_, ?_⟩
  · dsimp only [allowed]
    rw [filter_append, between_append, received_eq]
    · rfl
    · intro _ isEvent
      rw [mem_singleton.mp (mem_of_mem_filter isEvent)]
      change ¬ (low < paging.log.nextSeq + 1 ∧ paging.log.nextSeq + 1 ≤ paging.cursor)
      omega
  · change paging.cursor ≤ paging.log.nextSeq + 1 ∨ paging.cursor = low
    omega

/-- What holds of the log and, until a gap is reported, of the consumer. -/
structure Reading (allow : Option (Event Payload → Bool)) (begun : Int) (paging : Paging Payload) :
    Prop where
  keeps : paging.log.Keeps paging.recorded
  exact_of_noGap : paging.gap = false → ∃ low, paging.Exact allow begun low

theorem reading_step (reading : paging.Reading allow begun) {event : PagingEvent Payload}
    (tracked : paging.Tracked event) (steps : paging.step allow event = some next) :
    next.Reading allow begun := by
  obtain ⟨keeps, exact_of_noGap⟩ := reading
  cases event with
  | record payload =>
    have recordedKeeps := record_keeps keeps payload
    have gapEq : next.gap = paging.gap := by
      obtain rfl := some.inj steps
      rfl
    refine ⟨?_, fun noGap => ?_⟩
    · obtain rfl := some.inj steps
      exact recordedKeeps
    · obtain ⟨low, isExact⟩ := exact_of_noGap (gapEq.symm.trans noGap)
      exact ⟨low, exact_record isExact payload steps⟩
  | recordLiveOnly =>
    obtain rfl := some.inj steps
    exact ⟨keeps, exact_of_noGap⟩
  | query limit durable =>
    refine ⟨?_, fun noGap => ?_⟩
    · obtain rfl := some.inj steps
      exact keeps
    · have noGaps : paging.gap = false ∧
          (paging.log.query paging.cursor limit allow durable).gap = false := by
        obtain rfl := some.inj steps
        exact Bool.or_eq_false_iff.mp noGap
      obtain ⟨_, isExact⟩ := exact_of_noGap noGaps.1
      exact exact_query keeps isExact tracked noGaps.2 steps

theorem Exact.received_after (isExact : paging.Exact allow begun low) :
    above Event.sequence begun paging.received =
      between Event.sequence begun paging.cursor (paging.allowed allow) := by
  have low_le_begun := isExact.low_le_begun
  rw [isExact.received_eq, above, between, between, List.filter_filter]
  refine List.filter_congr fun event _ => ?_
  rw [← Bool.decide_and, decide_eq_decide]
  omega

/-- If every query has a positive cursor or a window with the first event, and no page reports a
gap, the consumer receives the allowed events after its start in order, each once. -/
theorem pages_are_exact (allow : Option (Event Payload → Bool)) {log : NodeEventLog Payload}
    {recorded : List (Event Payload)} (keeps : log.Keeps recorded) (begun : Int)
    {events : List (PagingEvent Payload)} {paging : Paging Payload}
    (runs : Runs.execute (step allow) (start log recorded begun) events = some paging)
    (meets : Runs.Meets (step allow) Tracked (start log recorded begun) events)
    (noGap : paging.gap = false) :
    Ordered Event.sequence paging.received ∧
      above Event.sequence begun paging.received =
        between Event.sequence begun paging.cursor (paging.allowed allow) ∧
      (∀ limit durable, paging.Tracked (.query limit durable) →
        (paging.log.query paging.cursor limit allow durable).gap = false →
        (paging.log.query paging.cursor limit allow durable).hasMore = false →
        above Event.sequence begun
            (paging.received ++ (paging.log.query paging.cursor limit allow durable).items) =
          above Event.sequence begun (paging.allowed allow)) ∧
      ∀ after limit durable, paging.log.query after limit none durable =
        paging.log.query after limit (some fun _ => true) durable := by
  have reading : paging.Reading allow begun :=
    Runs.invariant_of_meets _ (fun _ _ _ reading tracked => reading_step reading tracked)
      ⟨keeps, fun _ => ⟨begun, Int.le_refl _, Int.le_refl _, between_self.symm, .inr rfl⟩⟩
      meets runs
  obtain ⟨_, isExact⟩ := reading.exact_of_noGap noGap
  refine ⟨?_, isExact.received_after, ?_, ?_⟩
  · rw [isExact.received_eq]
    exact (allowed_ordered allow reading.keeps).filter _
  · intro limit durable tracked pageNoGap noMore
    obtain ⟨_, nextExact⟩ := exact_query reading.keeps isExact tracked pageNoGap rfl
    have nextEq : (paging.log.query paging.cursor limit allow durable).nextAfter =
        paging.log.nextSeq := by
      rw [query_eq reading.keeps tracked pageNoGap] at noMore ⊢
      exact (page_last paging.log durable (of_decide_eq_false noMore)).2
    refine nextExact.received_after.trans ?_
    dsimp only
    rw [nextEq]
    exact between_eq_above (allowed_le_nextSeq allow reading.keeps)
  · intro _ _ _
    rw [query_eq_page reading.keeps, query_eq_page reading.keeps]
    rfl

/-- Three pages of a log of two entries, the first event trimmed once the cursor is past
it. -/
theorem pages_are_exact_two_pages :
    ∃ paging : Paging Nat,
      Runs.execute (step none) (start (NodeEventLog.new 2) [] 0)
          [.query 0 false, .record 10, .query 1 false, .record 20, .recordLiveOnly 25, .record 30,
            .query 1 true] = some paging ∧
        above Event.sequence 0 paging.received = [⟨1, 10⟩, ⟨2, 20⟩] := by
  obtain ⟨paging, runs, noGap, reads⟩ : ∃ paging : Paging Nat,
      Runs.execute (step none) (start (new 2) [] 0)
          [.query 0 false, .record 10, .query 1 false, .record 20, .recordLiveOnly 25, .record 30,
            .query 1 true] = some paging ∧
        paging.gap = false ∧
        between Event.sequence 0 paging.cursor (paging.allowed none) = [⟨1, 10⟩, ⟨2, 20⟩] :=
    Runs.exists_of_any (by decide +kernel)
  refine ⟨paging, runs, ?_⟩
  exact (pages_are_exact none (new_keeps 2) 0 runs (by decide +kernel) noGap).2.1.trans reads

/-- A consumer of an empty log gets the cursor zero, and misses the first of two events when the
window has one entry. -/
theorem pages_lose_first_event :
    ∃ paging : Paging Nat,
      Runs.execute (step none) (start (NodeEventLog.new 1) [] 0)
          [.query 0 false, .record 10, .record 20, .query 0 false] = some paging ∧
        paging.gap = false ∧ paging.cursor = paging.log.nextSeq ∧
        paging.recorded = [⟨1, 10⟩, ⟨2, 20⟩] ∧ paging.received = [⟨2, 20⟩] := by
  exact Runs.exists_of_any (by decide +kernel)

end Paging

end DeepNps.Node
