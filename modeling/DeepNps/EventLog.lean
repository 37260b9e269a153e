import DeepNps.SequencedLog

/-!
# The log of management events

`nodeEventLog` numbers the events, keeps the newest in memory twice (a short window for
`Query`, a longer one for `Replay`) and answers queries in pages.
-/

namespace DeepNps.Node

open List Sequenced

/-- `webapi.Event`: its number and everything else it is made of. -/
structure Event (Payload : Type) where
  sequence : Int
  payload : Payload
deriving DecidableEq, Repr

open Event

variable {Payload : Type}

def defaultNodeEventLogSize : Nat := 1024

def nodeEventLogHistoryRetention (maxEntries : Nat) : Nat :=
  let retention := maxEntries * 4
  let retention := if retention < 4096 then 4096 else retention
  let retention := if 16384 < retention then 16384 else retention
  if retention < maxEntries then maxEntries else retention

def nodeEventLogCompactThreshold (historyMax maxEntries : Nat) : Nat :=
  let threshold := historyMax / 4
  let threshold := if threshold < maxEntries then maxEntries else threshold
  let threshold := if threshold = 0 then maxEntries else threshold
  if threshold = 0 then defaultNodeEventLogSize else threshold

def normalizeNodeEventLimit (limit : Int) : Nat :=
  if limit ≤ 0 then 100 else if 500 < limit then 500 else limit.toNat

def trimNodeEventWindowInPlace {Entry : Type} (events : List Entry) (limit : Nat) : List Entry :=
  if limit = 0 ∨ events.length ≤ limit then events else events.drop (events.length - limit)

structure NodeEventLog (Payload : Type) where
  nextSeq : Int
  maxEntries : Nat
  entries : List (Event Payload)
  history : List (Event Payload)
  historyMax : Nat
  trimmed : Nat
deriving DecidableEq

structure NodeEventLogPersistedState (Payload : Type) where
  nextSeq : Int
  entries : List (Event Payload)
deriving DecidableEq

/-- What a call of `record` leaves under the lock, and what it hands on once the lock is
released. -/
structure Recording (Payload : Type) where
  log : NodeEventLog Payload
  event : Event Payload
  persisted : Option (NodeEventLogPersistedState Payload)
  compactHistory : List (Event Payload)
  appendJournal : Option (Event Payload)

structure NodeEventLogSnapshot (Payload : Type) where
  after : Int
  nextAfter : Int
  cursor : Int := 0
  oldestCursor : Int := 0
  limit : Nat
  count : Nat := 0
  lastSequence : Int := 0
  hasMore : Bool := false
  gap : Bool := false
  items : List (Event Payload) := []
deriving DecidableEq

namespace NodeEventLog

def new (maxEntries : Int) : NodeEventLog Payload :=
  let maxEntries := if maxEntries ≤ 0 then defaultNodeEventLogSize else maxEntries.toNat
  { nextSeq := 0
    maxEntries := maxEntries
    entries := []
    history := []
    historyMax := nodeEventLogHistoryRetention maxEntries
    trimmed := 0 }

def persistedStateLocked (log : NodeEventLog Payload) : NodeEventLogPersistedState Payload where
  nextSeq := log.nextSeq
  entries := log.entries

def record (log : NodeEventLog Payload) (payload : Payload) (persistEntry : Bool) :
    Recording Payload :=
  if persistEntry then
    let event : Event Payload := ⟨log.nextSeq + 1, payload⟩
    let entries := log.entries ++ [event]
    let entries :=
      if log.maxEntries < entries.length then trimNodeEventWindowInPlace entries log.maxEntries
      else entries
    let history := log.history ++ [event]
    let overflow := history.length - log.historyMax
    let trimmed := if log.historyMax < history.length then log.trimmed + overflow else log.trimmed
    let history :=
      if log.historyMax < history.length then trimNodeEventWindowInPlace history log.historyMax
      else history
    let compacts : Bool := nodeEventLogCompactThreshold log.historyMax log.maxEntries ≤ trimmed
    let log := { log with
      nextSeq := log.nextSeq + 1
      entries := entries
      history := history
      trimmed := if compacts then 0 else trimmed }
    { log := log
      event := event
      persisted := some log.persistedStateLocked
      compactHistory := if compacts then history else []
      appendJournal := if compacts then none else some event }
  else
    -- A live-only event carries the number of the last persisted one.
    { log := log
      event := ⟨log.nextSeq, payload⟩
      persisted := none
      compactHistory := []
      appendJournal := none }

/-- `sort.Search` finds the first entry after the cursor, the entries being in order. -/
def snapshotNodeEventQueryEntries (source : List (Event Payload)) (after : Int) (limit : Nat)
    (unfiltered : Bool) : List (Event Payload) :=
  let source := if 0 < after then source.dropWhile fun entry => entry.sequence ≤ after else source
  if unfiltered ∧ 0 < limit then source.take (limit + 1) else source

/-- The loop of `query` over the copied entries: the items and whether more are left. -/
def collectItems (after : Int) (limit : Nat) (allow : Option (Event Payload → Bool)) :
    List (Event Payload) → List (Event Payload) → List (Event Payload) × Bool
  | [], items => (items, false)
  | entry :: rest, items =>
      if entry.sequence ≤ after then collectItems after limit allow rest items
      else if ¬ allow.all (· entry) then collectItems after limit allow rest items
      else if limit ≤ items.length then (items, true)
      else collectItems after limit allow rest (items ++ [entry])

def source (log : NodeEventLog Payload) (durable : Bool) : List (Event Payload) :=
  if durable then log.history else log.entries

def query (log : NodeEventLog Payload) (after limit : Int)
    (allow : Option (Event Payload → Bool)) (durable : Bool) : NodeEventLogSnapshot Payload :=
  let limit := normalizeNodeEventLimit limit
  match log.source durable with
  | [] => { after := after, nextAfter := log.nextSeq, cursor := log.nextSeq, limit := limit }
  | oldest :: rest =>
      let gap : Bool := 0 < after ∧ after < oldest.sequence - 1
      match snapshotNodeEventQueryEntries (oldest :: rest) after limit allow.isNone with
      | [] =>
          { after := after
            nextAfter := log.nextSeq
            cursor := log.nextSeq
            oldestCursor := oldest.sequence
            limit := limit
            gap := gap }
      | entry :: entries =>
          let (items, hasMore) := collectItems after limit allow (entry :: entries) []
          { after := after
            nextAfter :=
              match items.getLast? with
              | some last => if hasMore then last.sequence else log.nextSeq
              | none => if hasMore then after else log.nextSeq
            cursor := log.nextSeq
            oldestCursor := oldest.sequence
            limit := limit
            count := items.length
            lastSequence := (items.getLast?.map Event.sequence).getD 0
            hasMore := hasMore
            gap := gap
            items := items }

end NodeEventLog

/-! ## Limits and windows -/

theorem normalizeNodeEventLimit_pos (limit : Int) : 0 < normalizeNodeEventLimit limit := by
  rw [normalizeNodeEventLimit]
  split_ifs <;> omega

theorem trimNodeEventWindowInPlace_eq_rtake {Entry : Type} (events : List Entry) {limit : Nat}
    (positive : 0 < limit) : trimNodeEventWindowInPlace events limit = events.rtake limit := by
  rw [trimNodeEventWindowInPlace, rtake]
  split_ifs with short
  · have fits : events.length - limit = 0 := by omega
    rw [fits, drop_zero]
  · rfl

theorem trimmed_window {Entry : Type} {recorded window : List Entry} {limit : Nat}
    (positive : 0 < limit) (isWindow : window = recorded.rtake limit) (entry : Entry) :
    (if limit < (window ++ [entry]).length then
        trimNodeEventWindowInPlace (window ++ [entry]) limit
      else window ++ [entry]) = (recorded ++ [entry]).rtake limit := by
  rw [← rtake_rtake_concat positive, ← isWindow, trimNodeEventWindowInPlace_eq_rtake _ positive]
  split_ifs with isOver
  · rfl
  · have fits : (window ++ [entry]).length - limit = 0 := by omega
    rw [rtake, fits, drop_zero]

namespace NodeEventLog

/-- The log holds the newest of the events recorded so far. -/
structure Keeps (log : NodeEventLog Payload) (recorded : List (Event Payload)) : Prop where
  positive : 0 < log.maxEntries
  wider : log.maxEntries ≤ log.historyMax
  entries_eq : log.entries = recorded.rtake log.maxEntries
  history_eq : log.history = recorded.rtake log.historyMax
  ordered : Ordered Event.sequence recorded
  numbered : ∀ event ∈ recorded, 0 < event.sequence ∧ event.sequence ≤ log.nextSeq
  nextSeq_nonneg : 0 ≤ log.nextSeq

theorem new_keeps (maxEntries : Int) : Keeps (new maxEntries : NodeEventLog Payload) [] where
  positive := by
    dsimp only [new, defaultNodeEventLogSize]
    split_ifs <;> omega
  wider := by
    dsimp only [new, nodeEventLogHistoryRetention]
    split_ifs <;> omega
  entries_eq := by simp [new]
  history_eq := by simp [new]
  ordered := List.Pairwise.nil
  numbered := by simp
  nextSeq_nonneg := Int.le_refl 0

variable {log : NodeEventLog Payload} {recorded : List (Event Payload)}

theorem record_keeps (keeps : log.Keeps recorded) (payload : Payload) :
    (log.record payload true).log.Keeps (recorded ++ [(log.record payload true).event]) where
  positive := keeps.positive
  wider := keeps.wider
  entries_eq := trimmed_window keeps.positive keeps.entries_eq _
  history_eq := trimmed_window (Nat.lt_of_lt_of_le keeps.positive keeps.wider) keeps.history_eq _
  ordered := by
    refine pairwise_append.mpr ⟨keeps.ordered, pairwise_singleton _ _, ?_⟩
    intro other isOther _ isEntry
    rw [mem_singleton.mp isEntry]
    have bounded := (keeps.numbered other isOther).2
    change other.sequence < log.nextSeq + 1
    omega
  numbered := by
    intro event isEvent
    have nonneg := keeps.nextSeq_nonneg
    change 0 < event.sequence ∧ event.sequence ≤ log.nextSeq + 1
    rcases mem_append.mp isEvent with isOld | isNew
    · have bounded := keeps.numbered event isOld
      omega
    · rw [mem_singleton.mp isNew]
      change 0 < log.nextSeq + 1 ∧ log.nextSeq + 1 ≤ log.nextSeq + 1
      omega
  nextSeq_nonneg := by
    have nonneg := keeps.nextSeq_nonneg
    change 0 ≤ log.nextSeq + 1
    omega

/-- How far back the window of a query goes. -/
def reach (log : NodeEventLog Payload) (durable : Bool) : Nat :=
  if durable then log.historyMax else log.maxEntries

theorem reach_pos (keeps : log.Keeps recorded) (durable : Bool) : 0 < log.reach durable := by
  cases durable with
  | false => exact keeps.positive
  | true => exact Nat.lt_of_lt_of_le keeps.positive keeps.wider

theorem source_eq_rtake (keeps : log.Keeps recorded) (durable : Bool) :
    log.source durable = recorded.rtake (log.reach durable) := by
  cases durable with
  | false => exact keeps.entries_eq
  | true => exact keeps.history_eq

theorem source_sublist (keeps : log.Keeps recorded) (durable : Bool) :
    (log.source durable).Sublist recorded := by
  rw [source_eq_rtake keeps]
  exact drop_sublist _ _

/-! ## What a page contains -/

def wanted (after : Int) (allow : Option (Event Payload → Bool)) (events : List (Event Payload)) :
    List (Event Payload) :=
  above Event.sequence after (events.filter fun event => allow.all (· event))

theorem collectItems_eq (after : Int) (limit : Nat) (allow : Option (Event Payload → Bool))
    (events items : List (Event Payload)) (room : items.length ≤ limit) :
    collectItems after limit allow events items =
      ((items ++ wanted after allow events).take limit,
        decide (limit < (items ++ wanted after allow events).length)) := by
  induction events generalizing items with
  | nil =>
    simp only [collectItems, wanted, above, filter_nil, append_nil]
    rw [take_of_length_le room, decide_eq_false (Nat.not_lt.mpr room)]
  | cons entry rest ih =>
    rw [collectItems]
    by_cases isPast : entry.sequence ≤ after
    · have skipped : wanted after allow (entry :: rest) = wanted after allow rest := by
        have notAfter : ¬ after < entry.sequence := Int.not_lt.mpr isPast
        rw [wanted, wanted, above, above, filter_filter, filter_filter,
          filter_cons_of_neg (by simp [notAfter])]
      rw [if_pos isPast, skipped, ih items room]
    · rw [if_neg isPast]
      cases isAllowed : allow.all (· entry) with
      | false =>
        have skipped : wanted after allow (entry :: rest) = wanted after allow rest := by
          rw [wanted, wanted, filter_cons_of_neg (by simp [isAllowed])]
        rw [if_pos (by simp), skipped, ih items room]
      | true =>
        have taken : wanted after allow (entry :: rest) = entry :: wanted after allow rest := by
          rw [wanted, wanted, filter_cons_of_pos (by simp [isAllowed]), above, above,
            filter_cons_of_pos (by simpa using isPast)]
        rw [if_neg (by simp), taken]
        by_cases isFull : limit ≤ items.length
        · have isLimit : limit = items.length := Nat.le_antisymm isFull room
          rw [if_pos isFull, isLimit, take_left]
          simp
        · rw [if_neg isFull, ih _ (by simp; omega), append_assoc]
          rfl

theorem wanted_none (after : Int) (events : List (Event Payload)) :
    wanted after none events = above sequence after events := by
  rw [wanted]
  exact congrArg _ (filter_eq_self.mpr fun _ _ => rfl)

theorem wanted_above (after : Int) (allow : Option (Event Payload → Bool))
    (events : List (Event Payload)) :
    wanted after allow (above sequence after events) = wanted after allow events := by
  rw [wanted, wanted, above, above, above, filter_filter, filter_filter, filter_filter]
  refine filter_congr fun event _ => ?_
  cases decide (after < event.sequence) <;> simp

variable {source : List (Event Payload)} {after : Int} {allow : Option (Event Payload → Bool)}
  {durable : Bool}

theorem snapshotNodeEventQueryEntries_eq (ordered : Ordered sequence source)
    (positive : ∀ event ∈ source, 0 < event.sequence) (after : Int) {limit : Nat}
    (some_limit : 0 < limit) (unfiltered : Bool) :
    snapshotNodeEventQueryEntries source after limit unfiltered =
      if unfiltered then (above sequence after source).take (limit + 1)
      else above sequence after source := by
  have rest_eq : (if 0 < after then source.dropWhile fun entry => entry.sequence ≤ after
      else source) = above sequence after source := by
    split_ifs with isStarted
    · exact dropWhile_eq_above ordered
    · refine (above_eq_self fun event isEvent => ?_).symm
      have numbered := positive event isEvent
      omega
  rw [snapshotNodeEventQueryEntries, rest_eq]
  cases unfiltered <;> simp [some_limit]

theorem wanted_snapshot (ordered : Ordered sequence source)
    (positive : ∀ event ∈ source, 0 < event.sequence) (after : Int) {limit : Nat}
    (some_limit : 0 < limit) (allow : Option (Event Payload → Bool)) :
    (wanted after allow
          (snapshotNodeEventQueryEntries source after limit allow.isNone)).take limit =
        (wanted after allow source).take limit ∧
      (limit < (wanted after allow
          (snapshotNodeEventQueryEntries source after limit allow.isNone)).length ↔
        limit < (wanted after allow source).length) := by
  rw [snapshotNodeEventQueryEntries_eq ordered positive after some_limit]
  cases allow with
  | some =>
    rw [Option.isNone_some, if_neg Bool.false_ne_true, wanted_above]
    exact ⟨rfl, Iff.rfl⟩
  | none =>
    have kept : above sequence after
        ((above sequence after source).take (limit + 1)) =
          (above sequence after source).take (limit + 1) := by
      refine filter_eq_self.mpr fun event isEvent => ?_
      exact (mem_filter.mp (mem_of_mem_take isEvent)).2
    rw [Option.isNone_none, if_pos rfl, wanted_none, wanted_none, kept, take_take,
      Nat.min_eq_left (Nat.le_succ limit), length_take]
    exact ⟨rfl, by omega⟩

/-- The page with the first of the events that are wanted. -/
def page (log : NodeEventLog Payload) (after : Int) (limit : Nat) (durable : Bool)
    (wanted : List (Event Payload)) : NodeEventLogSnapshot Payload where
  after := after
  nextAfter :=
    match (wanted.take limit).getLast? with
    | some last => if limit < wanted.length then last.sequence else log.nextSeq
    | none => if limit < wanted.length then after else log.nextSeq
  cursor := log.nextSeq
  oldestCursor := ((log.source durable).head?.map Event.sequence).getD 0
  limit := limit
  count := (wanted.take limit).length
  lastSequence := ((wanted.take limit).getLast?.map Event.sequence).getD 0
  hasMore := limit < wanted.length
  gap := (log.source durable).head?.any fun oldest => 0 < after ∧ after < oldest.sequence - 1
  items := wanted.take limit

section

variable (keeps : log.Keeps recorded)

include keeps

theorem query_eq_page (after limit : Int) (allow : Option (Event Payload → Bool)) (durable : Bool) :
    log.query after limit allow durable =
      log.page after (normalizeNodeEventLimit limit) durable
        (wanted after allow (log.source durable)) := by
  have some_limit := normalizeNodeEventLimit_pos limit
  have kept := source_sublist keeps durable
  have ordered : Ordered sequence (log.source durable) := keeps.ordered.sublist kept
  have positive : ∀ event ∈ log.source durable, 0 < event.sequence := fun event isEvent =>
    (keeps.numbered event (kept.subset isEvent)).1
  obtain ⟨taken, longer⟩ := wanted_snapshot ordered positive after some_limit allow
  dsimp only [query, page]
  generalize normalizeNodeEventLimit limit = bound at *
  generalize log.source durable = source at *
  cases source with
  | nil => simp [wanted, above]
  | cons oldest rest =>
    dsimp only
    cases isCopied : snapshotNodeEventQueryEntries (oldest :: rest) after bound allow.isNone with
    | nil =>
      rw [isCopied] at taken longer
      have nothing : wanted after allow [] = [] := rfl
      rw [nothing] at taken longer
      have short : ¬ bound < (wanted after allow (oldest :: rest)).length := by
        rw [← longer]
        exact Nat.not_lt_zero _
      rw [← taken, if_neg short]
      simp [short]
    | cons entry entries =>
      rw [isCopied] at taken longer
      have collected := collectItems_eq after bound allow (entry :: entries) [] (Nat.zero_le _)
      simp only [nil_append, taken, longer] at collected
      dsimp only
      rw [collected]
      simp

theorem mem_query_items {limit : Int} {event : Event Payload}
    (isItem : event ∈ (log.query after limit allow durable).items) :
    event ∈ recorded ∧ after < event.sequence ∧ allow.all (· event) = true := by
  rw [query_eq_page keeps] at isItem
  obtain ⟨isAllowed, isAfter⟩ := mem_filter.mp (mem_of_mem_take isItem)
  obtain ⟨isSource, allows⟩ := mem_filter.mp isAllowed
  exact ⟨(source_sublist keeps durable).subset isSource, of_decide_eq_true isAfter, allows⟩

theorem ordered_query_items (after limit : Int) (allow : Option (Event Payload → Bool))
    (durable : Bool) : Ordered sequence (log.query after limit allow durable).items := by
  rw [query_eq_page keeps]
  refine keeps.ordered.sublist ((take_sublist _ _).trans (filter_sublist.trans ?_))
  exact filter_sublist.trans (source_sublist keeps durable)

theorem query_items_ne_nil {limit : Int}
    (hasMore : (log.query after limit allow durable).hasMore = true) :
    (log.query after limit allow durable).items ≠ [] := by
  rw [query_eq_page keeps] at hasMore ⊢
  have positive := normalizeNodeEventLimit_pos limit
  have longer := of_decide_eq_true hasMore
  apply ne_nil_of_length_pos
  dsimp only [page]
  rw [length_take]
  omega

theorem mem_query_items_or_later (limit : Int) {event : Event Payload}
    (isSource : event ∈ log.source durable) (allows : allow.all (· event) = true)
    (isAfter : after < event.sequence) :
    event ∈ (log.query after limit allow durable).items ∨
      (log.query after limit allow durable).hasMore = true ∧
        ∀ other ∈ (log.query after limit allow durable).items, other.sequence < event.sequence := by
  rw [query_eq_page keeps]
  generalize normalizeNodeEventLimit limit = bound
  have isWanted : event ∈ wanted after allow (log.source durable) :=
    mem_filter.mpr ⟨mem_filter.mpr ⟨isSource, allows⟩, decide_eq_true isAfter⟩
  have ordered : Ordered sequence (wanted after allow (log.source durable)) :=
    keeps.ordered.sublist
      (filter_sublist.trans (filter_sublist.trans (source_sublist keeps durable)))
  rw [← take_append_drop bound (wanted after allow (log.source durable))] at isWanted ordered
  rcases mem_append.mp isWanted with isTaken | isLeft
  · exact .inl isTaken
  · refine .inr ⟨?_, fun other isOther => ?_⟩
    · have positive := length_pos_of_mem isLeft
      rw [length_drop] at positive
      exact decide_eq_true (by omega)
    · exact (pairwise_append.mp ordered).2.2 other isOther event isLeft

end

section PageOf

variable {events : List (Event Payload)} {after : Int} {limit : Nat} (log : NodeEventLog Payload)
  (durable : Bool)

theorem page_last (short : ¬ limit < (above sequence after events).length) :
    (log.page after limit durable (above sequence after events)).items =
        above sequence after events ∧
      (log.page after limit durable (above sequence after events)).nextAfter = log.nextSeq := by
  refine ⟨take_of_length_le (Nat.not_lt.mp short), ?_⟩
  dsimp only [page]
  cases ((above sequence after events).take limit).getLast? with
  | none | some => exact if_neg short

/-- A page reads on from its cursor to the cursor it returns.  A cursor that was never
issued is moved back. -/
theorem page_reads (ordered : Ordered sequence events)
    (bounded : ∀ event ∈ events, event.sequence ≤ log.nextSeq) (some_limit : 0 < limit) :
    let page := log.page after limit durable (above sequence after events)
    (page.items = between sequence after page.nextAfter events ∧ after ≤ page.nextAfter ∧
        page.nextAfter ≤ log.nextSeq) ∨
      (page.items = [] ∧ page.nextAfter = log.nextSeq ∧ log.nextSeq < after) := by
  intro isPage
  by_cases longer : limit < (above sequence after events).length
  · cases isLast : ((above sequence after events).take limit).getLast? with
    | none =>
      have nothing := getLast?_eq_none_iff.mp isLast
      have isLength := congrArg length nothing
      rw [length_take, length_nil] at isLength
      omega
    | some last =>
      have nextEq : isPage.nextAfter = last.sequence := by
        dsimp only [isPage, page]
        rw [isLast]
        exact if_pos longer
      have isWanted := mem_of_mem_take (mem_of_getLast? isLast)
      obtain ⟨isEvent, isAfter⟩ := mem_filter.mp isWanted
      refine .inl ⟨?_, ?_, ?_⟩
      · rw [nextEq]
        exact take_above_eq_between ordered isLast
      · rw [nextEq]
        exact Int.le_of_lt (of_decide_eq_true isAfter)
      · rw [nextEq]
        exact bounded last isEvent
  · obtain ⟨itemsEq, nextEq⟩ := page_last log durable longer
    by_cases issued : after ≤ log.nextSeq
    · refine .inl ⟨?_, ?_, ?_⟩
      · rw [nextEq, between_eq_above bounded]
        exact itemsEq
      · rwa [nextEq]
      · exact Int.le_of_eq nextEq
    · have ahead := Int.not_le.mp issued
      refine .inr ⟨itemsEq.trans ?_, nextEq, ahead⟩
      refine filter_eq_nil_iff.mpr fun event isEvent => ?_
      simpa using Int.le_trans (bounded event isEvent) (Int.le_of_lt ahead)

end PageOf

end NodeEventLog

end DeepNps.Node
