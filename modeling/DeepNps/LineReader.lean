import DeepNps.Segments

/-!
# Buffered reading of lines

The reader of `bufio` returns a line that does not fit into its buffer in parts; otherwise
without the line feed, and without a carriage return in front of it.
-/

namespace DeepNps

open List Segments

def splitLine : List UInt8 → Option (List UInt8 × List UInt8)
  | [] => none
  | byte :: bytes =>
      if byte = 10 then some ([10], bytes)
      else (splitLine bytes).map fun parts => (byte :: parts.1, parts.2)

theorem splitLine_eq_none_iff {bytes : List UInt8} : splitLine bytes = none ↔ 10 ∉ bytes := by
  induction bytes with
  | nil => simp [splitLine]
  | cons byte _ ih =>
    rw [splitLine]
    split_ifs with isFeed
    · simp [isFeed]
    · have differs : ¬ 10 = byte := fun same => isFeed same.symm
      simp [ih, differs]

theorem splitLine_eq_some_iff {bytes line rest : List UInt8} :
    splitLine bytes = some (line, rest) ↔
      ∃ body, line = body ++ [10] ∧ 10 ∉ body ∧ bytes = line ++ rest := by
  induction bytes generalizing line with
  | nil =>
    constructor
    · nofun
    · rintro ⟨body, rfl, -, isEmpty⟩
      simp at isEmpty
  | cons byte _ ih =>
    rw [splitLine]
    split_ifs with isFeed
    · constructor
      · intro isSplit
        cases isSplit
        exact ⟨[], rfl, not_mem_nil, by rw [isFeed]; rfl⟩
      · rintro ⟨body, rfl, noFeed, bytesEq⟩
        cases body with
        | nil => simp_all
        | cons => simp_all
    · rw [Option.map_eq_some_iff]
      constructor
      · rintro ⟨⟨line, rest⟩, isSplit, same⟩
        cases same
        obtain ⟨body, rfl, noFeed, rfl⟩ := ih.mp isSplit
        refine ⟨byte :: body, rfl, ?_, rfl⟩
        intro isMember
        rcases mem_cons.mp isMember with same | isMember
        · exact isFeed same.symm
        · exact noFeed isMember
      · rintro ⟨body, rfl, noFeed, bytesEq⟩
        cases body with
        | nil =>
          simp only [nil_append, cons_append, cons.injEq] at bytesEq
          exact absurd bytesEq.1 isFeed
        | cons _ body =>
          simp only [cons_append, cons.injEq] at bytesEq
          obtain ⟨rfl, rfl⟩ := bytesEq
          refine ⟨(body ++ [10], rest), ih.mpr ⟨body, rfl, ?_, rfl⟩, rfl⟩
          exact fun isMember => noFeed (mem_cons_of_mem _ isMember)

/-- Why `ReadSlice` ends: at a line feed, with `ErrBufferFull`, or because nothing more
arrives. -/
inductive SliceEnd
  | lineFeed
  | bufferFull
  | eof
  deriving DecidableEq

/-- What `ReadSlice` returns and leaves. -/
structure Slice where
  line : List UInt8
  ending : SliceEnd
  buffered : List UInt8
  source : Source UInt8

/-- `ReadSlice('\n')` with a buffer of the given size. -/
def readSlice (size : Nat) (buffered : List UInt8) (source : Source UInt8) : Slice :=
  match splitLine buffered with
  | some (line, rest) => ⟨line, .lineFeed, rest, source⟩
  | none =>
      if isFull : size ≤ buffered.length then ⟨buffered, .bufferFull, [], source⟩
      else
        match isRead : read (size - buffered.length) source with
        | none => ⟨buffered, .eof, [], source⟩
        | some (bytes, rest) =>
            have := length_contents_lt_of_read isRead (ne_nil_of_read isRead (by omega))
            readSlice size (buffered ++ bytes) rest
termination_by (contents source).length

/-- What a slice says about the stream that it was taken from. -/
structure SliceSpec (size : Nat) (stream : List UInt8) (slice : Slice) : Prop where
  stream_eq : stream = slice.line ++ (slice.buffered ++ contents slice.source)
  lineFeed : slice.ending = .lineFeed → ∃ body, slice.line = body ++ [10] ∧ 10 ∉ body
  bufferFull : slice.ending = .bufferFull →
    size ≤ slice.line.length ∧ 10 ∉ slice.line ∧ slice.buffered = []
  eof : slice.ending = .eof → 10 ∉ slice.line ∧ slice.buffered = [] ∧ slice.source = []

theorem readSlice_spec (size : Nat) (buffered : List UInt8) (source : Source UInt8) :
    SliceSpec size (buffered ++ contents source) (readSlice size buffered source) := by
  fun_induction readSlice size buffered source with
  | case1 _ _ _ _ isSplit =>
    obtain ⟨body, isLine, noFeed, rfl⟩ := splitLine_eq_some_iff.mp isSplit
    exact ⟨by rw [append_assoc], fun _ => ⟨body, isLine, noFeed⟩, nofun, nofun⟩
  | case2 _ _ isSplit isFull =>
    exact ⟨rfl, nofun, fun _ => ⟨isFull, splitLine_eq_none_iff.mp isSplit, rfl⟩, nofun⟩
  | case3 _ _ isSplit _ isRead =>
    have isEmpty := read_eq_none_iff.mp isRead
    exact ⟨rfl, nofun, nofun, fun _ => ⟨splitLine_eq_none_iff.mp isSplit, rfl, isEmpty⟩⟩
  | case4 _ _ _ _ _ _ isRead _ ih =>
    rw [contents_of_read isRead, ← append_assoc]
    exact ih

/-- A slice and what is left behind it were in the buffer. -/
theorem length_readSlice (size : Nat) (buffered : List UInt8) (source : Source UInt8)
    (fits : buffered.length ≤ size) :
    (readSlice size buffered source).line.length + (readSlice size buffered source).buffered.length
      ≤ size := by
  fun_induction readSlice size buffered source with
  | case1 _ _ _ _ isSplit =>
    obtain ⟨_, -, -, rfl⟩ := splitLine_eq_some_iff.mp isSplit
    rwa [length_append] at fits
  | case2 | case3 => exact fits
  | case4 _ _ _ _ _ _ isRead _ ih =>
    have room := length_le_of_read isRead
    apply ih
    rw [length_append]
    omega

/-- `bufio.Reader`; a buffer has at least 16 bytes. -/
structure LineReader where
  size : Nat
  atLeast : 16 ≤ size
  buffered : List UInt8
  source : Source UInt8

namespace LineReader

def new (source : Source UInt8) : LineReader where
  size := 4096
  atLeast := by decide
  buffered := []
  source

def contents (reader : LineReader) : List UInt8 :=
  reader.buffered ++ Segments.contents reader.source

def goOn (reader : LineReader) (buffered : List UInt8) (source : Source UInt8) : LineReader :=
  { reader with buffered, source }

def dropEnding (line : List UInt8) : List UInt8 :=
  if line.dropLast.getLast? = some 13 then line.dropLast.dropLast else line.dropLast

/-- `ReadLine`: a line, and whether it is only a part of one. -/
def readLine (reader : LineReader) : Option (List UInt8 × Bool × LineReader) :=
  let slice := readSlice reader.size reader.buffered reader.source
  match slice.ending with
  | .bufferFull =>
      -- the carriage return of an ending that does not fit is left for the next call
      if slice.line.getLast? = some 13 then
        some (slice.line.dropLast, true, reader.goOn (13 :: slice.buffered) slice.source)
      else some (slice.line, true, reader.goOn slice.buffered slice.source)
  | .eof =>
      if slice.line = [] then none
      else some (slice.line, false, reader.goOn slice.buffered slice.source)
  | .lineFeed => some (dropEnding slice.line, false, reader.goOn slice.buffered slice.source)

variable {reader : LineReader}

theorem spec (reader : LineReader) : SliceSpec reader.size reader.contents
    (readSlice reader.size reader.buffered reader.source) :=
  readSlice_spec ..

@[simp]
theorem contents_goOn (buffered : List UInt8) (source : Source UInt8) :
    (reader.goOn buffered source).contents = buffered ++ Segments.contents source :=
  rfl

/-- Either the usual ending was dropped, or less than that. -/
theorem dropEnding_concat (body : List UInt8) :
    dropEnding (body ++ [10]) ++ [13, 10] = body ++ [10] ∨
      ¬ [13, 10] <:+ body ++ [10] ∧ dropEnding (body ++ [10]) = body := by
  rw [dropEnding, dropLast_concat]
  split_ifs with hasReturn
  · obtain ⟨front, rfl⟩ := getLast?_eq_some_iff.mp hasReturn
    left
    simp
  · refine .inr ⟨?_, rfl⟩
    rintro ⟨front, isLine⟩
    have same : front ++ [13] ++ [10] = body ++ [10] := by simpa using isLine
    exact hasReturn (by simp [← append_cancel_right same])

/-- What `ReadLine` takes from a stream: its first line, which was in the buffer, or else some
bytes in front of the first line feed. -/
inductive LineSpec (reader : LineReader) (line rest : List UInt8) : Prop
  | whole (body : List UInt8) (isSplit : splitLine reader.contents = some (body ++ [10], rest))
      (isLine : line = dropEnding (body ++ [10]))
      (isShort : reader.buffered.length ≤ reader.size → body.length < reader.size)
  | part (isStream : reader.contents = line ++ rest) (isSome : line ≠ [])
      (isLong : ∀ other later, splitLine reader.contents = some (other, later) →
        reader.size < other.length)

variable {line : List UInt8} {isPrefix : Bool} {next : LineReader}

theorem readLine_spec (isRead : reader.readLine = some (line, isPrefix, next)) :
    LineSpec reader line next.contents ∧ next.size = reader.size ∧
      (reader.buffered.length ≤ reader.size → next.buffered.length ≤ reader.size) := by
  have spec := reader.spec
  have room := length_readSlice reader.size reader.buffered reader.source
  have atLeast := reader.atLeast
  rw [readLine] at isRead
  generalize readSlice reader.size reader.buffered reader.source = slice at *
  cases endingEq : slice.ending with
  | lineFeed =>
    obtain ⟨body, isLine, noFeed⟩ := spec.lineFeed endingEq
    have streamEq := spec.stream_eq
    rw [isLine] at room streamEq
    simp only [endingEq, isLine] at isRead
    cases isRead
    refine ⟨.whole body (splitLine_eq_some_iff.mpr ⟨body, rfl, noFeed, streamEq⟩) rfl ?_, rfl, ?_⟩
    · intro fits
      have room := room fits
      rw [length_append, length_singleton] at room
      omega
    · exact fun fits => Nat.le_of_add_left_le (room fits)
  | bufferFull =>
    obtain ⟨isFull, noFeed, isEmpty⟩ := spec.bufferFull endingEq
    -- the first line would end in the buffer if it were not longer
    have isLong (other later) (isSplit : splitLine reader.contents = some (other, later)) :
        reader.size < other.length := by
      by_contra isShort
      obtain ⟨body, rfl, -, streamEq⟩ := splitLine_eq_some_iff.mp isSplit
      have isFront : body ++ [10] <+: slice.line :=
        prefix_of_prefix_length_le ⟨_, streamEq.symm⟩ ⟨_, spec.stream_eq.symm⟩ (by omega)
      exact noFeed (isFront.subset (by simp))
    simp only [endingEq, isEmpty] at isRead
    split_ifs at isRead with hasReturn
    · cases isRead
      obtain ⟨front, isLine⟩ := getLast?_eq_some_iff.mp hasReturn
      rw [isLine, length_append, length_singleton] at isFull
      refine ⟨.part ?_ ?_ isLong, rfl, fun _ => show 1 ≤ reader.size by omega⟩
      · simp [spec.stream_eq, isLine, isEmpty]
      · rw [isLine, dropLast_concat, ne_eq, ← length_eq_zero_iff]
        omega
    · cases isRead
      refine ⟨.part (by simp [spec.stream_eq, isEmpty]) ?_ isLong, rfl, fun _ => Nat.zero_le _⟩
      rw [ne_eq, ← length_eq_zero_iff]
      omega
  | eof =>
    obtain ⟨noFeed, isEmpty, noSource⟩ := spec.eof endingEq
    simp only [endingEq] at isRead
    split_ifs at isRead with isNothing
    cases isRead
    refine ⟨.part spec.stream_eq isNothing ?_, rfl, fun fits => Nat.le_of_add_left_le (room fits)⟩
    intro _ _ isSplit
    rw [spec.stream_eq, isEmpty, noSource, contents_nil, append_nil, append_nil,
      splitLine_eq_none_iff.mpr noFeed] at isSplit
    cases isSplit

theorem readLine_of_not_mem (noFeed : 10 ∉ reader.contents)
    (isRead : reader.readLine = some (line, isPrefix, next)) :
    line ≠ [] ∧ 10 ∉ next.contents := by
  cases (readLine_spec isRead).1 with
  | whole _ isSplit =>
    rw [splitLine_eq_none_iff.mpr noFeed] at isSplit
    cases isSplit
  | part isStream isSome =>
    rw [isStream, mem_append, not_or] at noFeed
    exact ⟨isSome, noFeed.2⟩

theorem length_contents_lt (isRead : reader.readLine = some (line, isPrefix, next)) :
    next.contents.length < reader.contents.length := by
  cases (readLine_spec isRead).1 with
  | whole _ isSplit =>
    obtain ⟨_, -, -, streamEq⟩ := splitLine_eq_some_iff.mp isSplit
    rw [streamEq]
    simp
    omega
  | part isStream isSome =>
    have isPositive := length_pos_of_ne_nil isSome
    rw [isStream, length_append]
    omega

end LineReader

end DeepNps
