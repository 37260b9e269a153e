import DeepNps.LabelledRuns
import DeepNps.PmuxClassifier

/-!
# What the shared port changes

A route gets the bytes as they were sent, unless the head of an HTTP request had to be
read and has other or too long lines, or the hello of a TLS client was too long: then it
gets more bytes, or less.
-/

namespace DeepNps.Pmux

open List Segments Option

namespace PortConn

variable {conn next : PortConn} {size : Nat} {bytes : Bytes}

/-- A read gives the next bytes, and none only where nothing is left or wanted. -/
theorem read_spec (conn : PortConn) (size : Nat) :
    match conn.read size with
    | none => conn.contents = []
    | some (bytes, next) =>
        conn.contents = bytes ++ next.contents ∧ (0 < size → bytes ≠ []) := by
  rw [read]
  by_cases isEnough : conn.rs ≠ [] ∧ (conn.rs.take size).length = size
  · rw [if_pos isEnough]
    simp only [contents, ← append_assoc, take_append_drop, true_and]
    intro isPositive isEmpty
    rw [isEmpty, length_nil] at isEnough
    omega
  · -- there is room for all that was read before
    have isShort : conn.rs.length ≤ size := by
      by_contra isLong
      apply isEnough
      rw [length_take, ne_eq, ← length_eq_zero_iff]
      omega
    rw [if_neg isEnough, take_of_length_le isShort, drop_eq_nil_of_le isShort]
    cases sourceRead : Segments.read (size - conn.rs.length) conn.source with
    | none =>
      have isEmpty : conn.contents = conn.rs := by
        rw [contents, read_eq_none_iff.mp sourceRead, contents_nil, append_nil]
      simp only
      split_ifs with noFront
      · exact isEmpty.trans noFront
      · simp_all [contents]
    | some =>
      simp only
      refine ⟨?_, fun isPositive isEmpty => ?_⟩
      · rw [contents, contents, Segments.contents_of_read sourceRead, append_assoc, nil_append]
      · obtain ⟨noFront, noBytes⟩ := append_eq_nil_iff.mp isEmpty
        exact Segments.ne_nil_of_read sourceRead (by rwa [noFront]) noBytes

theorem contents_reads (conn : PortConn) (sizes : List Nat) :
    (conn.reads sizes).1 ++ (conn.reads sizes).2.contents = conn.contents := by
  induction sizes generalizing conn with
  | nil => rfl
  | cons size _ ih =>
    rw [reads]
    cases isRead : conn.read size with
    | none => rfl
    | some =>
      have spec := conn.read_spec size
      simp only [isRead] at spec ⊢
      rw [spec.1, append_assoc, ih]

/-- Reads of one byte come to the end. -/
theorem exists_reads (conn : PortConn) : ∃ sizes, (conn.reads sizes).2.read 1 = none := by
  generalize lengthEq : conn.contents.length = length
  induction length using Nat.strong_induction_on generalizing conn with
  | _ _ ih =>
    cases isRead : conn.read 1 with
    | none => exact ⟨[], isRead⟩
    | some taken =>
      obtain ⟨bytes, next⟩ := taken
      have spec := conn.read_spec 1
      simp only [isRead] at spec
      have isPositive := length_pos_of_ne_nil (spec.2 Nat.one_pos)
      have isStream := congrArg length spec.1
      rw [length_append] at isStream
      obtain ⟨sizes, isEnd⟩ := ih next.contents.length (by omega) next rfl
      exact ⟨1 :: sizes, by rwa [reads, isRead]⟩

/-- All reads give the bytes of a stream, in order and to its end, if the connection has them. -/
theorem reads_iff (conn : PortConn) (stream : Bytes) :
    (∀ sizes, (conn.reads sizes).1 <+: stream ∧
      ∀ size, (conn.reads sizes).2.read size = none → (conn.reads sizes).1 = stream) ↔
      conn.contents = stream := by
  have atEnd {sizes : List Nat} {size : Nat} (isEnd : (conn.reads sizes).2.read size = none) :
      (conn.reads sizes).1 = conn.contents := by
    have spec := (conn.reads sizes).2.read_spec size
    have readEq := conn.contents_reads sizes
    rw [isEnd] at spec
    rwa [spec, append_nil] at readEq
  constructor
  · intro reads
    obtain ⟨sizes, isEnd⟩ := conn.exists_reads
    rw [← atEnd isEnd]
    exact (reads sizes).2 1 isEnd
  · rintro rfl sizes
    exact ⟨⟨_, conn.contents_reads sizes⟩, fun _ => atEnd⟩

end PortConn

/-! ## The head of a request -/

/-- A line ends as it should and fits into the buffer. -/
def cleanLine (line : Bytes) : Bool := [13, 10].isSuffixOf line && line.length ≤ 4096

/-- Every line up to the empty one is clean. -/
def cleanHeaders (stream : Bytes) : Bool :=
  match isSplit : splitLine stream with
  | none => true
  | some (line, rest) =>
      have : rest.length < stream.length := by
        obtain ⟨body, rfl, -, rfl⟩ := splitLine_eq_some_iff.mp isSplit
        simp
        omega
      cleanLine line && (line = [13, 10] || cleanHeaders rest)
termination_by stream.length

/-- The same with the request line, which is not the end of a head if it is empty. -/
def cleanHead (stream : Bytes) : Bool :=
  match splitLine stream with
  | none => true
  | some (line, rest) => cleanLine line && cleanHeaders rest

section Head

variable {env : TextEnv} {mux : PortMux} {request : HttpRequestMeta} {buffer line rest : Bytes}
  {reader next : LineReader} {isPrefix : Bool} {conn : Classified}

theorem cleanHeaders_eq {stream : Bytes} (isSplit : splitLine stream = some (line, rest)) :
    cleanHeaders stream = (cleanLine line && (line = [13, 10] || cleanHeaders rest)) := by
  rw [cleanHeaders]
  split
  · rename_i isNone
    cases isSplit.symm.trans isNone
  · rename_i isSome
    cases isSplit.symm.trans isSome
    rfl

/-- Clean bytes are handed over as they were sent, and others with more bytes. -/
def Restores (isClean : Bool) (sent : Bytes) (conn : Classified) : Prop :=
  conn.rs ≠ [] ∧
    (isClean = true ∧ conn.contents = sent ∨
      isClean = false ∧ sent.length < conn.contents.length)

theorem Restores.length_le {isClean : Bool} {sent : Bytes} (restores : Restores isClean sent conn) :
    sent.length ≤ conn.contents.length := by
  rcases restores.2 with ⟨-, isSame⟩ | ⟨-, isLess⟩
  · rw [isSame]
  · exact isLess.le

/-- A clean line is put back as it was, and any other one longer. -/
theorem Restores.of_readLine {other : Bytes} (goOn : Bytes → Bytes → Bool)
    (size : reader.size = 4096) (fits : reader.buffered.length ≤ reader.size)
    (isRead : reader.readLine = some (line, isPrefix, next))
    (isSplit : splitLine reader.contents = some (other, rest))
    (restores : Restores (goOn (line ++ [13, 10]) next.contents)
      (buffer ++ line ++ [13, 10] ++ next.contents) conn) :
    Restores (cleanLine other && goOn other rest) (buffer ++ reader.contents) conn := by
  have isLonger (notClean : cleanLine other = false)
      (longer : reader.contents.length < line.length + 2 + next.contents.length) :
      Restores (cleanLine other && goOn other rest) (buffer ++ reader.contents) conn := by
    have atLeast := restores.length_le
    simp only [length_append, length_cons, length_nil] at atLeast
    refine ⟨restores.1, .inr ⟨by rw [notClean, Bool.false_and], ?_⟩⟩
    rw [length_append]
    omega
  cases (LineReader.readLine_spec isRead).1 with
  | whole body lineSplit isLine isShort =>
    obtain ⟨-, -, -, streamEq⟩ := splitLine_eq_some_iff.mp lineSplit
    cases isSplit.symm.trans lineSplit
    subst isLine
    rcases LineReader.dropEnding_concat body with isSame | ⟨notSame, isBody⟩
    · have isClean : cleanLine (body ++ [10]) = true := by
        have fitsIn := isShort fits
        rw [cleanLine, Bool.and_eq_true, isSuffixOf_iff_suffix, decide_eq_true_eq, length_append,
          length_singleton]
        exact ⟨⟨_, isSame⟩, by omega⟩
      rw [isClean, Bool.true_and, streamEq, ← isSame, ← append_assoc, ← append_assoc]
      exact restores
    · apply isLonger
      · simp [cleanLine, notSame]
      · rw [isBody, streamEq, length_append, length_append, length_singleton]
        omega
  | part isStream _ isLong =>
    have notShort := isLong _ _ isSplit
    rw [size] at notShort
    apply isLonger
    · simp [cleanLine, Nat.not_le.mpr notShort]
    · rw [isStream, length_append]
      omega

theorem readHeaders_of_not_mem (noFeed : 10 ∉ reader.contents) :
    readHeaders env mux request buffer reader = none := by
  fun_induction readHeaders env mux request buffer reader with
  | case1 => rfl
  | case2 _ _ _ _ _ isRead =>
    exact absurd rfl (LineReader.readLine_of_not_mem noFeed isRead).1
  | case3 _ _ _ _ _ _ isRead _ _ _ ih =>
    exact ih (LineReader.readLine_of_not_mem noFeed isRead).2

theorem exists_split_of_readHeaders
    (isHanded : readHeaders env mux request buffer reader = some conn) :
    ∃ line rest, splitLine reader.contents = some (line, rest) := by
  cases isSplit : splitLine reader.contents with
  | none =>
    rw [readHeaders_of_not_mem (splitLine_eq_none_iff.mp isSplit)] at isHanded
    cases isHanded
  | some parts => exact ⟨_, _, rfl⟩

theorem restores_readHeaders (size : reader.size = 4096)
    (fits : reader.buffered.length ≤ reader.size)
    (isHanded : readHeaders env mux request buffer reader = some conn) :
    Restores (cleanHeaders reader.contents) (buffer ++ reader.contents) conn := by
  have hasFeed := exists_split_of_readHeaders isHanded
  fun_induction readHeaders env mux request buffer reader with
  | case1 => cases isHanded
  | case2 _ _ _ _ _ isRead _ restored =>
    obtain ⟨_, -, rfl⟩ := map_eq_some_iff.mp isHanded
    obtain ⟨_, _, isSplit⟩ := hasFeed
    rw [cleanHeaders_eq isSplit]
    apply Restores.of_readLine (fun line rest => line = [13, 10] || cleanHeaders rest)
      size fits isRead isSplit
    refine ⟨append_ne_nil_of_left_ne_nil (by simp [restored]) _, .inl ⟨rfl, ?_⟩⟩
    simp [restored, PortConn.contents, LineReader.contents]
  | case3 _ _ _ line _ next isRead _ _ isText ih =>
    obtain ⟨-, nextSize, nextFits⟩ := LineReader.readLine_spec isRead
    have later := ih (nextSize.trans size) (nextSize ▸ nextFits fits) isHanded
      (exists_split_of_readHeaders isHanded)
    obtain ⟨_, _, isSplit⟩ := hasFeed
    rw [cleanHeaders_eq isSplit]
    apply Restores.of_readLine (fun line rest => line = [13, 10] || cleanHeaders rest)
      size fits isRead isSplit
    have notEnd : line ++ [13, 10] ≠ [13, 10] := by simpa using isText
    rwa [decide_eq_false notEnd, Bool.false_or]

theorem restores_readHead {source : Source UInt8} {first : Bytes}
    (isHanded : readHead env mux source first = some conn) :
    Restores (cleanHead (contents source)) (first ++ contents source) conn := by
  rw [readHead] at isHanded
  cases isRead : (LineReader.new source).readLine with
  | none =>
    rw [isRead] at isHanded
    cases isHanded
  | some taken =>
    obtain ⟨line, isPrefix, next⟩ := taken
    simp only [isRead] at isHanded
    obtain ⟨-, nextSize, nextFits⟩ := LineReader.readLine_spec isRead
    rw [cleanHead]
    cases isSplit : splitLine (contents source) with
    | none =>
      have noFeed : 10 ∉ (LineReader.new source).contents := splitLine_eq_none_iff.mp isSplit
      rw [readHeaders_of_not_mem (LineReader.readLine_of_not_mem noFeed isRead).2] at isHanded
      cases isHanded
    | some =>
      apply Restores.of_readLine (fun _ rest => cleanHeaders rest) rfl (Nat.zero_le _) isRead
        isSplit
      exact restores_readHeaders nextSize (nextSize ▸ nextFits (Nat.zero_le _)) isHanded

end Head

/-! ## The hand-over -/

section HandOver

variable {env : TextEnv} {mux : PortMux} {handshake : Crypt.Handshake}
  {source rest : Source UInt8} {first : Bytes} {conn : Classified}

/-- A route gets either nothing in front of the connection, or what was read, which is all
that was sent just if it could be put back. -/
def Keeps (first : Bytes) (rest : Source UInt8) (conn : Classified) (isKept : Prop) : Prop :=
  (conn.rs = [] ∧ conn.source = rest ∧ isKept) ∨
    (conn.rs ≠ [] ∧ (conn.contents = first ++ contents rest ↔ isKept))

theorem keeps_classifyHTTP (isHanded : classifyHTTP env mux rest first = some conn) :
    Keeps first rest conn (readsHead env mux = true → cleanHead (contents rest) = true) := by
  rw [classifyHTTP] at isHanded
  split_ifs at isHanded with reads
  · obtain ⟨hasFront, ⟨isClean, isSame⟩ | ⟨notClean, isLonger⟩⟩ := restores_readHead isHanded
    · exact .inr ⟨hasFront, by simp [isSame, isClean]⟩
    · refine .inr ⟨hasFront, ?_⟩
      simp only [reads, notClean, Bool.false_eq_true, forall_const, iff_false]
      intro isSame
      rw [isSame] at isLonger
      exact Nat.lt_irrefl _ isLonger
  · cases entries : routeEntries env mux .http with
    | nil =>
      simp only [entries] at isHanded
      obtain ⟨_, -, rfl⟩ := map_eq_some_iff.mp isHanded
      exact .inl ⟨rfl, rfl, fun isReading => absurd isReading reads⟩
    | cons only =>
      simp only [entries] at isHanded
      cases isHanded
      exact .inl ⟨rfl, rfl, fun isReading => absurd isReading reads⟩

theorem keeps_classifyTLS (hasFirst : first ≠ [])
    (isHanded : classifyTLS env mux handshake rest first = some conn) :
    Keeps first rest conn
      (readsHello env mux = true → handshake.Fits (Crypt.SniffConn.behind rest first)) := by
  rw [classifyTLS] at isHanded
  split_ifs at isHanded with reads
  · obtain ⟨_, -, rfl⟩ := map_eq_some_iff.mp isHanded
    refine .inr ⟨Crypt.readClientHello_ne_nil hasFirst, ?_⟩
    obtain ⟨fits, isSame⟩ | ⟨notFits, isShorter⟩ :=
      handshake.stream_run (Crypt.SniffConn.behind rest first)
    · exact ⟨fun _ _ => fits, fun _ => isSame⟩
    · refine ⟨fun isSame => ?_, fun fits => absurd (fits reads) notFits⟩
      exact absurd (congrArg length isSame) isShorter.ne
  · obtain ⟨_, -, rfl⟩ := map_eq_some_iff.mp isHanded
    exact .inl ⟨rfl, rfl, fun isReading => absurd isReading reads⟩

/-- Behind the first bytes, a head that has to be read is clean, and a hello that has to be
read fits. -/
def ReadableBehind (env : TextEnv) (mux : PortMux) (handshake : Crypt.Handshake) (first : Bytes)
    (rest : Source UInt8) : Prop :=
  if bytesToNum first ∈ httpMethods then
    readsHead env mux = true → cleanHead (contents rest) = true
  else if bytesToNum first = clientSign then True
  else readsHello env mux = true → handshake.Fits (Crypt.SniffConn.behind rest first)

def Readable (env : TextEnv) (mux : PortMux) (handshake : Crypt.Handshake)
    (source : Source UInt8) : Prop :=
  ∀ first rest, readFull 3 source = some (first, rest) →
    ReadableBehind env mux handshake first rest

theorem contents_of_process (isHanded : process env mux handshake source = some conn) :
    conn.contents = contents source ↔ Readable env mux handshake source := by
  rw [process] at isHanded
  cases isRead : readFull 3 source with
  | none =>
    rw [isRead] at isHanded
    cases isHanded
  | some taken =>
    obtain ⟨first, rest⟩ := taken
    simp only [isRead] at isHanded
    obtain ⟨classified, isClassified, rfl⟩ := map_eq_some_iff.mp isHanded
    obtain ⟨contentsEq, lengthEq⟩ := contents_of_readFull isRead
    have hasFirst : first ≠ [] := by
      rintro rfl
      cases lengthEq
    have readableIff : Readable env mux handshake source ↔
        ReadableBehind env mux handshake first rest := by
      simp [Readable, isRead]
    have keeps : Keeps first rest classified (ReadableBehind env mux handshake first rest) := by
      rw [ReadableBehind]
      split_ifs at isClassified ⊢
      · exact keeps_classifyHTTP isClassified
      · obtain ⟨_, -, rfl⟩ := map_eq_some_iff.mp isClassified
        exact .inl ⟨rfl, rfl, trivial⟩
      · exact keeps_classifyTLS hasFirst isClassified
    rw [contentsEq, readableIff]
    rcases keeps with ⟨noFront, sourceEq, isKept⟩ | ⟨hasFront, keptIff⟩
    · rw [if_pos noFront, PortConn.contents, sourceEq]
      exact iff_of_true rfl isKept
    · rwa [if_neg hasFront]

end HandOver

/-- A route gets exactly the bytes that the client sent, in order and to their end, if and only
if a head that had to be read is clean and a hello that had to be read fits. -/
theorem dispatch_transparent (env : TextEnv) (mux : PortMux) (handshake : Crypt.Handshake)
    (source : Source UInt8) (conn : Classified)
    (isHanded : process env mux handshake source = some conn) :
    (∀ sizes, (conn.reads sizes).1 <+: contents source ∧
      ∀ size, (conn.reads sizes).2.read size = none → (conn.reads sizes).1 = contents source) ↔
      Readable env mux handshake source := by
  rw [PortConn.reads_iff, contents_of_process isHanded]

def asciiEnv : TextEnv where
  equalFold := fun text other =>
    let lower := fun byte : UInt8 => if 65 ≤ byte ∧ byte ≤ 90 then byte + 32 else byte
    text.map lower = other.map lower
  trimSpace := fun text => ((text.dropWhile (· = 32)).reverse.dropWhile (· = 32)).reverse
  fields := fun text => (text.splitOn 32).filter (· ≠ [])
  parseRequestURI := fun _ => none

def proxyMux : PortMux where
  managerHost := []
  clientHost := []
  bridgePath := []
  registered := fun kind => kind = .http ∨ kind = .https

def cleanRequest : Source UInt8 :=
  ofParts [Text.ascii "GE", Text.ascii "T / HTTP/1.1\r\nHost: a\r", Text.ascii "\n\r\nbody"]

theorem dispatch_transparent_request :
    ∃ conn, process asciiEnv proxyMux (.done none) cleanRequest = some conn ∧
      (∀ sizes, (conn.reads sizes).1 <+: contents cleanRequest ∧ ∀ size,
        (conn.reads sizes).2.read size = none → (conn.reads sizes).1 = contents cleanRequest) ∧
      ∃ sizes, (conn.reads sizes).2.read 1 = none := by
  have isHanded : (process asciiEnv proxyMux (.done none) cleanRequest).isSome = true := by
    decide +kernel
  obtain ⟨conn, isHanded⟩ := isSome_iff_exists.mp isHanded
  have firstRead : (readFull 3 cleanRequest).map (fun taken =>
      decide (bytesToNum taken.1 ∈ httpMethods) && cleanHead (contents taken.2)) = some true := by
    decide +kernel
  have readable : Readable asciiEnv proxyMux (.done none) cleanRequest := by
    intro _ _ isRead
    rw [isRead, map_some, some.injEq, Bool.and_eq_true, decide_eq_true_eq] at firstRead
    rw [ReadableBehind, if_pos firstRead.1]
    exact fun _ => firstRead.2
  have transparent := (dispatch_transparent asciiEnv proxyMux (.done none) cleanRequest conn
    isHanded).mpr readable
  exact ⟨conn, isHanded, transparent, conn.exists_reads⟩

/-- Lines that end with a line feed alone get another ending. -/
theorem dispatch_changes_endings :
    ∃ conn, process asciiEnv proxyMux (.done none)
        (ofParts [Text.ascii "GET / HTTP/1.1\nHost: a\n\n"]) = some conn ∧ conn.route = .http ∧
      (conn.reads [64]).1 = Text.ascii "GET / HTTP/1.1\r\nHost: a\r\n\r\n" ∧
      ¬ (conn.reads [64]).1 <+: Text.ascii "GET / HTTP/1.1\nHost: a\n\n" := by
  exact Runs.exists_of_any (by decide +kernel)

end DeepNps.Pmux
