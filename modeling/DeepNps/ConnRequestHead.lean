import DeepNps.Segments
import DeepNps.Text
import Mathlib.Data.List.Infix

/-!
# The head of a proxied request

The proxy reads until what it has read ends with an empty line.  A head is recognised
only where a read ends: if more bytes arrive with its last ones, it goes on reading.
-/

namespace DeepNps.Conn

open List Segments

def requestEndBytes : List UInt8 := [13, 10, 13, 10]

inductive GetHostError
  | eof
  | noProgress
  | unexpectedEOF
  | readRequest (rb : List UInt8) (cause : String)
  deriving DecidableEq

/-- `readRequest`, with what is in the buffer so far.  A connection is what is put back into it
and what arrives, in segments; nothing more arrives when the client has closed it or waits. -/
def readRequest (capacity : Nat) (buf : List UInt8) (source : Source UInt8) :
    Except GetHostError (List UInt8) × Source UInt8 :=
  match isRead : read (capacity - buf.length) source with
  | none => (.error .eof, source)
  | some (bytes, rest) =>
      if isEmpty : bytes = [] then (.error .noProgress, rest)
      else
        have := length_contents_lt_of_read isRead isEmpty
        if (buf ++ bytes).length < 4 then readRequest capacity (buf ++ bytes) rest
        else if (buf ++ bytes).drop ((buf ++ bytes).length - 4) = requestEndBytes then
          (.ok (buf ++ bytes), rest)
        -- the buffer is full
        else if (buf ++ bytes).length = capacity then (.error .unexpectedEOF, rest)
        else readRequest capacity (buf ++ bytes) rest
termination_by (contents source).length

/-- The fields of `http.Request` that the proxy reads; `urlHost` is missing without a URL. -/
structure HttpRequest where
  method : String
  host : String
  urlHost : Option String
  deriving DecidableEq

/-- `http.ReadRequest`, whether `net.SplitHostPort` succeeds, and the host that `url.Parse` finds
behind two slashes. -/
structure HttpEnv where
  readRequest : List UInt8 → Except String HttpRequest
  splitHostPort : String → Bool
  parseHost : String → Option String

def joinHostPort (host port : String) : String :=
  if ':' ∈ host.toList then "[" ++ host ++ "]:" ++ port else host ++ ":" ++ port

def trimBrackets (host : String) : String :=
  if host.toList.head? = some '[' ∧ host.toList.getLast? = some ']' then
    String.ofList (host.toList.drop 1).dropLast
  else host

def defaultPort (method : String) : String := if method = "CONNECT" then "443" else "80"

def normalizeRequestHostAddress (env : HttpEnv) (request : HttpRequest) : String :=
  let host := if request.host = "" then request.urlHost.getD "" else request.host
  if host = "" then ""
  else if env.splitHostPort host then host
  else
    match env.parseHost host with
    | none => joinHostPort (trimBrackets host) (defaultPort request.method)
    | some parsed =>
        if parsed = "" then joinHostPort (trimBrackets host) (defaultPort request.method)
        else if env.splitHostPort parsed then parsed
        else joinHostPort (trimBrackets parsed) (defaultPort request.method)

structure HostRequest where
  method : String
  address : String
  rb : List UInt8
  request : HttpRequest
  deriving DecidableEq

def parseHead (env : HttpEnv) (rb : List UInt8) : Except GetHostError HostRequest :=
  match env.readRequest rb with
  | .error cause => .error (.readRequest rb cause)
  | .ok request => .ok ⟨request.method, normalizeRequestHostAddress env request, rb, request⟩

def maxHead : Nat := 32 * 1024

def getHost (env : HttpEnv) (source : Source UInt8) :
    Except GetHostError HostRequest × Source UInt8 :=
  let (outcome, rest) := readRequest maxHead [] source
  (outcome.bind (parseHead env), rest)

/-- A head ends where the first empty line ends. -/
structure IsHead (head : List UInt8) : Prop where
  ends : requestEndBytes <:+ head
  isFirst : ∀ front, front <+: head → requestEndBytes <:+ front → front = head

section Rules

variable {capacity : Nat} {buf bytes head tail further : List UInt8} {source rest : Source UInt8}

theorem drop_eq_requestEndBytes_iff :
    buf.drop (buf.length - 4) = requestEndBytes ↔ requestEndBytes <:+ buf := by
  constructor
  · intro isEnd
    rw [← isEnd]
    exact drop_suffix ..
  · intro isSuffix
    exact (suffix_iff_eq_drop.mp isSuffix).symm

/-- A read stops within the head if a segment ends there or the buffer does. -/
theorem next_of_read (isRead : read (capacity - buf.length) source = some (bytes, rest))
    (isRest : buf ++ tail = head) (nonempty : tail ≠ []) (fits : head.length ≤ capacity)
    (arrives : contents source = tail ++ further)
    (stops : EndsAt source tail ∨ head.length = capacity) :
    ∃ more, buf ++ bytes ++ more = head ∧ contents rest = more ++ further ∧
      (EndsAt rest more ∨ head.length = capacity) := by
  have room : buf.length + tail.length ≤ capacity := by
    rw [← length_append, isRest]
    exact fits
  obtain ⟨more, rfl, stillStops⟩ : ∃ more, bytes ++ more = tail ∧
      (EndsAt rest more ∨ head.length = capacity) := by
    rcases stops with ends | full
    · obtain ⟨more, isMore, ends⟩ := ends.read nonempty (by omega) isRead
      exact ⟨more, isMore, .inl ends⟩
    · have isFull := congrArg length isRest
      rw [length_append] at isFull
      obtain ⟨more, isMore⟩ := prefix_of_prefix_length_le
        ⟨contents rest, (contents_of_read isRead).symm⟩ ⟨further, arrives.symm⟩
        (by have := length_le_of_read isRead; omega)
      exact ⟨more, isMore, .inr full⟩
  refine ⟨more, by rw [append_assoc, isRest], ?_, stillStops⟩
  rw [contents_of_read isRead, append_assoc] at arrives
  exact append_cancel_left arrives

/-- A head is read to its end, and nothing after it, if a read stops there. -/
theorem IsHead.readRequest_eq (isHead : IsHead head) (fits : head.length ≤ capacity)
    (isRest : buf ++ tail = head) (nonempty : tail ≠ [])
    (arrives : contents source = tail ++ further)
    (stops : EndsAt source tail ∨ head.length = capacity) :
    ∃ rest, readRequest capacity buf source = (.ok head, rest) ∧ contents rest = further := by
  have enough : 4 ≤ head.length := isHead.ends.length_le
  fun_induction readRequest capacity buf source generalizing tail with
  | case1 _ _ isRead => simp [read_eq_none_iff.mp isRead, nonempty] at arrives
  | case2 buf _ _ isRead =>
    have room := congrArg length isRest
    have hasMore := length_pos_of_ne_nil nonempty
    rw [length_append] at room
    exact absurd rfl (ne_nil_of_read isRead (by omega))
  | case3 _ _ _ _ isRead _ _ isShort ih =>
    obtain ⟨more, isRest, arrives, stops⟩ := next_of_read isRead isRest nonempty fits arrives stops
    refine ih isRest ?_ arrives stops
    rintro rfl
    rw [append_nil] at isRest
    rw [isRest] at isShort
    omega
  | case4 _ _ _ _ isRead _ _ _ isEnd =>
    obtain ⟨more, isRest, arrives, -⟩ := next_of_read isRead isRest nonempty fits arrives stops
    have isWhole := isHead.isFirst _ ⟨more, isRest⟩ (drop_eq_requestEndBytes_iff.mp isEnd)
    rw [isWhole, append_right_eq_self] at isRest
    exact ⟨_, by rw [isWhole], by rw [arrives, isRest, nil_append]⟩
  | case5 _ _ _ _ isRead _ _ _ notEnd isFull =>
    obtain ⟨more, isRest, -⟩ := next_of_read isRead isRest nonempty fits arrives stops
    have isWhole := IsPrefix.eq_of_length_le ⟨more, isRest⟩ (by omega)
    rw [isWhole, drop_eq_requestEndBytes_iff] at notEnd
    exact absurd isHead.ends notEnd
  | case6 _ _ _ _ isRead _ _ _ notEnd _ ih =>
    obtain ⟨more, isRest, arrives, stops⟩ := next_of_read isRead isRest nonempty fits arrives stops
    refine ih isRest ?_ arrives stops
    rintro rfl
    rw [append_nil] at isRest
    rw [isRest, drop_eq_requestEndBytes_iff] at notEnd
    exact notEnd isHead.ends

/-- What was read ends with a segment or fills the buffer. -/
theorem ends_of_readRequest (large : 4 ≤ capacity) (fits : buf.length ≤ capacity)
    (isOk : readRequest capacity buf source = (.ok head, rest)) :
    (∃ items, buf ++ items = head ∧ EndsAt source items) ∨ head.length = capacity := by
  have filled {buf bytes : List UInt8} (fits : buf.length ≤ capacity)
      (isFull : bytes.length = capacity - buf.length) : (buf ++ bytes).length = capacity := by
    rw [length_append]
    omega
  have extend {buf : List UInt8} {source : Source UInt8} (segment : Segment UInt8)
      (ends : (∃ items, buf ++ segment.val ++ items = head ∧ EndsAt source items) ∨
        head.length = capacity) :
      (∃ items, buf ++ items = head ∧ EndsAt (segment :: source) items) ∨
        head.length = capacity := by
    refine ends.imp_left ?_
    rintro ⟨items, isHead, ends⟩
    exact ⟨segment.val ++ items, by rw [← append_assoc, isHead], ends.cons segment⟩
  fun_induction readRequest capacity buf source with
  | case1 | case2 | case5 => cases isOk
  | case3 buf _ bytes _ isRead _ _ isShort ih =>
    have room := length_le_of_read isRead
    rcases cons_or_full_of_read isRead with ⟨segment, rfl, rfl⟩ | isFull
    · exact extend segment (ih (by rw [length_append]; omega) isOk)
    · rw [filled fits isFull] at isShort
      omega
  | case4 buf _ bytes _ isRead =>
    cases isOk
    rcases cons_or_full_of_read isRead with ⟨segment, rfl, rfl⟩ | isFull
    · exact extend segment (.inl ⟨[], append_nil _, endsAt_nil _⟩)
    · exact .inr (filled fits isFull)
  | case6 buf _ bytes _ isRead _ _ _ _ notFull ih =>
    have room := length_le_of_read isRead
    rcases cons_or_full_of_read isRead with ⟨segment, rfl, rfl⟩ | isFull
    · exact extend segment (ih (by rw [length_append]; omega) isOk)
    · exact absurd (filled fits isFull) notFull

/-- What is read is refused only by the parser. -/
theorem readRequest_ne_error (rb : List UInt8) (cause : String) :
    (readRequest capacity buf source).1 ≠ .error (.readRequest rb cause) := by
  fun_induction readRequest capacity buf source with
  | case1 | case2 | case4 | case5 => rintro ⟨⟩
  | case3 _ _ _ _ _ _ _ _ ih | case6 _ _ _ _ _ _ _ _ _ _ ih => exact ih

end Rules

/-- A head that was parsed, or refused, is the one that was read. -/
theorem readRequest_of_parseHead {env : HttpEnv} {head : List UInt8} {source rest : Source UInt8}
    (isRead : getHost env source = (parseHead env head, rest)) :
    readRequest maxHead [] source = (.ok head, rest) := by
  have notRefused := @readRequest_ne_error maxHead [] source
  rw [getHost] at isRead
  cases isOutcome : readRequest maxHead [] source with
  | mk outcome after =>
    rw [isOutcome] at isRead notRefused
    obtain ⟨isParsed, rfl⟩ := Prod.mk.inj isRead
    cases outcome <;> cases parsed : env.readRequest head <;>
      grind [parseHead, Except.bind]

/-- A head of at most 32 KiB is read as it is and nothing more, exactly if a segment ends where it
ends or it fills the buffer. -/
theorem request_head_read (env : HttpEnv) (head : List UInt8) (isHead : IsHead head)
    (fits : head.length ≤ maxHead) (source : Source UInt8) (further : List UInt8)
    (arrives : contents source = head ++ further) :
    (∃ rest, getHost env source = (parseHead env head, rest) ∧ contents rest = further) ↔
      EndsAt source head ∨ head.length = maxHead := by
  constructor
  · rintro ⟨rest, isRead, -⟩
    rcases ends_of_readRequest (by decide) (by simp) (readRequest_of_parseHead isRead) with
      ⟨_, rfl, ends⟩ | isFull
    · exact .inl ends
    · exact .inr isFull
  · intro stops
    have nonempty : head ≠ [] := by
      rintro rfl
      cases isHead.ends.length_le
    obtain ⟨rest, isRead, isFurther⟩ :=
      isHead.readRequest_eq fits (nil_append head) nonempty arrives stops
    refine ⟨rest, ?_, isFurther⟩
    rw [getHost, isRead]
    rfl

def connectEnv : HttpEnv where
  readRequest := fun rb =>
    if rb = Text.ascii "CONNECT a:1 HTTP/1.1\r\n\r\n" then .ok ⟨"CONNECT", "a:1", some "a:1"⟩
    else .error "malformed HTTP request"
  splitHostPort := fun host => ':' ∈ host.toList
  parseHost := some

instance (head : List UInt8) : Decidable (IsHead head) :=
  decidable_of_iff (requestEndBytes <:+ head ∧
      ∀ front ∈ head.inits, requestEndBytes <:+ front → front = head) (by
    constructor
    · rintro ⟨ends, isFirst⟩
      exact ⟨ends, fun front isFront => isFirst front ((List.mem_inits _ _).mpr isFront)⟩
    · rintro ⟨ends, isFirst⟩
      exact ⟨ends, fun front isFront => isFirst front ((List.mem_inits _ _).mp isFront)⟩)

/-- A head in three segments, and the first byte of the tunnelled protocol after it. -/
theorem request_head_read_connect :
    let segments := ofParts [Text.ascii "CONNECT a:", Text.ascii "1 HTTP/1.1\r",
      Text.ascii "\n\r\n"]
    ∃ rest, getHost connectEnv (segments ++ ofParts [[0x16]]) =
        (.ok ⟨"CONNECT", "a:1", Text.ascii "CONNECT a:1 HTTP/1.1\r\n\r\n",
          ⟨"CONNECT", "a:1", some "a:1"⟩⟩, rest) ∧ contents rest = [0x16] := by
  intro segments
  have isHead : IsHead (Text.ascii "CONNECT a:1 HTTP/1.1\r\n\r\n") := by decide +kernel
  exact (request_head_read connectEnv _ isHead (by decide +kernel) _ [0x16]
    (by decide +kernel)).mpr (.inl ⟨segments, ofParts [[0x16]], rfl, by decide +kernel⟩)

/-- When a byte of the tunnelled protocol arrives with the head, the proxy takes it and waits. -/
theorem request_head_missed :
    IsHead (Text.ascii "CONNECT a:1 HTTP/1.1\r\n\r\n") ∧
      getHost connectEnv (ofParts [Text.ascii "CONNECT a:1 HTTP/1.1\r\n\r\n" ++ [0x16]]) =
        (.error .eof, []) := by
  decide +kernel

end DeepNps.Conn
