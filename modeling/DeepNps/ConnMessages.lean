import DeepNps.ByteOrder
import DeepNps.Segments

/-!
# Length-prefixed messages

The sender of a message accepts any length that fits an `int32`, the receivers only what fits
their buffers.
-/

namespace DeepNps.Conn

open ByteOrder Segments Option List

abbrev Bytes : Type := List UInt8

def maxLengthPrefixedPayload : Nat := 2 ^ 31 - 1

def appendLenBytes (dst payload : Bytes) : Option Bytes :=
  if payload.length > maxLengthPrefixedPayload then none
  else some (dst ++ (putLittleEndian 4 payload.length ++ payload))

def getLen (source : Source UInt8) : Option (Int × Source UInt8) :=
  (Segments.readFull 4 source).map fun read => (Int.bmod (littleEndian read.1) (2 ^ 32), read.2)

/-- The functions that read a length and a content; `getInfo` then decodes the content. -/
inductive Reader
  | getInfo
  | getShortLenContent

/-- The size of a pooled buffer, and the limit of `GetShortLenContent`. -/
def Reader.limit : Reader → Nat
  | .getInfo => 64 * 1024
  | .getShortLenContent => 32 * 1024

def Reader.read (reader : Reader) (source : Source UInt8) : Option (Bytes × Source UInt8) :=
  (getLen source).bind fun read =>
    if read.1 < 0 ∨ read.1 > reader.limit then none else Segments.readFull read.1.toNat read.2

def readFlag (source : Source UInt8) : Option (Bytes × Source UInt8) := Segments.readFull 4 source

/-- A message of `SendInfo`, or one of `WriteLenContent`, which has no flag, and the function
that the peer reads it with. -/
structure Message where
  flag : Bytes
  content : Bytes
  reader : Reader

def Message.send (message : Message) : Option Bytes := appendLenBytes message.flag message.content

def receive (hasFlag : Bool) (reader : Reader) (source : Source UInt8) :
    Option (Message × Source UInt8) :=
  (if hasFlag then readFlag source else some ([], source)).bind fun flag =>
    (reader.read flag.2).map fun read => (⟨flag.1, read.1, reader⟩, read.2)

def sendAll : List Message → Option Bytes
  | [] => some []
  | message :: messages =>
      message.send.bind fun raw => (sendAll messages).map fun rest => raw ++ rest

/-- The messages that a peer receives that expects messages with these flags and readers. -/
def receiveAll : List (Bool × Reader) → Source UInt8 → Option (List Message × Source UInt8)
  | [], source => some ([], source)
  | (hasFlag, reader) :: expected, source =>
      (receive hasFlag reader source).bind fun first =>
        (receiveAll expected first.2).map fun others => (first.1 :: others.1, others.2)

/-- The flag is one that `ReadFlag` reads whole, and the content fits the reader. -/
def Message.Fits (message : Message) : Prop :=
  (message.flag = [] ∨ message.flag.length = 4) ∧ message.content.length ≤ message.reader.limit

def Message.expected (message : Message) : Bool × Reader := (!message.flag.isEmpty, message.reader)

variable {source : Source UInt8} {more : Bytes} {message : Message}

theorem getLen_eq {length : Nat} (fits : length ≤ maxLengthPrefixedPayload)
    (isStream : contents source = putLittleEndian 4 length ++ more) :
    ∃ rest, getLen source = some ((length : Int), rest) ∧ contents rest = more := by
  obtain ⟨rest, isRead, isRest⟩ := readFull_of_contents (length_putLittleEndian 4 length) isStream
  rw [maxLengthPrefixedPayload] at fits
  have isLength : Int.bmod length (2 ^ 32) = length := by
    rw [Int.bmod]
    omega
  refine ⟨rest, ?_, isRest⟩
  rw [getLen, isRead, map_some, littleEndian_putLittleEndian (by omega), isLength]

theorem Reader.read_eq (reader : Reader) {content : Bytes}
    (accepted : content.length ≤ maxLengthPrefixedPayload)
    (isStream : contents source = putLittleEndian 4 content.length ++ (content ++ more)) :
    (content.length ≤ reader.limit →
      ∃ rest, reader.read source = some (content, rest) ∧ contents rest = more) ∧
    (reader.limit < content.length → reader.read source = none) := by
  obtain ⟨rest, isLength, isRest⟩ := getLen_eq accepted isStream
  rw [Reader.read, isLength, bind_some]
  dsimp only
  refine ⟨fun within => ?_, fun beyond => if_pos (by omega)⟩
  obtain ⟨last, isRead, isLast⟩ := readFull_of_contents rfl isRest
  rw [if_neg (by omega), Int.toNat_natCast]
  exact ⟨last, isRead, isLast⟩

theorem receive_send {raw : Bytes} (isSent : message.send = some raw) (fits : message.Fits)
    (isStream : contents source = raw ++ more) :
    ∃ rest, receive message.expected.1 message.expected.2 source = some (message, rest) ∧
      contents rest = more := by
  obtain ⟨isFlag, within⟩ := fits
  rw [Message.send, appendLenBytes] at isSent
  split_ifs at isSent with tooLong
  cases isSent
  rw [append_assoc, append_assoc] at isStream
  obtain ⟨behind, flagRead, isBehind⟩ : ∃ behind,
      (if message.expected.1 then readFlag source else some ([], source)) =
        some (message.flag, behind) ∧ contents behind =
          putLittleEndian 4 message.content.length ++ (message.content ++ more) := by
    rcases isFlag with noFlag | isFlag
    · rw [noFlag] at isStream
      exact ⟨source, by simp [Message.expected, noFlag], isStream⟩
    · have nonempty : message.flag ≠ [] := ne_nil_of_length_eq_add_one isFlag
      obtain ⟨behind, isRead, isBehind⟩ := readFull_of_contents isFlag isStream
      exact ⟨behind, by simpa [Message.expected, nonempty, readFlag] using isRead, isBehind⟩
  obtain ⟨rest, isRead, isRest⟩ :=
    (message.reader.read_eq (Nat.le_of_not_gt tooLong) isBehind).1 within
  refine ⟨rest, ?_, isRest⟩
  rw [receive, flagRead, Option.bind_some]
  exact congrArg (Option.map _) isRead

/-- Messages that fit their readers are received as they were sent, wherever the stream is cut,
and nothing behind them is read. -/
theorem messages_come_through {messages : List Message} {bytes : Bytes}
    (isSent : sendAll messages = some bytes) (fits : ∀ message ∈ messages, message.Fits)
    (isStream : contents source = bytes ++ more) :
    ∃ rest, receiveAll (messages.map Message.expected) source = some (messages, rest) ∧
      contents rest = more := by
  induction messages generalizing source bytes with
  | nil =>
    cases isSent
    exact ⟨source, rfl, isStream⟩
  | cons message messages ih =>
    obtain ⟨raw, isRaw, isSent⟩ := bind_eq_some_iff.mp isSent
    obtain ⟨_, isRest, rfl⟩ := map_eq_some_iff.mp isSent
    rw [append_assoc] at isStream
    obtain ⟨rest, isReceived, isStream⟩ :=
      receive_send isRaw (fits message mem_cons_self) isStream
    obtain ⟨last, areReceived, isLast⟩ :=
      ih isRest (fun other isOther => fits other (mem_cons_of_mem _ isOther)) isStream
    exact ⟨last, by simp [receiveAll, isReceived, areReceived], isLast⟩

theorem messages_come_through_flag : ∃ rest,
    receiveAll [(true, .getInfo)] (ofParts [[99, 111, 110], [102, 2, 0, 0, 0, 123, 125]]) =
      some ([⟨[99, 111, 110, 102], [123, 125], .getInfo⟩], rest) := by
  obtain ⟨rest, isReceived, -⟩ := @messages_come_through
    (ofParts [[99, 111, 110], [102, 2, 0, 0, 0, 123, 125]]) []
    [⟨[99, 111, 110, 102], [123, 125], .getInfo⟩] _ rfl
    (by simp [Message.Fits, Reader.limit]) (by decide)
  exact ⟨rest, isReceived⟩

/-- A content of more than 32 KiB is sent, and refused by the receiver. -/
theorem long_content_refused : ∃ (message : Message) (bytes : Bytes) (source : Source UInt8),
    message.content.length = 32769 ∧ message.send = some bytes ∧ contents source = bytes ∧
      receive message.expected.1 message.expected.2 source = none := by
  obtain ⟨content, isLength⟩ : ∃ content : Bytes, content.length = 32769 :=
    ⟨replicate 32769 0, length_replicate⟩
  have accepted : content.length ≤ maxLengthPrefixedPayload := by
    rw [isLength]
    decide
  let source : Source UInt8 := [⟨putLittleEndian 4 content.length ++ content, nofun⟩]
  have isStream : contents source = putLittleEndian 4 content.length ++ (content ++ []) := by
    simp [source]
  have refused := (Reader.getShortLenContent.read_eq accepted isStream).2
    (by simp [Reader.limit, isLength])
  exact ⟨⟨[], content, .getShortLenContent⟩, _, source, isLength,
    if_neg (Nat.not_lt.mpr accepted), List.append_nil _, congrArg (Option.map _) refused⟩

end DeepNps.Conn
