import Mathlib.Data.List.Basic

/-!
# Mux frames

The fields of a `muxPackager` and the checks of `Set`.  A packager's content buffer is
modelled by its first `length` bytes.
-/

namespace DeepNps.Mux

def muxPingFlag : UInt8 := 0
def muxNewConnOk : UInt8 := 1
def muxNewConnFail : UInt8 := 2
def muxNewMsg : UInt8 := 3
def muxNewMsgPart : UInt8 := 4
def muxMsgSendOk : UInt8 := 5
def muxNewConn : UInt8 := 6
def muxConnClose : UInt8 := 7
def muxPingReturn : UInt8 := 8
def muxPeerHello : UInt8 := 9
def muxConnCloseWrite : UInt8 := 10

def muxPing : Int32 := -1

def poolSizeBuffer : Nat := 4096

/-- Room for content in a pooled buffer: the frame header is taken off. -/
def poolSizeWindow : Nat := poolSizeBuffer - 2 - 4 - 4 - 1

def maximumSegmentSize : Nat := poolSizeWindow

def maximumWindowSize : Nat := 1 <<< 27

def isMuxStreamDataFlag (flag : UInt8) : Bool := flag == muxNewMsg || flag == muxNewMsgPart

def isMuxOrderedCloseFlag (flag : UInt8) : Bool := flag == muxConnClose || flag == muxConnCloseWrite

def isMuxStreamOrderedFlag (flag : UInt8) : Bool :=
  isMuxStreamDataFlag flag || isMuxOrderedCloseFlag flag

/-- A frame as it waits in the write queue or comes off the wire. -/
structure MuxPackager where
  flag : UInt8
  id : Int32
  window : UInt64 := 0
  priority : Bool := false
  content : List UInt8 := []
  deriving DecidableEq, Repr

/-- The dynamic type of the `content interface{}` argument of `Set`. -/
inductive FrameData where
  | nil
  | bytes (buf : List UInt8)
  | window (word : UInt64)
  deriving DecidableEq, Repr

/-- `basePackager.Set`: a data frame carries between one byte and one segment. -/
def basePackagerSet (pack : MuxPackager) (content : List UInt8) : Except String MuxPackager :=
  if content.length = 0 then
    .error "mux:packer: new pack content is empty"
  else if maximumSegmentSize < content.length then
    .error "mux:packer: new pack content segment too large"
  else
    .ok { pack with content := content }

/-- The flags whose frames carry a length and that many content bytes. -/
def carriesContent (flag : UInt8) : Bool :=
  flag == muxPingFlag || flag == muxPingReturn || flag == muxNewMsg || flag == muxNewMsgPart

/-- `muxPackager.Set` on a packager fresh from the pool. -/
def MuxPackager.set (priority : Bool) (flag : UInt8) (id : Int32) (content : FrameData) :
    Except String MuxPackager :=
  let pack : MuxPackager := { flag := flag, id := id, priority := priority }
  if carriesContent flag then
    match content with
    | .nil => .error "mux:packer: data content is nil"
    | .bytes buf => basePackagerSet pack buf
    | .window _ => .error "mux:packer: data content type uint64, want []byte"
  else if flag == muxMsgSendOk then
    match content with
    | .window word => .ok { pack with window := word }
    | .nil => .error "mux:packer: window content type <nil>, want uint64"
    | .bytes _ => .error "mux:packer: window content type []uint8, want uint64"
  else
    .ok pack

end DeepNps.Mux
