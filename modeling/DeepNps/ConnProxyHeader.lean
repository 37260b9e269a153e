import DeepNps.Text

/-!
# Headers of the PROXY protocol

The target address is brought to the family of the source first.  IPs are slices: the
normalised IP is written into the target address of the caller, and an IPv4 target of an
IPv6 source into the array of `net.IPv6zero`.
-/

namespace DeepNps.Conn

inductive AddrKind where
  | tcp
  | udp
  | other
  deriving DecidableEq

/-- A `net.Addr`; an IP that is not nil is given by the number of its array.  Negative ports
are left out. -/
structure Addr where
  kind : AddrKind
  ip : Option Nat
  port : Nat

/-- Array 0 is that of `net.IPv4zero` and array 1 that of `net.IPv6zero`. -/
structure Memory where
  arrays : Nat → List UInt8
  addrs : Nat → Addr

/-- What an address says. -/
structure AddrValue where
  kind : AddrKind
  ip : Option (List UInt8)
  port : Nat

def Memory.value (memory : Memory) (addr : Addr) : AddrValue :=
  ⟨addr.kind, addr.ip.map memory.arrays, addr.port⟩

def v4InV6Prefix : List UInt8 := [0, 0, 0, 0, 0, 0, 0, 0, 0, 0, 255, 255]

def to4 (ip : List UInt8) : Option (List UInt8) :=
  if ip.length = 4 then some ip
  else if ip.length = 16 ∧ ip.take 12 = v4InV6Prefix then some (ip.drop 12)
  else none

def isV4 (ip : Option (List UInt8)) : Bool := (ip.bind to4).isSome

/-- `To16`, copied to an array of zeros. -/
def to16 (ip : Option (List UInt8)) : List UInt8 :=
  let ip := ip.getD []
  if ip.length = 4 then v4InV6Prefix ++ ip
  else if ip.length = 16 then ip
  else List.replicate 16 0

def equal (ip x : List UInt8) : Bool :=
  if ip.length = x.length then ip == x
  else if ip.length = 4 then x == v4InV6Prefix ++ ip
  else if x.length = 4 then ip == v4InV6Prefix ++ x
  else false

/-- `proxyAddrMetaFromIPs`: whether the IPs are of version 4, if they are of one version. -/
def proxyAddrMeta (client target : Option AddrValue) : Option (AddrValue × AddrValue × Bool) :=
  client.bind fun client => target.bind fun target =>
    if client.kind = .other ∨ target.kind ≠ client.kind ∨ isV4 client.ip ≠ isV4 target.ip then none
    else some (client, target, isV4 client.ip)

def bigEndian16 (value : Nat) : List UInt8 := [UInt8.ofNat (value / 256), UInt8.ofNat value]

def buildProxyProtocolV2Header (client target : Option AddrValue) : List UInt8 :=
  let sig := [13, 10, 13, 10, 0, 13, 10, 81, 85, 73, 84, 10]
  match proxyAddrMeta client target with
  | none => sig ++ [0x20, 0, 0, 0]
  | some (client, target, v4) =>
      let ip (addr : AddrValue) := if v4 then (addr.ip.bind to4).getD [] else to16 addr.ip
      let family : UInt8 := if v4 then 0x10 else 0x20
      sig ++ [0x21, family + if client.kind = .tcp then 1 else 2] ++
        bigEndian16 (if v4 then 12 else 36) ++ ip client ++ ip target ++
        bigEndian16 client.port ++ bigEndian16 target.port

/-- `ipString` is `net.IP.String`. -/
def buildProxyProtocolV1Header (ipString : Option (List UInt8) → String)
    (client target : Option AddrValue) : List UInt8 :=
  Text.ascii <| match proxyAddrMeta client target with
  | none => "PROXY UNKNOWN\r\n"
  | some (client, target, v4) =>
      "PROXY " ++ (if v4 then "TCP4" else "TCP6") ++ " " ++ ipString client.ip ++ " " ++
        ipString target.ip ++ " " ++ toString (client.port % 2 ^ 16) ++ " " ++
        toString (target.port % 2 ^ 16) ++ "\r\n"

def buildHeader (ipString : Option (List UInt8) → String) (client target : Option AddrValue)
    (proxyProtocol : Nat) : Option (List UInt8) :=
  match proxyProtocol with
  | 2 => some (buildProxyProtocolV2Header client target)
  | 1 => some (buildProxyProtocolV1Header ipString client target)
  | _ => none

namespace Memory

variable (memory : Memory)

/-- `::` is `net.IPv6unspecified`, which has an array of its own that nothing is written into. -/
def isUnspecified (ip : Option Nat) : Bool :=
  (ip.map memory.arrays).any fun ip =>
    equal ip (v4InV6Prefix ++ [0, 0, 0, 0]) || equal ip (List.replicate 16 0)

/-- The result of `append` is the array of `net.IPv6zero`, which has room for it. -/
def normalizeTargetIP (srcIP dstIP : Option Nat) : Memory × Option Nat :=
  let srcIsV4 := isV4 (srcIP.map memory.arrays)
  let dst4 := (dstIP.map memory.arrays).bind to4
  match srcIsV4, dst4 with
  | true, none => (memory, some 0)
  | false, some dst4 => ({ memory with
      arrays := Function.update memory.arrays 1 ((memory.arrays 1).take 12 ++ dst4) }, some 1)
  | _, _ =>
      if dstIP = none ∨ memory.isUnspecified dstIP then (memory, some (if srcIsV4 then 0 else 1))
      else (memory, dstIP)

/-- Addresses of other kinds than TCP and UDP are left alone; a target that is not of the kind of
the source is replaced. -/
def normalizeTarget (src dst : Option Nat) : Memory × Option Addr :=
  match (src.map memory.addrs).filter fun src => src.kind ≠ .other with
  | none => (memory, dst.map memory.addrs)
  | some src =>
      match dst.filter fun dst => (memory.addrs dst).kind = src.kind with
      | none =>
          let (memory, ip) := memory.normalizeTargetIP src.ip none
          (memory, some ⟨src.kind, ip, 0⟩)
      | some dst =>
          let (after, ip) := memory.normalizeTargetIP src.ip (memory.addrs dst).ip
          let target := { memory.addrs dst with ip := ip }
          ({ after with addrs := Function.update memory.addrs dst target }, some target)

/-- A call of `BuildProxyProtocolHeaderByAddr`. -/
structure HeaderCall where
  clientAddr : Option Nat
  targetAddr : Option Nat
  proxyProtocol : Nat

variable (ipString : Option (List UInt8) → String)

def buildProxyProtocolHeaderByAddr (call : HeaderCall) : Memory × Option (List UInt8) :=
  if call.proxyProtocol = 0 then (memory, none)
  else
    let (memory, target) := memory.normalizeTarget call.clientAddr call.targetAddr
    (memory, buildHeader ipString ((call.clientAddr.map memory.addrs).map memory.value)
      (target.map memory.value) call.proxyProtocol)

/-- The headers of calls in turn, and the memory after them. -/
def run (memory : Memory) : List HeaderCall → Memory × List (Option (List UInt8))
  | [] => (memory, [])
  | call :: calls =>
      let (memory, header) := memory.buildProxyProtocolHeaderByAddr ipString call
      let (memory, headers) := run memory calls
      (memory, header :: headers)

def valueOf (addr : Option Nat) : Option AddrValue := (addr.map memory.addrs).map memory.value

end Memory

/-- The target that a header is built with, from what the addresses say. -/
def normalTarget (client target : Option AddrValue) : Option AddrValue :=
  match client.filter fun client => client.kind ≠ .other with
  | none => target
  | some client =>
      some ((target.filter fun target => target.kind = client.kind).getD
        ⟨client.kind, some (if isV4 client.ip then v4InV6Prefix ++ [0, 0, 0, 0]
          else List.replicate 16 0), 0⟩)

/-- The header for a client and a target. -/
def headerOf (ipString : Option (List UInt8) → String) (client target : Option AddrValue) :
    Nat → Option (List UInt8) :=
  buildHeader ipString client (normalTarget client target)

namespace Memory

/-- There is no target of the kind of the source, or its IP is of the family of the source and not
unspecified. -/
def LeavesTarget (memory : Memory) (call : HeaderCall) : Prop :=
  call.proxyProtocol = 0 ∨ ∀ client ∈ call.clientAddr, ∀ target ∈ call.targetAddr,
    (memory.addrs target).kind = (memory.addrs client).kind →
    (memory.addrs client).kind = .other ∨
      isV4 ((memory.addrs client).ip.map memory.arrays) =
        isV4 ((memory.addrs target).ip.map memory.arrays) ∧
      (memory.addrs target).ip ≠ none ∧ memory.isUnspecified (memory.addrs target).ip = false

/-- `net.IPv4zero` and `net.IPv6zero` are what they should be. -/
def Zeroed (memory : Memory) : Prop :=
  memory.arrays 0 = v4InV6Prefix ++ [0, 0, 0, 0] ∧ memory.arrays 1 = List.replicate 16 0

variable {memory : Memory} {call : HeaderCall} (ipString : Option (List UInt8) → String)

theorem normalizeTargetIP_none (srcIP : Option Nat) : memory.normalizeTargetIP srcIP none =
    (memory, some (if isV4 (srcIP.map memory.arrays) then 0 else 1)) := by
  cases isV4 : isV4 (srcIP.map memory.arrays) <;> simp [normalizeTargetIP, isV4]

theorem normalizeTargetIP_of_same {srcIP dstIP : Option Nat}
    (sameFamily : isV4 (srcIP.map memory.arrays) = isV4 (dstIP.map memory.arrays))
    (isSome : dstIP ≠ none) (isSpecified : memory.isUnspecified dstIP = false) :
    memory.normalizeTargetIP srcIP dstIP = (memory, dstIP) := by
  rw [normalizeTargetIP, sameFamily, isV4]
  cases (dstIP.map memory.arrays).bind to4 <;> simp [isSome, isSpecified]

theorem normalizeTarget_eq (zeroed : memory.Zeroed) (leaves : memory.LeavesTarget call)
    (isBuilt : call.proxyProtocol ≠ 0) :
    (memory.normalizeTarget call.clientAddr call.targetAddr).1 = memory ∧
      (memory.normalizeTarget call.clientAddr call.targetAddr).2.map memory.value =
        normalTarget (memory.valueOf call.clientAddr) (memory.valueOf call.targetAddr) := by
  obtain ⟨client, target, _⟩ := call
  cases client with
  | none => simp [normalizeTarget, normalTarget, valueOf]
  | some client =>
    by_cases isOther : (memory.addrs client).kind = .other
    · simp [normalizeTarget, normalTarget, valueOf, value, isOther, Option.filter]
    have isZero (v4 : Bool) : memory.arrays (if v4 then 0 else 1) =
        if v4 then v4InV6Prefix ++ [0, 0, 0, 0] else List.replicate 16 0 := by
      cases v4
      · exact zeroed.2
      · exact zeroed.1
    cases target with
    | none =>
      simp [normalizeTarget, normalTarget, valueOf, value, isOther, normalizeTargetIP_none,
        Option.filter, isZero]
    | some target =>
      by_cases same : (memory.addrs target).kind = (memory.addrs client).kind
      · obtain ⟨sameFamily, isSome, isSpecified⟩ :=
          (leaves.resolve_left isBuilt _ rfl _ rfl same).resolve_left isOther
        simp [normalizeTarget, normalTarget, valueOf, value, isOther, same, Option.filter,
          normalizeTargetIP_of_same sameFamily isSome isSpecified]
        rw [← same, Function.update_eq_self]
      · simp [normalizeTarget, normalTarget, valueOf, value, isOther, same, Option.filter,
          normalizeTargetIP_none, isZero]

/-- The calls that leave their targets alone change nothing, and each header is that of its
arguments. -/
theorem headers_without_effect (zeroed : memory.Zeroed) (calls : List HeaderCall)
    (leave : ∀ call ∈ calls, memory.LeavesTarget call) :
    memory.run ipString calls = (memory, calls.map fun call =>
      headerOf ipString (memory.valueOf call.clientAddr) (memory.valueOf call.targetAddr)
        call.proxyProtocol) := by
  induction calls with
  | nil => rfl
  | cons call calls ih =>
    have isHeader : memory.buildProxyProtocolHeaderByAddr ipString call =
        (memory, headerOf ipString (memory.valueOf call.clientAddr)
          (memory.valueOf call.targetAddr) call.proxyProtocol) := by
      rw [buildProxyProtocolHeaderByAddr]
      split_ifs with isNone
      · rw [isNone]
        rfl
      · obtain ⟨sameMemory, isTarget⟩ :=
          normalizeTarget_eq zeroed (leave call List.mem_cons_self) isNone
        dsimp only
        rw [sameMemory, isTarget]
        rfl
    have rest := ih fun other isOther => leave other (List.mem_cons_of_mem _ isOther)
    simp only [run, isHeader, rest, List.map_cons]

/-- Addresses 0 and 1 have IPs of version 4, addresses 2 and 3 of version 6. -/
def fourAddrs : Memory where
  arrays
    | 0 => v4InV6Prefix ++ [0, 0, 0, 0]
    | 1 => List.replicate 16 0
    | 2 => [10, 0, 0, 1]
    | 3 => [10, 0, 0, 2]
    | _ => List.replicate 15 0 ++ [1]
  addrs i := ⟨.tcp, some (i + 2), 80⟩

theorem headers_without_effect_four :
    fourAddrs.run (fun _ => "") [⟨some 0, some 1, 2⟩, ⟨some 2, none, 1⟩] =
      (fourAddrs, [some [13, 10, 13, 10, 0, 13, 10, 81, 85, 73, 84, 10, 0x21, 0x11, 0, 12,
        10, 0, 0, 1, 10, 0, 0, 2, 0, 80, 0, 80], some (Text.ascii "PROXY TCP6   80 0\r\n")]) := by
  rw [headers_without_effect _ ⟨rfl, rfl⟩ _ (by unfold LeavesTarget; decide)]
  rfl

/-- An IPv4 target of an IPv6 source is written into `net.IPv6zero`, and the next header, for no
target, names it. -/
theorem header_of_earlier_call :
    let call : HeaderCall := ⟨some 2, none, 2⟩
    let after := (fourAddrs.run (fun _ => "") [⟨some 2, some 1, 2⟩]).1
    after.arrays 1 = List.replicate 12 0 ++ [10, 0, 0, 2] ∧ (after.addrs 1).ip = some 1 ∧
      (after.buildProxyProtocolHeaderByAddr (fun _ => "") call).2 ≠
        (fourAddrs.buildProxyProtocolHeaderByAddr (fun _ => "") call).2 := by
  decide

end Memory

end DeepNps.Conn
