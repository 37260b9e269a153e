import DeepNps.LabelledRuns
import DeepNps.ExpiringCache

/-!
# Runtime authentication of bridge clients

The server accepts a timestamp up to `ttl` seconds on either side of its clock and keeps
the HMACs it has seen for as long.  The cache dates an entry by its arrival, so an
envelope dated in the future outlives its entry and is accepted again.
-/

namespace DeepNps.Bridge

structure BridgeHandshakeVersion where
  ver : Int
  minVerRaw : List UInt8
  clientVerRaw : List UInt8
  deriving DecidableEq, Repr

structure BridgeRuntimeAuthEnvelope where
  ts : Int
  keyBuf : List UInt8
  infoBuf : List UInt8
  randBuf : List UInt8
  hmacBuf : List UInt8
  deriving DecidableEq, Repr

inductive IpAddress where
  | v4 (first second third fourth : UInt8)
  | v6 (bytes : List UInt8)
  deriving DecidableEq, Repr

/-- The fields of a client record that the handshake reads or writes. -/
structure Client where
  verifyKey : String
  status : Bool
  localAddr : Option IpAddress
  mode : List UInt8
  deriving DecidableEq, Repr

inductive AuthError where
  | timestampValidation (ts now : Int)
  | validation (ver : Int) (keyBuf : List UInt8) (cause : String)
  | loadClient (id : Int) (cause : String)
  | clientDisabled (id : Int)
  | decryptInfo (cause : String)
  | decodeInfo (cause : String)
  | hmacVerification
  | replayDetected
  | writeResponse (cause : String)
  deriving DecidableEq, Repr

def replayTtl : Int := 300

def decodeIP (data : List UInt8) : Option IpAddress :=
  if data.length < 17 then none
  else
    match data.getD 0 0 with
    | 0x01 => some (.v4 (data.getD 1 0) (data.getD 2 0) (data.getD 3 0) (data.getD 4 0))
    | 0x04 => some (.v6 ((data.drop 1).take 16))
    | _ => none

def decodeBridgeRuntimeClientInfo (tunnelType : List UInt8) (ver : Int) (payload : List UInt8) :
    Except String (IpAddress × List UInt8) :=
  if ver < 3 then
    match decodeIP payload with
    | none => .error "failed to decode legacy ip payload"
    | some ip => .ok (ip, tunnelType)
  else if payload.length < 18 then
    let length := payload.length
    .error s!"invalid payload length: {length}"
  else
    let l := (payload.getD 17 0).toNat
    if payload.length < 18 + l then .error s!"declared tp length {l} exceeds payload"
    else
      match decodeIP (payload.take 17) with
      | none => .error "failed to decode IP"
      | some ip => .ok (ip, tunnelType ++ ",".toUTF8.toList ++ (payload.drop 18).take l)

structure Crypt where
  computeHMAC : String → Int → List (List UInt8) → List UInt8
  decryptBytes : List UInt8 → String → Except String (List UInt8)

structure ClientStore where
  getClientIdByBlake2bVkey : List UInt8 → Except String Int
  getClient : Int → Except String Client

/-- `timeNow` is the calibrated clock read when the timestamp is validated, `unixNow` the system
clock read by the replay cache; the last field is the error met while the response is written. -/
structure Handshake where
  timeNow : Int
  unixNow : Int
  tunnelType : List UInt8
  hs : BridgeHandshakeVersion
  env : BridgeRuntimeAuthEnvelope
  store : ClientStore
  writeError : Option String

def validateBridgeRuntimeTimestamp (serverSecureMode : Bool) (now ts : Int) :
    Except AuthError Unit :=
  if !serverSecureMode then .ok ()
  else if ts > now + replayTtl ∨ ts < now - replayTtl then .error (.timestampValidation ts now)
  else .ok ()

def resolveBridgeRuntimeClient (store : ClientStore) (ver : Int) (keyBuf : List UInt8) :
    Except AuthError Client :=
  match store.getClientIdByBlake2bVkey keyBuf with
  | .error cause => .error (.validation ver keyBuf cause)
  | .ok id =>
      match store.getClient id with
      | .error cause => .error (.loadClient id cause)
      | .ok client => if !client.status then .error (.clientDisabled id) else .ok client

def applyBridgeRuntimeClientInfo (crypt : Crypt) (client : Client) (tunnelType : List UInt8)
    (ver : Int) (infoBuf : List UInt8) : Except AuthError Client :=
  match crypt.decryptBytes infoBuf client.verifyKey with
  | .error cause => .error (.decryptInfo cause)
  | .ok infoDec =>
      match decodeBridgeRuntimeClientInfo tunnelType ver infoDec with
      | .error cause => .error (.decodeInfo cause)
      | .ok (localAddr, mode) => .ok { client with localAddr := some localAddr, mode := mode }

abbrev ReplayItems : Type := ExpiringCache.Cache (List UInt8)

def isReplay (now : Int) (key : List UInt8) (items : ReplayItems) : Bool × ReplayItems :=
  let (fresh, items) := ExpiringCache.register replayTtl now key items
  (!fresh, items)

def verifyBridgeRuntimeAuthEnvelope (crypt : Crypt) (serverSecureMode : Bool) (now : Int)
    (client : Client) (hs : BridgeHandshakeVersion) (env : BridgeRuntimeAuthEnvelope)
    (items : ReplayItems) : Except AuthError Unit × ReplayItems :=
  if !serverSecureMode then (.ok (), items)
  else
    let expected := crypt.computeHMAC client.verifyKey env.ts
      [hs.minVerRaw, hs.clientVerRaw, env.infoBuf, env.randBuf]
    if env.hmacBuf ≠ expected then (.error .hmacVerification, items)
    else
      match isReplay now env.hmacBuf items with
      | (true, items) => (.error .replayDetected, items)
      | (false, items) => (.ok (), items)

def resolveRuntimeBridgeAuthContext (crypt : Crypt) (serverSecureMode : Bool)
    (handshake : Handshake) : Except AuthError Client := do
  validateBridgeRuntimeTimestamp serverSecureMode handshake.timeNow handshake.env.ts
  let client ← resolveBridgeRuntimeClient handshake.store handshake.hs.ver handshake.env.keyBuf
  applyBridgeRuntimeClientInfo crypt client handshake.tunnelType handshake.hs.ver
    handshake.env.infoBuf

def authenticateRuntimeBridgeClient (crypt : Crypt) (serverSecureMode : Bool)
    (handshake : Handshake) (items : ReplayItems) : Except AuthError Client × ReplayItems :=
  match resolveRuntimeBridgeAuthContext crypt serverSecureMode handshake with
  | .error error => (.error error, items)
  | .ok client =>
      match verifyBridgeRuntimeAuthEnvelope crypt serverSecureMode handshake.unixNow client
        handshake.hs handshake.env items with
      | (.error error, items) => (.error error, items)
      | (.ok (), items) =>
          match handshake.writeError with
          | some cause => (.error (.writeResponse cause), items)
          | none => (.ok client, items)

/-- An accepted handshake and the time at which the replay cache stored it. -/
structure Acceptance where
  env : BridgeRuntimeAuthEnvelope
  storedAt : Int
  deriving DecidableEq, Repr

/-- The replay cache, the latest time it has seen and, newest first, what was accepted. -/
structure BridgeServer where
  items : ReplayItems
  clock : Int
  accepted : List Acceptance

def BridgeServer.new (clock : Int) : BridgeServer where
  items := ExpiringCache.empty
  clock := clock
  accepted := []

/-- Handshakes reach the replay cache in the order of its clock, which does not
run backwards. -/
def BridgeServer.step (crypt : Crypt) (serverSecureMode : Bool) (server : BridgeServer)
    (handshake : Handshake) : Option BridgeServer :=
  if handshake.unixNow < server.clock then none
  else
    match authenticateRuntimeBridgeClient crypt serverSecureMode handshake server.items with
    | (.error _, items) => some { server with items := items, clock := handshake.unixNow }
    | (.ok _, items) => some
        { items := items
          clock := handshake.unixNow
          accepted := ⟨handshake.env, handshake.unixNow⟩ :: server.accepted }

section SecureMode

variable (crypt : Crypt) (handshake : Handshake) (items : ReplayItems)

theorem resolveRuntimeBridgeAuthContext_ok {client : Client}
    (isOk : resolveRuntimeBridgeAuthContext crypt true handshake = .ok client) :
    handshake.timeNow - replayTtl ≤ handshake.env.ts := by
  cases validated : validateBridgeRuntimeTimestamp true handshake.timeNow handshake.env.ts with
  | error => simp [resolveRuntimeBridgeAuthContext, validated, bind, Except.bind] at isOk
  | ok =>
    simp only [validateBridgeRuntimeTimestamp] at validated
    by_cases outside : handshake.env.ts > handshake.timeNow + replayTtl ∨
        handshake.env.ts < handshake.timeNow - replayTtl
    · simp [outside] at validated
    · omega

theorem verifyBridgeRuntimeAuthEnvelope_spec (now : Int) (client : Client)
    (hs : BridgeHandshakeVersion) (env : BridgeRuntimeAuthEnvelope) :
    let verified := verifyBridgeRuntimeAuthEnvelope crypt true now client hs env items
    let admitted := ExpiringCache.register replayTtl now env.hmacBuf items
    (verified.2 = items ∨ verified.2 = admitted.2) ∧
      (verified.1 = .ok () → admitted.1 = true ∧ verified.2 = admitted.2) := by
  simp only [verifyBridgeRuntimeAuthEnvelope, isReplay]
  by_cases authentic : env.hmacBuf = crypt.computeHMAC client.verifyKey env.ts
      [hs.minVerRaw, hs.clientVerRaw, env.infoBuf, env.randBuf]
  · cases (ExpiringCache.register replayTtl now env.hmacBuf items).1 with
    | true | false => simp [← authentic]
  · simp [authentic]

theorem authenticateRuntimeBridgeClient_spec :
    let authenticated := authenticateRuntimeBridgeClient crypt true handshake items
    let admitted := ExpiringCache.register replayTtl handshake.unixNow handshake.env.hmacBuf items
    (authenticated.2 = items ∨ authenticated.2 = admitted.2) ∧
      ∀ client, authenticated.1 = .ok client →
        handshake.timeNow - replayTtl ≤ handshake.env.ts ∧ admitted.1 = true ∧
          authenticated.2 = admitted.2 := by
  intro authenticated _
  cases resolved : resolveRuntimeBridgeAuthContext crypt true handshake with
  | error => simp [authenticated, authenticateRuntimeBridgeClient, resolved]
  | ok client =>
    obtain ⟨once, isAdmitted⟩ := verifyBridgeRuntimeAuthEnvelope_spec crypt items
      handshake.unixNow client handshake.hs handshake.env
    have inWindow := resolveRuntimeBridgeAuthContext_ok crypt handshake resolved
    simp only [authenticated, authenticateRuntimeBridgeClient, resolved]
    rcases verified : verifyBridgeRuntimeAuthEnvelope crypt true handshake.unixNow client
      handshake.hs handshake.env items with ⟨error | ⟨⟨⟩⟩, after⟩
    · rw [verified] at once
      simpa using once
    · rw [verified] at once isAdmitted
      cases handshake.writeError with
      | some => simpa using once
      | none => exact ⟨once, fun _ _ => ⟨inWindow, isAdmitted rfl⟩⟩

/-- An accepted timestamp is not ahead of the clock of the replay cache, nor that clock of the
calibrated one, and an HMAC accepted before was computed over the same timestamp. -/
def BridgeServer.Timely (server : BridgeServer) (handshake : Handshake) : Prop :=
  ∀ client, (authenticateRuntimeBridgeClient crypt true handshake server.items).1 = .ok client →
    handshake.env.ts ≤ handshake.unixNow ∧ handshake.unixNow ≤ handshake.timeNow ∧
      ∀ earlier ∈ server.accepted, earlier.env.hmacBuf = handshake.env.hmacBuf →
        earlier.env.ts = handshake.env.ts

def BridgeServer.NoReplay (server : BridgeServer) : Prop :=
  server.accepted.Pairwise fun later earlier => later.env.hmacBuf ≠ earlier.env.hmacBuf

instance (server : BridgeServer) : Decidable server.NoReplay :=
  inferInstanceAs (Decidable (List.Pairwise _ _))

/-- The cache remembers what was accepted for a lifetime, and no accepted
timestamp was in the future. -/
structure BridgeServer.Sound (server : BridgeServer) : Prop where
  remembers : ExpiringCache.Remembers replayTtl server.items server.clock
    (server.accepted.map fun acceptance => (acceptance.env.hmacBuf, acceptance.storedAt))
  past : ∀ acceptance ∈ server.accepted, acceptance.env.ts ≤ acceptance.storedAt
  noReplay : server.NoReplay

theorem BridgeServer.new_sound (clock : Int) : (BridgeServer.new clock).Sound where
  remembers := ExpiringCache.remembers_nil
  past := by simp [BridgeServer.new]
  noReplay := List.Pairwise.nil

variable {handshake} {server : BridgeServer}

theorem BridgeServer.Sound.accept (sound : server.Sound) (later : server.clock ≤ handshake.unixNow)
    (admitted : (ExpiringCache.register replayTtl handshake.unixNow handshake.env.hmacBuf
      server.items).1 = true)
    (inWindow : handshake.timeNow - replayTtl ≤ handshake.env.ts)
    (past : handshake.env.ts ≤ handshake.unixNow) (inStep : handshake.unixNow ≤ handshake.timeNow)
    (sameTs : ∀ earlier ∈ server.accepted, earlier.env.hmacBuf = handshake.env.hmacBuf →
      earlier.env.ts = handshake.env.ts) :
    BridgeServer.Sound
      { items := (ExpiringCache.register replayTtl handshake.unixNow handshake.env.hmacBuf
          server.items).2
        clock := handshake.unixNow
        accepted := ⟨handshake.env, handshake.unixNow⟩ :: server.accepted } := by
  refine ⟨?_, ?_, ?_⟩
  · simpa [admitted] using sound.remembers.register later handshake.env.hmacBuf
  · intro acceptance isMember
    rcases List.mem_cons.mp isMember with rfl | isMember
    · exact past
    · exact sound.past acceptance isMember
  · refine List.Pairwise.cons ?_ sound.noReplay
    intro earlier isMember same
    -- The cache forgot the earlier acceptance, so more than a lifetime has passed.
    have expired : earlier.storedAt + replayTtl < handshake.unixNow :=
      sound.remembers.gap later admitted (List.mem_map.mpr ⟨earlier, isMember, by rw [← same]⟩)
    have earlierPast := sound.past earlier isMember
    have sameTimestamp := sameTs earlier isMember same.symm
    omega

theorem BridgeServer.Sound.step {next : BridgeServer} (sound : server.Sound)
    (timely : server.Timely crypt handshake)
    (stepEq : server.step crypt true handshake = some next) : next.Sound := by
  obtain ⟨once, isAdmitted⟩ := authenticateRuntimeBridgeClient_spec crypt handshake server.items
  simp only [BridgeServer.step] at stepEq
  split_ifs at stepEq with earlier
  have later : server.clock ≤ handshake.unixNow := by omega
  rcases authenticated : authenticateRuntimeBridgeClient crypt true handshake server.items with
    ⟨error | client, after⟩
  · rw [authenticated] at stepEq once
    cases stepEq
    -- a handshake that is turned away leaves the accepted ones remembered
    refine ⟨?_, sound.past, sound.noReplay⟩
    rcases once with rfl | rfl
    · exact sound.remembers.wait later
    · refine (sound.remembers.register later handshake.env.hmacBuf).mono ?_
      split_ifs
      · exact List.subset_cons_self _ _
      · exact List.Subset.refl _
  · rw [authenticated] at stepEq isAdmitted
    cases stepEq
    obtain ⟨inWindow, admitted, isAfter⟩ := isAdmitted client rfl
    obtain ⟨past, inStep, sameTs⟩ := timely client (by rw [authenticated])
    have accepted := sound.accept later admitted inWindow past inStep sameTs
    rwa [← isAfter] at accepted

end SecureMode

end DeepNps.Bridge
