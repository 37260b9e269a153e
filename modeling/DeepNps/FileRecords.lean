import DeepNps.FileOwnerPool
import DeepNps.Text

/-!
# The records of the store

The fields that the store reads or changes.  The others are the details of a record, of a
type that is left open, and a record refers to its client by id.
-/

namespace DeepNps.File

inductive RecordKind
  | user
  | client
  | tunnel
  | host
  deriving DecidableEq, Repr

structure User (Details : RecordKind → Type) where
  id : Int
  username : String
  kind : String
  externalPlatformID : String
  hidden : Bool
  status : Int
  revision : Int
  expectedRevision : Int
  details : Details .user

structure Client (Details : RecordKind → Type) where
  id : Int
  userId : Int
  ownerUserID : Int
  managerUserIDs : List Int
  verifyKey : String
  status : Bool
  revision : Int
  updatedAt : Int
  expectedRevision : Int
  details : Details .client

/-- What an owner publishes for a tunnel: the fields of `SnapshotForUpdate`. -/
structure TunnelSnapshot (Details : RecordKind → Type) where
  mode : String
  password : String
  targetType : String
  httpProxy : Bool
  socks5Proxy : Bool
  details : Details .tunnel

structure Tunnel (Details : RecordKind → Type) where
  id : Int
  clientId : Option Int
  mode : String
  password : String
  targetType : String
  httpProxy : Bool
  socks5Proxy : Bool
  revision : Int
  expectedRevision : Int
  runtimeRouteUUID : String
  runtimeOwners : Option (RuntimeOwnerPool (TunnelSnapshot Details))
  details : Details .tunnel

structure Host (Details : RecordKind → Type) where
  id : Int
  clientId : Option Int
  host : String
  location : String
  scheme : String
  isClose : Bool
  revision : Int
  expectedRevision : Int
  details : Details .host

/-- The hashes, the lower case of a character, and what the functions of the records do to the
details. -/
structure StoreEnv (Details : RecordKind → Type) where
  md5 : String → String
  blake2b : String → String
  lower : Char → Char
  /-- `InitializeUserRuntime`, `applyClientSetupHook`, `InitializeTunnelRuntime` with
  the compilation of the access rules, and `finalizeHostForStore`. -/
  prepare : (kind : RecordKind) → Details kind → Details kind
  /-- `SnapshotForUpdate` and the compilation of the access rules of the snapshot. -/
  snapshotTunnel : Details .tunnel → Details .tunnel
  /-- `Tunnel.Update`, with the tunnel first. -/
  updateTunnel : Details .tunnel → Details .tunnel → Details .tunnel

variable {Details : RecordKind → Type}

namespace User

def normalizeIdentity (user : User Details) : User Details :=
  let kind := Text.trimSpace user.kind
  let externalPlatformID := Text.trimSpace user.externalPlatformID
  if kind = "platform_service" then { user with kind, externalPlatformID, hidden := true }
  else { user with kind := "local", externalPlatformID := "", hidden := false }

def initializeRuntime (env : StoreEnv Details) (user : User Details) : User Details :=
  { user.normalizeIdentity with details := env.prepare .user user.details }

def indexedUsername (user : User Details) : String := Text.trimSpace user.username

def indexedExternalPlatformID (user : User Details) : String :=
  let platformID := Text.trimSpace user.externalPlatformID
  if platformID = "" ∨ Text.trimSpace user.kind ≠ "platform_service" then "" else platformID

end User

namespace Client

def ownerID (client : Client Details) : Int :=
  if 0 < client.ownerUserID then client.ownerUserID else client.userId

def addManager (owner : Int) (normalized : List Int) (userID : Int) : List Int :=
  if userID ≤ 0 ∨ userID = owner then normalized
  else if userID ∈ normalized then normalized
  else normalized ++ [userID]

def normalizeManagers (owner : Int) (managers : List Int) : List Int :=
  managers.foldl (addManager owner) []

def normalizeOwnership (client : Client Details) : Client Details :=
  let owner :=
    if 0 < client.ownerUserID then client.ownerUserID
    else if 0 < client.userId then client.userId
    else 0
  { client with
    ownerUserID := owner
    userId := owner
    managerUserIDs := normalizeManagers owner client.managerUserIDs }

def setOwnerUserID (client : Client Details) (userID : Int) : Client Details :=
  let userID := if userID < 0 then 0 else userID
  normalizeOwnership { client with ownerUserID := userID, userId := userID }

def hasManagerUserID (client : Client Details) (userID : Int) : Bool :=
  0 < userID && userID ∈ client.managerUserIDs

def applySetupHook (env : StoreEnv Details) (client : Client Details) : Client Details :=
  { client.normalizeOwnership with details := env.prepare .client client.details }

def touchMeta (client : Client Details) (now : Int) : Client Details :=
  { client with revision := client.revision + 1, updatedAt := now }

/-- `clearClientUserReference`: the client without its ties to the user, if it had any. -/
def clearUserReference (client : Client Details) (userID now : Int) : Option (Client Details) :=
  if userID ≤ 0 then none
  else
    let disowned := if client.ownerID = userID then client.setOwnerUserID 0 else client
    let changed := client.ownerID = userID ∨ userID ∈ disowned.managerUserIDs
    if changed then
      let managerUserIDs := disowned.managerUserIDs.filter (· ≠ userID)
      some ((normalizeOwnership { disowned with managerUserIDs }).touchMeta now)
    else none

theorem clearUserReference_keeps {client cleared : Client Details} {userID now : Int}
    (isCleared : client.clearUserReference userID now = some cleared) :
    cleared.id = client.id ∧ cleared.verifyKey = client.verifyKey := by
  rw [clearUserReference] at isCleared
  dsimp only at isCleared
  split_ifs at isCleared with isUser isOwner changed changed
  · cases isCleared
    exact ⟨rfl, rfl⟩
  · cases isCleared
    exact ⟨rfl, rfl⟩

end Client

/-- The proxy modes of a tunnel are one mode with two switches. -/
def normalizeMode (mode : String) (httpProxy socks5Proxy : Bool) : String × Bool × Bool :=
  if mode = "socks5" then ("mixProxy", false, true)
  else if mode = "httpProxy" then ("mixProxy", true, false)
  else (mode, httpProxy, socks5Proxy)

def normalizeTargetType (targetType : String) : String :=
  if targetType ≠ "tcp" ∧ targetType ≠ "udp" then "all" else targetType

namespace TunnelSnapshot

/-- `normalizeRuntimeTunnelOwnerSnapshot` of the snapshot of a tunnel. -/
def normalizeRuntimeOwner (env : StoreEnv Details) (update : TunnelSnapshot Details) :
    TunnelSnapshot Details :=
  match normalizeMode update.mode update.httpProxy update.socks5Proxy with
  | (mode, httpProxy, socks5Proxy) =>
      { update with
        mode
        httpProxy
        socks5Proxy
        targetType := normalizeTargetType update.targetType
        details := env.snapshotTunnel update.details }

end TunnelSnapshot

namespace Tunnel

def normalizeProtocolFields (tunnel : Tunnel Details) : Tunnel Details :=
  match normalizeMode tunnel.mode tunnel.httpProxy tunnel.socks5Proxy with
  | (mode, httpProxy, socks5Proxy) =>
      { tunnel with
        mode, httpProxy, socks5Proxy, targetType := normalizeTargetType tunnel.targetType }

/-- `normalizeTunnelProtocolFields`, `InitializeTunnelRuntime` and the compilation of the
access rules. -/
def prepareForStore (env : StoreEnv Details) (tunnel : Tunnel Details) : Tunnel Details :=
  { tunnel.normalizeProtocolFields with details := env.prepare .tunnel tunnel.details }

def update (env : StoreEnv Details) (tunnel : Tunnel Details) (other : TunnelSnapshot Details) :
    Tunnel Details :=
  { tunnel with
    mode := other.mode
    password := other.password
    targetType := other.targetType
    httpProxy := other.httpProxy
    socks5Proxy := other.socks5Proxy
    details := env.updateTunnel tunnel.details other.details }

def bindRuntimeOwner (env : StoreEnv Details) (tunnel : Tunnel Details) (uuid : String)
    (snapshot : TunnelSnapshot Details) : Tunnel Details :=
  let uuid := Text.trimSpace uuid
  if uuid = "" then tunnel
  else
    let update := snapshot.normalizeRuntimeOwner env
    let prevCount := RuntimeOwnerPool.count tunnel.runtimeOwners
    let owners := (tunnel.runtimeOwners.getD RuntimeOwnerPool.new).set uuid update
    let bound := { tunnel with runtimeOwners := some owners }
    if prevCount = 0 ∨ tunnel.runtimeRouteUUID = uuid then
      { bound with runtimeRouteUUID := uuid }.update env update
    else bound

/-- The end of `RemoveRuntimeOwner`: the route goes to the first of the owners left. -/
def switchOwner (env : StoreEnv Details) (tunnel : Tunnel Details)
    (owners : RuntimeOwnerPool (TunnelSnapshot Details)) : Tunnel Details :=
  match owners.first with
  | some (nextUUID, snapshot) => { tunnel with runtimeRouteUUID := nextUUID }.update env snapshot
  | none => { tunnel with runtimeRouteUUID := "" }

/-- `RemoveRuntimeOwner` for a tunnel with owners and an id that is not blank. -/
def removeFromOwners (env : StoreEnv Details) (tunnel : Tunnel Details)
    (owners : RuntimeOwnerPool (TunnelSnapshot Details)) (uuid : String) : Nat × Tunnel Details :=
  match owners.remove uuid with
  | ((remaining, removed), owners) =>
      if ¬ removed then (remaining, tunnel)
      else if remaining = 0 then
        (0, { tunnel with runtimeOwners := none, runtimeRouteUUID := "" })
      else
        let tunnel := { tunnel with runtimeOwners := some owners }
        if tunnel.runtimeRouteUUID = uuid ∨ Text.trimSpace tunnel.runtimeRouteUUID = "" then
          (remaining, tunnel.switchOwner env owners)
        else (remaining, tunnel)

def removeRuntimeOwner (env : StoreEnv Details) (tunnel : Tunnel Details) (uuid : String) :
    Nat × Tunnel Details :=
  let uuid := Text.trimSpace uuid
  if uuid = "" then (RuntimeOwnerPool.count tunnel.runtimeOwners, tunnel)
  else
    match tunnel.runtimeOwners with
    | none =>
        (0, if tunnel.runtimeRouteUUID = uuid then { tunnel with runtimeRouteUUID := "" }
          else tunnel)
    | some owners => tunnel.removeFromOwners env owners uuid

variable {env : StoreEnv Details} {tunnel : Tunnel Details} {uuid : String}

theorem bindRuntimeOwner_keeps {snapshot : TunnelSnapshot Details} :
    (tunnel.bindRuntimeOwner env uuid snapshot).id = tunnel.id ∧
      (tunnel.bindRuntimeOwner env uuid snapshot).clientId = tunnel.clientId := by
  rw [bindRuntimeOwner]
  dsimp only
  split_ifs <;> exact ⟨rfl, rfl⟩

theorem removeFromOwners_keeps {owners : RuntimeOwnerPool (TunnelSnapshot Details)} :
    (tunnel.removeFromOwners env owners uuid).2.id = tunnel.id ∧
      (tunnel.removeFromOwners env owners uuid).2.clientId = tunnel.clientId := by
  rw [removeFromOwners]
  cases owners.remove uuid with
  | mk _ left =>
    dsimp only
    split_ifs
    · exact ⟨rfl, rfl⟩
    · rw [switchOwner]
      cases left.first with
      | none | some => exact ⟨rfl, rfl⟩
    · exact ⟨rfl, rfl⟩
    · exact ⟨rfl, rfl⟩

theorem removeRuntimeOwner_keeps :
    (tunnel.removeRuntimeOwner env uuid).2.id = tunnel.id ∧
      (tunnel.removeRuntimeOwner env uuid).2.clientId = tunnel.clientId := by
  rw [removeRuntimeOwner]
  by_cases isBlank : Text.trimSpace uuid = ""
  · rw [if_pos isBlank]
    exact ⟨rfl, rfl⟩
  · rw [if_neg isBlank]
    cases tunnel.runtimeOwners with
    | none =>
      dsimp only
      split_ifs <;> exact ⟨rfl, rfl⟩
    | some =>
      dsimp only
      exact removeFromOwners_keeps

end Tunnel

def normalizedHostLocation (location : String) : String :=
  let location := Text.trimSpace location
  if location = "" then "/" else location

/-- No other character than an upper-case letter of `http` and `https` has one of their letters as
its lower case. -/
def normalizedHostScheme (scheme : String) : String :=
  let scheme := Text.mapChars Char.toLower (Text.trimSpace scheme)
  if scheme = "http" ∨ scheme = "https" then scheme else "all"

namespace Host

def normalizeRoutingFields (host : Host Details) : Host Details :=
  { host with
    location := if host.location = "" then "/" else host.location
    scheme := normalizedHostScheme host.scheme }

def finalizeForStore (env : StoreEnv Details) (host : Host Details) : Host Details :=
  { host with details := env.prepare .host host.details }

end Host

end DeepNps.File
