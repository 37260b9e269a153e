import DeepNps.FileIndexes
import DeepNps.FileRecords
import DeepNps.Table

/-!
# The store

The tables with their secondary indexes.  Ranging repairs an index on the way: an entry
without a record is removed, a record without a client is dropped.
-/

namespace DeepNps.File

variable {Details : RecordKind → Type}

structure Store (Details : RecordKind → Type) where
  users : Table (User.id : User Details → Int)
  clients : Table (Client.id : Client Details → Int)
  tasks : Table (Tunnel.id : Tunnel Details → Int)
  hosts : Table (Host.id : Host Details → Int)
  userIncreaseId : Int32
  clientIncreaseId : Int32
  taskIncreaseId : Int32
  hostIncreaseId : Int32
  usernameIndex : StringIDIndex
  platformUserIndex : StringIDIndex
  blake2bVkeyIndex : StringIDIndex
  taskPasswordIndex : StringIDIndex
  hostIndex : DomainIndex
  ownerClientIndex : GroupIDIndex
  managerClientIndex : GroupIDIndex
  taskClientIndex : GroupIDIndex
  hostClientIndex : GroupIDIndex

inductive StoreError
  | clientNil
  | userNotFound
  | clientNotFound
  | taskNotFound
  | hostNotFound
  | revisionConflict
  | emptyVerifyKey
  | vkeyDuplicate
  | clientHasResources
  | hostExists
  | usernameEmpty
  | usernameDuplicate
  deriving DecidableEq, Repr

def StoreError.message : StoreError → String
  | clientNil => "client is nil"
  | userNotFound => "user not found"
  | clientNotFound => "client not found"
  | taskNotFound => "task not found"
  | hostNotFound => "host not found"
  | revisionConflict => "resource revision conflict"
  | emptyVerifyKey => "empty verify key"
  | vkeyDuplicate => "vkey duplicate, please reset"
  | clientHasResources => "client has resources"
  | hostExists => "host has exist"
  | usernameEmpty => "user username is empty"
  | usernameDuplicate => "web login username duplicate, please reset"

abbrev Outcome (Details : RecordKind → Type) := Except StoreError Unit × Store Details

/-- An id of zero asks for the next one of the counter; another id raises the counter, which has
32 bits. -/
def allocateId (counter : Int32) (id : Int) : Int × Int32 :=
  if id = 0 then ((counter + 1).toInt, counter + 1)
  else if counter.toInt < id then (id, Int32.ofInt id)
  else (id, counter)

def revisionDiffers (expected current : Int) : Bool := 0 < expected && current ≠ expected

namespace Store

def new : Store Details where
  users := Table.empty
  clients := Table.empty
  tasks := Table.empty
  hosts := Table.empty
  userIncreaseId := 0
  clientIncreaseId := 0
  taskIncreaseId := 0
  hostIncreaseId := 0
  usernameIndex := StringIDIndex.empty
  platformUserIndex := StringIDIndex.empty
  blake2bVkeyIndex := StringIDIndex.empty
  taskPasswordIndex := StringIDIndex.empty
  hostIndex := DomainIndex.new
  ownerClientIndex := GroupIDIndex.new
  managerClientIndex := GroupIDIndex.new
  taskClientIndex := GroupIDIndex.new
  hostClientIndex := GroupIDIndex.new

def resolveStoredClientRef (store : Store Details) (client : Option Int) : Except StoreError Int :=
  match client with
  | none => .error .clientNil
  | some id =>
      if id = 0 then .error .clientNil
      else if (store.clients.get id).isSome then .ok id
      else .error .clientNotFound

def addClientUserIndexes (client : Client Details) (store : Store Details) : Store Details :=
  if client.id ≤ 0 then store
  else
    { store with
      ownerClientIndex := store.ownerClientIndex.add client.ownerID client.id
      managerClientIndex := client.managerUserIDs.foldl (fun index managerUserID =>
        index.add managerUserID client.id) store.managerClientIndex }

def removeClientUserIndexesByID (clientID : Int) (store : Store Details) : Store Details :=
  if clientID ≤ 0 then store
  else
    { store with
      ownerClientIndex := store.ownerClientIndex.removeID clientID
      managerClientIndex := store.managerClientIndex.removeID clientID }

def clearClientUserIndexes (store : Store Details) : Store Details :=
  { store with
    ownerClientIndex := store.ownerClientIndex.clear
    managerClientIndex := store.managerClientIndex.clear }

def markClientUserIndexesReady (store : Store Details) : Store Details :=
  { store with
    ownerClientIndex := store.ownerClientIndex.markReady
    managerClientIndex := store.managerClientIndex.markReady }

def dropLoadedTunnel (env : StoreEnv Details) (tunnel : Tunnel Details) (store : Store Details) :
    Store Details :=
  { store with
    taskClientIndex :=
      match tunnel.clientId with
      | none => store.taskClientIndex
      | some clientId => store.taskClientIndex.remove clientId tunnel.id
    taskPasswordIndex :=
      if tunnel.password = "" then store.taskPasswordIndex
      else store.taskPasswordIndex.removeIf (env.md5 tunnel.password) tunnel.id
    tasks := store.tasks.delete tunnel.id }

def dropLoadedHost (env : StoreEnv Details) (host : Host Details) (store : Store Details) :
    Store Details :=
  { store with
    hostClientIndex :=
      match host.clientId with
      | none => store.hostClientIndex
      | some clientId => store.hostClientIndex.remove clientId host.id
    hostIndex := store.hostIndex.remove env.lower host.host host.id
    hosts := store.hosts.delete host.id }

end Store

/-- What the functions over the tunnels and over the hosts of a client differ in; dropping a
record takes no other out of the table. -/
structure ClientResource (Details : RecordKind → Type) (Record : Type) where
  id : Record → Int
  table : Store Details → Table id
  clientId : Record → Option Int
  index : Store Details → GroupIDIndex
  setIndex : GroupIDIndex → Store Details → Store Details
  drop : Record → Store Details → Store Details
  table_drop : ∀ record store, table (drop record store) = (table store).delete (id record)
  table_setIndex : ∀ index store, table (setIndex index store) = table store

namespace ClientResource

variable {Record : Type} (resource : ClientResource Details Record)

/-- `syncIndexedTunnelClient`, `syncIndexedHostClient`; a record without a client is dropped. -/
def syncIndexedClient (record : Record) (store : Store Details) : Option Int × Store Details :=
  if resource.id record ≤ 0 then (none, store)
  else
    let clientID := (resource.clientId record).getD 0
    if clientID ≤ 0 ∨ (store.clients.get clientID).isNone then
      (none, resource.drop record store)
    else (some clientID, store)

def reindex (store : Store Details) (record : Record) : Store Details :=
  match resource.syncIndexedClient record store with
  | (none, store) => store
  | (some clientID, store) =>
      resource.setIndex ((resource.index store).add clientID (resource.id record)) store

def rebuildIndex (store : Store Details) : Store Details :=
  let cleared := resource.setIndex (resource.index store).clear store
  let filled := (resource.table cleared).records.foldl resource.reindex cleared
  resource.setIndex (resource.index filled).markReady filled

def ensureIndexReady (store : Store Details) : Store Details :=
  if (resource.index store).ready then store else resource.rebuildIndex store

def removeEntry (clientID id : Int) (store : Store Details) : Store Details :=
  resource.setIndex ((resource.index store).remove clientID id) store

def addEntry (clientID id : Int) (store : Store Details) : Store Details :=
  resource.setIndex ((resource.index store).add clientID id) store

/-- The loop of `rangeClientTunnels`, `rangeClientHosts`, until the callback returns false. -/
def visit (clientID : Int) (continues : Record → Bool) :
    List Int → Store Details → List Record × Store Details
  | [], store => ([], store)
  | id :: ids, store =>
      match (resource.table store).get id with
      | none => visit clientID continues ids (resource.removeEntry clientID id store)
      | some record =>
          match resource.syncIndexedClient record store with
          | (none, store) => visit clientID continues ids (resource.removeEntry clientID id store)
          | (some actualClientID, store) =>
              if actualClientID ≠ clientID then
                visit clientID continues ids
                  (resource.addEntry actualClientID id (resource.removeEntry clientID id store))
              else if continues record then
                let rest := visit clientID continues ids store
                (record :: rest.1, rest.2)
              else ([record], store)

def range (clientID : Int) (continues : Record → Bool) (store : Store Details) :
    List Record × Store Details :=
  if clientID ≤ 0 then ([], store)
  else
    let store := resource.ensureIndexReady store
    resource.visit clientID continues ((resource.index store).snapshot clientID) store

def tunnels (env : StoreEnv Details) : ClientResource Details (Tunnel Details) where
  id := Tunnel.id
  table := Store.tasks
  clientId := Tunnel.clientId
  index := Store.taskClientIndex
  setIndex := fun index store => { store with taskClientIndex := index }
  drop := Store.dropLoadedTunnel env
  table_drop := fun _ _ => rfl
  table_setIndex := fun _ _ => rfl

def hosts (env : StoreEnv Details) : ClientResource Details (Host Details) where
  id := Host.id
  table := Store.hosts
  clientId := Host.clientId
  index := Store.hostClientIndex
  setIndex := fun index store => { store with hostClientIndex := index }
  drop := Store.dropLoadedHost env
  table_drop := fun _ _ => rfl
  table_setIndex := fun _ _ => rfl

end ClientResource

/-- What the functions over the owned and over the managed clients of a user differ in. -/
structure UserLink (Details : RecordKind → Type) where
  index : Store Details → GroupIDIndex
  setIndex : GroupIDIndex → Store Details → Store Details
  owns : Int → Client Details → Bool
  index_setIndex : ∀ new store, index (setIndex new store) = new
  clients_setIndex : ∀ new store, (setIndex new store).clients = store.clients

namespace UserLink

def owned : UserLink Details where
  index := Store.ownerClientIndex
  setIndex := fun index store => { store with ownerClientIndex := index }
  owns := fun userID client => client.ownerID = userID
  index_setIndex := fun _ _ => rfl
  clients_setIndex := fun _ _ => rfl

def managed : UserLink Details where
  index := Store.managerClientIndex
  setIndex := fun index store => { store with managerClientIndex := index }
  owns := fun userID client => client.hasManagerUserID userID
  index_setIndex := fun _ _ => rfl
  clients_setIndex := fun _ _ => rfl

/-- The loop of `rangeIndexedClientsByUserID`, for a callback that never stops. -/
def visit (link : UserLink Details) (userID : Int) :
    List Int → Store Details → List (Client Details) × Store Details
  | [], store => ([], store)
  | clientID :: clientIDs, store =>
      let removed := link.setIndex ((link.index store).remove userID clientID) store
      match store.clients.get clientID with
      | none => visit link userID clientIDs removed
      | some client =>
          if ¬ link.owns userID client then visit link userID clientIDs removed
          else
            let rest := visit link userID clientIDs store
            (client :: rest.1, rest.2)

end UserLink

namespace Store

def clientUserIndexesReady (store : Store Details) : Bool :=
  store.ownerClientIndex.ready && store.managerClientIndex.ready

def rebuildClientUserIndexes (store : Store Details) : Store Details :=
  (store.clients.records.foldl (fun store client => store.addClientUserIndexes client)
    store.clearClientUserIndexes).markClientUserIndexesReady

def ensureClientUserIndexesReady (store : Store Details) : Store Details :=
  if store.clientUserIndexesReady then store else store.rebuildClientUserIndexes

def rangeClientsByUserID (link : UserLink Details) (userID : Int) (store : Store Details) :
    List (Client Details) × Store Details :=
  if userID ≤ 0 then ([], store)
  else
    let store := store.ensureClientUserIndexesReady
    link.visit userID ((link.index store).snapshot userID) store

def rangeOwnedClientsByUserID (userID : Int) (store : Store Details) :
    List (Client Details) × Store Details :=
  rangeClientsByUserID UserLink.owned userID store

def rangeManagedClientsByUserID (userID : Int) (store : Store Details) :
    List (Client Details) × Store Details :=
  rangeClientsByUserID UserLink.managed userID store

def rangeClientTunnels (env : StoreEnv Details) (clientID : Int)
    (continues : Tunnel Details → Bool) (store : Store Details) :
    List (Tunnel Details) × Store Details :=
  (ClientResource.tunnels env).range clientID continues store

def rangeClientHosts (env : StoreEnv Details) (clientID : Int)
    (continues : Host Details → Bool) (store : Store Details) :
    List (Host Details) × Store Details :=
  (ClientResource.hosts env).range clientID continues store

/-- `clientOwnsPersistedResources`: the callbacks stop at the first record. -/
def clientOwnsPersistedResources (env : StoreEnv Details) (id : Int) (store : Store Details) :
    Bool × Store Details :=
  if id ≤ 0 then (false, store)
  else
    let tunnels := store.rangeClientTunnels env id fun _ => false
    if ¬ tunnels.1.isEmpty then (true, tunnels.2)
    else
      let hosts := tunnels.2.rangeClientHosts env id fun _ => false
      (¬ hosts.1.isEmpty, hosts.2)

def relinkClientReferences (env : StoreEnv Details) (clientID : Int) (store : Store Details) :
    Store Details :=
  ((store.rangeClientTunnels env clientID fun _ => true).2.rangeClientHosts env clientID
    fun _ => true).2

def relinkUserReferences (userID : Int) (store : Store Details) : Store Details :=
  (store.rangeOwnedClientsByUserID userID).2

end Store

end DeepNps.File
