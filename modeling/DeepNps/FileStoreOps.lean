import DeepNps.FileStore
import DeepNps.LabelledRuns

/-!
# The operations of the store

Random texts and the time of day are inputs of the operations that use them, and the
records passed in are not the stored ones.
-/

namespace DeepNps.File

variable {Details : RecordKind → Type}

/-- What `GetRandomString` may return: sixteen or more digits and small letters. -/
def RandomText : Type :=
  { text : String // 16 ≤ text.toList.length ∧ ∀ char ∈ text.toList, char.isDigit || char.isLower }

theorem RandomText.ne_empty (random : RandomText) : random.1 ≠ "" := by
  intro isEmpty
  have long := random.2.1
  rw [isEmpty] at long
  exact absurd long (by decide)

namespace Store

/-! ## Users -/

/-- `getUserByUsernameIndex`: an entry that does not lead to a user of the name is
removed. -/
def getUserByUsernameIndex (username : String) (store : Store Details) :
    Option (User Details) × Store Details :=
  let removed := { store with usernameIndex := store.usernameIndex.remove username }
  if username = "" then (none, store)
  else
    match store.usernameIndex.get username with
    | none => (none, store)
    | some id =>
        if id ≤ 0 then (none, store)
        else
          match store.users.get id with
          | none => (none, removed)
          | some current =>
              if current.indexedUsername ≠ username then (none, removed)
              else (some current, store)

def verifyUserName (username : String) (exceptUserID : Int) (store : Store Details) :
    Bool × Store Details :=
  let username := Text.trimSpace username
  if username = "" then (true, store)
  else
    match store.getUserByUsernameIndex username with
    | (some current, store) => (current.id = exceptUserID, store)
    | (none, store) =>
        let found := store.users.records.filter fun user => user.indexedUsername = username
        if found.any fun user => user.id ≠ exceptUserID then (false, store)
        else
          match found.head? with
          | none => (true, store)
          | some user =>
              if 0 < user.id then
                (true, { store with usernameIndex := store.usernameIndex.add username user.id })
              else (true, store)

def addUserIndexes (user : User Details) (store : Store Details) : Store Details :=
  let username := user.indexedUsername
  let platformID := user.indexedExternalPlatformID
  { store with
    usernameIndex :=
      if username ≠ "" then store.usernameIndex.add username user.id else store.usernameIndex
    platformUserIndex :=
      if platformID ≠ "" then store.platformUserIndex.add platformID user.id
      else store.platformUserIndex }

def removeUserIndexes (user : User Details) (store : Store Details) : Store Details :=
  let username := user.indexedUsername
  let platformID := user.indexedExternalPlatformID
  { store with
    usernameIndex :=
      if username ≠ "" then store.usernameIndex.removeIf username user.id
      else store.usernameIndex
    platformUserIndex :=
      if platformID ≠ "" then store.platformUserIndex.removeIf platformID user.id
      else store.platformUserIndex }

def putUser (user : User Details) (store : Store Details) : Store Details :=
  let stored := { store with users := store.users.store user }
  (stored.addUserIndexes user).relinkUserReferences user.id

def createUser (env : StoreEnv Details) (user : User Details) (store : Store Details) :
    Store Details :=
  let user := user.initializeRuntime env
  let allocated := allocateId store.userIncreaseId user.id
  let user :=
    { user with
      id := allocated.1
      status := if user.status = 0 then 1 else user.status }
  { store with userIncreaseId := allocated.2 }.putUser user

def newUser (env : StoreEnv Details) (user : User Details) (store : Store Details) :
    Outcome Details :=
  let user := { user with username := Text.trimSpace user.username }
  if user.username = "" then (.error .usernameEmpty, store)
  else
    match store.verifyUserName user.username user.id with
    | (false, store) => (.error .usernameDuplicate, store)
    | (true, store) => (.ok (), store.createUser env user)

def replaceUser (env : StoreEnv Details) (current user : User Details) (store : Store Details) :
    Store Details :=
  (store.removeUserIndexes current).putUser
    ({ user with expectedRevision := 0 }.initializeRuntime env)

def updateUser (env : StoreEnv Details) (user : User Details) (store : Store Details) :
    Outcome Details :=
  match store.users.get user.id with
  | none => (.error .userNotFound, store)
  | some current =>
      if revisionDiffers user.expectedRevision current.revision then
        (.error .revisionConflict, store)
      else
        let user := { user with username := Text.trimSpace user.username }
        if user.username = "" then (.error .usernameEmpty, store)
        else
          match store.verifyUserName user.username user.id with
          | (false, store) => (.error .usernameDuplicate, store)
          | (true, store) => (.ok (), store.replaceUser env current user)

/-- One client of `clearUserReferences`: whether it was changed, and the store. -/
def clearUserReference (userID now clientID : Int) (store : Store Details) : Bool × Store Details :=
  match store.clients.get clientID with
  | none => (false, store.removeClientUserIndexesByID clientID)
  | some client =>
      match client.clearUserReference userID now with
      | none => (false, store)
      | some cleared =>
          let stored := { store with clients := store.clients.store cleared }
          (true, (stored.removeClientUserIndexesByID clientID).addClientUserIndexes cleared)

def clearUserReferencesOf (userID now : Int) : List Int → Store Details → Bool × Store Details
  | [], store => (false, store)
  | clientID :: clientIDs, store =>
      let cleared := store.clearUserReference userID now clientID
      let rest := clearUserReferencesOf userID now clientIDs cleared.2
      (cleared.1 || rest.1, rest.2)

/-- `collectVisibleUserLinkedClientIDs`: neither list has an id twice. -/
def linkedClientIDs (userID : Int) (store : Store Details) : List Int × Store Details :=
  let owned := store.rangeOwnedClientsByUserID userID
  let managed := owned.2.rangeManagedClientsByUserID userID
  let ownedIDs := owned.1.map Client.id
  (ownedIDs ++ (managed.1.map Client.id).filter (· ∉ ownedIDs), managed.2)

def clearUserReferences (userID now : Int) (store : Store Details) : Store Details :=
  if userID ≤ 0 then store
  else
    let linked := store.ensureClientUserIndexesReady.linkedClientIDs userID
    let cleared := clearUserReferencesOf userID now linked.1 linked.2
    if cleared.1 then cleared.2.markClientUserIndexesReady else cleared.2

def delUser (id now : Int) (store : Store Details) : Outcome Details :=
  match store.users.get id with
  | none => (.error .userNotFound, store)
  | some current =>
      let removed := store.removeUserIndexes current
      (.ok (), { removed with users := store.users.delete id }.clearUserReferences id now)

/-! ## Clients -/

def verifyVkey (store : Store Details) (vkey : String) (id : Int) : Bool :=
  store.clients.records.all fun client => ¬ (client.verifyKey = vkey ∧ client.id ≠ id)

def putClient (client : Client Details) (store : Store Details) : Store Details :=
  let stored := { store with clients := store.clients.store client }
  ((stored.removeClientUserIndexesByID client.id).addClientUserIndexes
    client).markClientUserIndexesReady

/-- `NewClient` with the key it settled on. -/
def createClient (env : StoreEnv Details) (client : Client Details) (store : Store Details) :
    Store Details :=
  let allocated := allocateId store.clientIncreaseId client.id
  let client := { client with id := allocated.1 }.applySetupHook env
  let stored := { store with clientIncreaseId := allocated.2 }.putClient client
  { stored with
    blake2bVkeyIndex := stored.blake2bVkeyIndex.add (env.blake2b client.verifyKey) client.id }

/-- `NewClient`.  Without a key, random keys are drawn until one is free; `randoms` are
the keys drawn. -/
def newClient (env : StoreEnv Details) (client : Client Details) (randoms : List RandomText)
    (store : Store Details) : Option (Outcome Details) :=
  let verifyKey := Text.trimSpace client.verifyKey
  if verifyKey = "" then
    (randoms.find? fun key => store.verifyVkey key.1 client.id).map fun key =>
      (.ok (), store.createClient env { client with verifyKey := key.1 })
  else if store.verifyVkey verifyKey client.id then
    some (.ok (), store.createClient env { client with verifyKey })
  else some (.error .vkeyDuplicate, store)

def replaceClient (env : StoreEnv Details) (current client : Client Details)
    (store : Store Details) : Store Details :=
  let unindexed :=
    { store with
      blake2bVkeyIndex := store.blake2bVkeyIndex.remove (env.blake2b current.verifyKey) }
  let client := { client.applySetupHook env with expectedRevision := 0 }
  let linked := (unindexed.putClient client).relinkClientReferences env client.id
  { linked with
    blake2bVkeyIndex := linked.blake2bVkeyIndex.add (env.blake2b client.verifyKey) client.id }

def updateClient (env : StoreEnv Details) (client : Client Details) (store : Store Details) :
    Outcome Details :=
  let client := { client with verifyKey := Text.trimSpace client.verifyKey }
  match store.clients.get client.id with
  | none => (.error .clientNotFound, store)
  | some current =>
      if revisionDiffers client.expectedRevision current.revision then
        (.error .revisionConflict, store)
      else if client.verifyKey = "" then (.error .emptyVerifyKey, store)
      else if ¬ store.verifyVkey client.verifyKey client.id then (.error .vkeyDuplicate, store)
      else (.ok (), store.replaceClient env current client)

def removeClient (env : StoreEnv Details) (current : Client Details) (store : Store Details) :
    Store Details :=
  let unindexed :=
    { store with
      blake2bVkeyIndex := store.blake2bVkeyIndex.remove (env.blake2b current.verifyKey) }
  let removed := unindexed.removeClientUserIndexesByID current.id
  { removed with clients := removed.clients.delete current.id }.markClientUserIndexesReady

def delClient (env : StoreEnv Details) (id : Int) (store : Store Details) : Outcome Details :=
  match store.clients.get id with
  | none => (.error .clientNotFound, store)
  | some current =>
      match store.clientOwnsPersistedResources env id with
      | (true, store) => (.error .clientHasResources, store)
      | (false, store) => (.ok (), store.removeClient env current)

def getClientIdByBlake2bVkey (store : Store Details) (vkey : String) : Option Int :=
  store.blake2bVkeyIndex.get vkey

/-! ## Tunnels -/

/-- Secret and peer-to-peer tunnels have a password: it and the random texts left. -/
def fillPassword (mode password : String) (randoms : List RandomText) :
    Option (String × List RandomText) :=
  if (mode = "secret" ∨ mode = "p2p") ∧ password = "" then
    match randoms with
    | [] => none
    | random :: randoms => some (random.1, randoms)
  else some (password, randoms)

def freePassword (env : StoreEnv Details) (index : StringIDIndex) (id : Int) :
    String → List RandomText → Option String
  | password, [] =>
      match index.get (env.md5 password) with
      | none => some password
      | some other => if other = id then some password else none
  | password, random :: randoms =>
      match index.get (env.md5 password) with
      | none => some password
      | some other =>
          if other = id then some password else freePassword env index id random.1 randoms

/-- The password a tunnel gets, and the index with it.  An empty password is not
indexed. -/
def settlePassword (env : StoreEnv Details) (id : Int) (password : String)
    (randoms : List RandomText) (index : StringIDIndex) : Option (String × StringIDIndex) :=
  if password = "" then some ("", index)
  else
    (freePassword env index id password randoms).map fun password =>
      (password, index.add (env.md5 password) id)

def createTask (env : StoreEnv Details) (tunnel : Tunnel Details) (clientId : Int)
    (taskIncreaseId : Int32) (taskPasswordIndex : StringIDIndex) (store : Store Details) :
    Store Details :=
  { store with
    taskIncreaseId
    taskPasswordIndex
    tasks := store.tasks.store (tunnel.prepareForStore env)
    taskClientIndex := (store.taskClientIndex.add clientId tunnel.id).markReady }

def newTask (env : StoreEnv Details) (tunnel : Tunnel Details) (randoms : List RandomText)
    (store : Store Details) : Option (Outcome Details) :=
  match store.resolveStoredClientRef tunnel.clientId with
  | .error error => some (.error error, store)
  | .ok clientId =>
      (fillPassword tunnel.mode tunnel.password randoms).bind fun filled =>
        let allocated := allocateId store.taskIncreaseId tunnel.id
        (settlePassword env allocated.1 filled.1 filled.2 store.taskPasswordIndex).map
          fun settled =>
            let tunnel :=
              { tunnel with id := allocated.1, clientId := some clientId, password := settled.1 }
            (.ok (), store.createTask env tunnel clientId allocated.2 settled.2)

def removeClientEntry (index : GroupIDIndex) (clientId : Option Int) (id : Int) : GroupIDIndex :=
  match clientId with
  | none => index
  | some clientId => index.remove clientId id

def withoutPassword (env : StoreEnv Details) (current : Tunnel Details) (index : StringIDIndex) :
    StringIDIndex :=
  if current.password = "" then index
  else index.removeIf (env.md5 current.password) current.id

def replaceTask (env : StoreEnv Details) (current tunnel : Tunnel Details) (clientId : Int)
    (taskPasswordIndex : StringIDIndex) (store : Store Details) : Store Details :=
  let moved := removeClientEntry store.taskClientIndex current.clientId current.id
  { store with
    taskPasswordIndex
    tasks := store.tasks.store (tunnel.prepareForStore env)
    taskClientIndex := (moved.add clientId tunnel.id).markReady }

def updateTask (env : StoreEnv Details) (tunnel : Tunnel Details) (randoms : List RandomText)
    (store : Store Details) : Option (Outcome Details) :=
  match store.resolveStoredClientRef tunnel.clientId with
  | .error error => some (.error error, store)
  | .ok clientId =>
      match store.tasks.get tunnel.id with
      | none => some (.error .taskNotFound, store)
      | some current =>
          if revisionDiffers tunnel.expectedRevision current.revision then
            some (.error .revisionConflict, store)
          else
            (fillPassword tunnel.mode tunnel.password randoms).bind fun filled =>
              let unindexed := withoutPassword env current store.taskPasswordIndex
              (settlePassword env tunnel.id filled.1 filled.2 unindexed).map fun settled =>
                let tunnel :=
                  { tunnel with
                    clientId := some clientId, password := settled.1, expectedRevision := 0 }
                (.ok (), store.replaceTask env current tunnel clientId settled.2)

def delTask (env : StoreEnv Details) (id : Int) (store : Store Details) : Outcome Details :=
  match store.tasks.get id with
  | none => (.error .taskNotFound, store)
  | some current =>
      (.ok (),
        { store with
          taskPasswordIndex := store.taskPasswordIndex.remove (env.md5 current.password)
          taskClientIndex :=
            (removeClientEntry store.taskClientIndex current.clientId current.id).markReady
          tasks := store.tasks.delete id })

/-- `GetTaskByMd5Password`: an entry without a tunnel is removed. -/
def getTaskByMd5Password (password : String) (store : Store Details) :
    Option (Tunnel Details) × Store Details :=
  match store.taskPasswordIndex.get password with
  | none => (none, store)
  | some id =>
      match store.tasks.get id with
      | some tunnel => (some tunnel, store)
      | none => (none, { store with taskPasswordIndex := store.taskPasswordIndex.remove password })

def bindRuntimeOwner (env : StoreEnv Details) (id : Int) (uuid : String)
    (snapshot : TunnelSnapshot Details) (store : Store Details) : Outcome Details :=
  match store.tasks.get id with
  | none => (.error .taskNotFound, store)
  | some tunnel =>
      (.ok (),
        { store with tasks := store.tasks.store (tunnel.bindRuntimeOwner env uuid snapshot) })

def removeRuntimeOwner (env : StoreEnv Details) (id : Int) (uuid : String)
    (store : Store Details) : Outcome Details :=
  match store.tasks.get id with
  | none => (.error .taskNotFound, store)
  | some tunnel =>
      (.ok (), { store with tasks := store.tasks.store (tunnel.removeRuntimeOwner env uuid).2 })

/-! ## Hosts -/

def isHostExist (store : Store Details) (host : Host Details) : Bool :=
  store.hosts.records.any fun other =>
    other.id ≠ host.id ∧ other.host = host.host ∧
      normalizedHostLocation other.location = normalizedHostLocation host.location ∧
      (normalizedHostScheme other.scheme = "all" ∨
        normalizedHostScheme other.scheme = normalizedHostScheme host.scheme)

def createHost (env : StoreEnv Details) (host : Host Details) (clientId : Int)
    (store : Store Details) : Store Details :=
  let allocated := allocateId store.hostIncreaseId host.id
  let host := { host with id := allocated.1 }.finalizeForStore env
  { store with
    hostIncreaseId := allocated.2
    hostIndex := store.hostIndex.add env.lower host.host host.id
    hosts := store.hosts.store host
    hostClientIndex := (store.hostClientIndex.add clientId host.id).markReady }

def newHost (env : StoreEnv Details) (host : Host Details) (store : Store Details) :
    Outcome Details :=
  match store.resolveStoredClientRef host.clientId with
  | .error error => (.error error, store)
  | .ok clientId =>
      let host := { host with clientId := some clientId }.normalizeRoutingFields
      if store.isHostExist host then (.error .hostExists, store)
      else (.ok (), store.createHost env host clientId)

def replaceHost (env : StoreEnv Details) (old host : Host Details) (clientId : Int)
    (store : Store Details) : Store Details :=
  let host := { host with expectedRevision := 0 }.finalizeForStore env
  let moved := removeClientEntry store.hostClientIndex old.clientId old.id
  { store with
    hostIndex := (store.hostIndex.remove env.lower old.host host.id).add env.lower host.host host.id
    hosts := store.hosts.store host
    hostClientIndex := (moved.add clientId host.id).markReady }

def updateHost (env : StoreEnv Details) (host : Host Details) (store : Store Details) :
    Outcome Details :=
  match store.resolveStoredClientRef host.clientId with
  | .error error => (.error error, store)
  | .ok clientId =>
      match store.hosts.get host.id with
      | none => (.error .hostNotFound, store)
      | some old =>
          if revisionDiffers host.expectedRevision old.revision then
            (.error .revisionConflict, store)
          else
            let host := { host with clientId := some clientId }.normalizeRoutingFields
            if store.isHostExist host then (.error .hostExists, store)
            else (.ok (), store.replaceHost env old host clientId)

def delHost (env : StoreEnv Details) (id : Int) (store : Store Details) : Outcome Details :=
  match store.hosts.get id with
  | none => (.error .hostNotFound, store)
  | some current =>
      (.ok (),
        { store with
          hostIndex := store.hostIndex.remove env.lower current.host id
          hostClientIndex :=
            (removeClientEntry store.hostClientIndex current.clientId current.id).markReady
          hosts := store.hosts.delete id })

end Store

/-! ## Runs of operations -/

inductive StoreEvent (Details : RecordKind → Type)
  | newUser (user : User Details)
  | updateUser (user : User Details)
  | delUser (id now : Int)
  | newClient (client : Client Details) (randoms : List RandomText)
  | updateClient (client : Client Details)
  | delClient (id : Int)
  | newTask (tunnel : Tunnel Details) (randoms : List RandomText)
  | updateTask (tunnel : Tunnel Details) (randoms : List RandomText)
  | delTask (id : Int)
  | bindRuntimeOwner (id : Int) (uuid : String) (snapshot : TunnelSnapshot Details)
  | removeRuntimeOwner (id : Int) (uuid : String)
  | newHost (host : Host Details)
  | updateHost (host : Host Details)
  | delHost (id : Int)

namespace Store

/-- The outcome of an operation; none if more random texts have to be drawn. -/
def perform (env : StoreEnv Details) (event : StoreEvent Details) (store : Store Details) :
    Option (Outcome Details) :=
  match event with
  | .newUser user => some (store.newUser env user)
  | .updateUser user => some (store.updateUser env user)
  | .delUser id now => some (store.delUser id now)
  | .newClient client randoms => store.newClient env client randoms
  | .updateClient client => some (store.updateClient env client)
  | .delClient id => some (store.delClient env id)
  | .newTask tunnel randoms => store.newTask env tunnel randoms
  | .updateTask tunnel randoms => store.updateTask env tunnel randoms
  | .delTask id => some (store.delTask env id)
  | .bindRuntimeOwner id uuid snapshot => some (store.bindRuntimeOwner env id uuid snapshot)
  | .removeRuntimeOwner id uuid => some (store.removeRuntimeOwner env id uuid)
  | .newHost host => some (store.newHost env host)
  | .updateHost host => some (store.updateHost env host)
  | .delHost id => some (store.delHost env id)

def step (env : StoreEnv Details) (store : Store Details) (event : StoreEvent Details) :
    Option (Store Details) :=
  (store.perform env event).map Prod.snd

end Store

/-! ## Records without details -/

def Bare : RecordKind → Type := fun _ => Unit

def StoreEnv.bare : StoreEnv Bare where
  md5 := id
  blake2b := id
  lower := Char.toLower
  prepare := fun _ details => details
  snapshotTunnel := id
  updateTunnel := fun _ other => other

def User.bare (id : Int) (username : String) : User Bare where
  id := id
  username := username
  kind := "local"
  externalPlatformID := ""
  hidden := false
  status := 1
  revision := 0
  expectedRevision := 0
  details := ()

def Client.bare (id : Int) (verifyKey : String) (ownerUserID : Int) (managerUserIDs : List Int) :
    Client Bare where
  id := id
  userId := 0
  ownerUserID := ownerUserID
  managerUserIDs := managerUserIDs
  verifyKey := verifyKey
  status := true
  revision := 0
  updatedAt := 0
  expectedRevision := 0
  details := ()

def TunnelSnapshot.bare (mode password : String) : TunnelSnapshot Bare where
  mode := mode
  password := password
  targetType := "all"
  httpProxy := false
  socks5Proxy := false
  details := ()

def Tunnel.bare (id clientId : Int) (mode password : String) : Tunnel Bare where
  id := id
  clientId := some clientId
  mode := mode
  password := password
  targetType := "all"
  httpProxy := false
  socks5Proxy := false
  revision := 0
  expectedRevision := 0
  runtimeRouteUUID := ""
  runtimeOwners := none
  details := ()

def Host.bare (id clientId : Int) (host location scheme : String) : Host Bare where
  id := id
  clientId := some clientId
  host := host
  location := location
  scheme := scheme
  isClose := false
  revision := 0
  expectedRevision := 0
  details := ()

end DeepNps.File
