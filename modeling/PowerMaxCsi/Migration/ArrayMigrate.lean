import PowerMaxCsi.Service.Replication

/-!
# Migration of an array

`pkg/migration` and `service.ArrayMigrate` of `service/migration.go`.  What `MG_MIGRATE` has to tell
`MG_COMMIT` is in variables of the package (`Cache`), whose reads and writes are calls.  Maps are
empty where the source has nil maps.
-/

namespace PowerMaxCsi.Migration

open Service Strings

/-- `types.VolumeIterator`: how many volumes there are, and those of the first page. -/
structure VolumeIterator where
  count : Nat
  volumeList : List String
deriving DecidableEq, Repr

structure StorageGroupParams where
  numOfVolumes : Nat
  (srp slo : String)
  hostIOLimit : Option HostIOLimits
deriving DecidableEq, Repr

structure DevicePair where
  (srcVolumeName tgtVolumeName : String)
deriving DecidableEq, Repr

/-- `types.MigrationSession`.  The driver does not read the target array. -/
structure MigrationSession where
  (targetArray storageGroup state : String)
  devicePairs : List DevicePair
deriving DecidableEq, Repr

inductive ActionType where
  | mgMigrate
  | mgCommit
  | unknown
deriving DecidableEq, Repr

structure ArrayMigrateRequest where
  parameters : List (String × String)
  action : ActionType
deriving DecidableEq, Repr

/-- What `ArrayMigrate` returns: `Success` of the response, if there is one, and the error. -/
structure ArrayMigrateResult where
  success : Option Bool
  err : Option Failure
deriving DecidableEq, Repr

/-- `CacheReset`, `NodePairs`, `SGToRemoteVols` and `localSGVolumeList`. -/
structure Cache where
  cacheReset : Bool
  nodePairs : String → Option String
  /-- The entries of the map, one for each key. -/
  sgToRemoteVols : List (String × List String)
  localSGVolumeList : String → Option VolumeIterator

def Cache.new : Cache := ⟨false, fun _ => none, [], fun _ => none⟩

inductive CacheCall where
  | loadCacheReset
  | storeCacheReset (value : Bool)
  | makeMaps
  | storeLocalSGVolumeList (localSGID : String) (volumes : VolumeIterator)
  | loadLocalSGVolumeList (localSGID : String)
  | storeNodePair (srcVolumeName tgtVolumeName : String)
  | loadNodePair (srcVolumeName : String)
  | storeSGToRemoteVols (localSGID : String) (remoteVolIDs : List String)
  | rangeSGToRemoteVols
deriving DecidableEq, Repr

abbrev CacheAnswer : CacheCall → Type
  | .loadCacheReset => Bool
  | .storeCacheReset _ => Unit
  | .makeMaps => Unit
  | .storeLocalSGVolumeList _ _ => Unit
  | .loadLocalSGVolumeList _ => Option VolumeIterator
  | .storeNodePair _ _ => Unit
  | .loadNodePair _ => Option String
  | .storeSGToRemoteVols _ _ => Unit
  | .rangeSGToRemoteVols => List (String × List String)

/-- The variables after they were used; `none` if they have other values than were read. -/
def Cache.serve (m : Cache) : (c : CacheCall) → CacheAnswer c → Option Cache
  | .loadCacheReset, r => if r = m.cacheReset then some m else none
  | .storeCacheReset value, _ => some { m with cacheReset := value }
  | .makeMaps, _ => some { Cache.new with cacheReset := m.cacheReset }
  | .storeLocalSGVolumeList localSGID volumes, _ => some { m with
      localSGVolumeList := Function.update m.localSGVolumeList localSGID (some volumes) }
  | .loadLocalSGVolumeList localSGID, r =>
    if r = m.localSGVolumeList localSGID then some m else none
  | .storeNodePair srcVolumeName tgtVolumeName, _ => some { m with
      nodePairs := Function.update m.nodePairs srcVolumeName (some tgtVolumeName) }
  | .loadNodePair srcVolumeName, r => if r = m.nodePairs srcVolumeName then some m else none
  | .storeSGToRemoteVols localSGID remoteVolIDs, _ => some { m with
      sgToRemoteVols := (localSGID, remoteVolIDs) :: m.sgToRemoteVols.filter (·.1 ≠ localSGID) }
  | .rangeSGToRemoteVols, r => if r.Perm m.sgToRemoteVols then some m else none

section

variable {m m' : Cache}

theorem Cache.serve_loadCacheReset {r : Bool} :
    m.serve .loadCacheReset r = some m' ↔ r = m.cacheReset ∧ m = m' := by
  simp [Cache.serve]

theorem Cache.serve_loadLocalSGVolumeList {localSGID : String} {r : Option VolumeIterator} :
    m.serve (.loadLocalSGVolumeList localSGID) r = some m' ↔
      r = m.localSGVolumeList localSGID ∧ m = m' := by
  simp [Cache.serve]

theorem Cache.serve_loadNodePair {srcVolumeName : String} {r : Option String} :
    m.serve (.loadNodePair srcVolumeName) r = some m' ↔ r = m.nodePairs srcVolumeName ∧ m = m' := by
  simp [Cache.serve]

theorem Cache.serve_rangeSGToRemoteVols {r : List (String × List String)} :
    m.serve .rangeSGToRemoteVols r = some m' ↔ r.Perm m.sgToRemoteVols ∧ m = m' := by
  simp [Cache.serve]

end

inductive MgCall where
  | cache (c : CacheCall)
  | getPowerMaxClient (symID : String)
  | getMigrationEnvironment (localSymID remoteSymID : String)
  | createMigrationEnvironment (localSymID remoteSymID : String)
  | deleteMigrationEnvironment (localSymID remoteSymID : String)
  | getStorageGroupIDList (symID storageGroupIDMatch : String)
  | getVolumesInStorageGroupIterator (symID storageGroupID : String)
  | removeVolumesFromStorageGroup (symID storageGroupID volumeID : String)
  | getStorageGroup (symID storageGroupID : String)
  | getStorageGroupMigrationByID (symID storageGroupID : String)
  | createSGMigration (symID remoteSymID storageGroupID : String)
  | createStorageGroup (symID storageGroupID srp slo : String) (hostLimits : Option HostIOLimits)
  | getStorageGroupMigration (symID : String)
  | modifyMigrationSession (symID action storageGroup : String)
  | addVolumesToStorageGroupS (symID storageGroupID : String) (volumeIDs : List String)
deriving DecidableEq, Repr

/-- Their answers.  The environment may be nil without an error (`false`), the session with one
(`true`). -/
abbrev MgAnswer : MgCall → Type
  | .cache c => CacheAnswer c
  | .getPowerMaxClient _ => Except String Unit
  | .getMigrationEnvironment _ _ => Except PmaxError Bool
  | .createMigrationEnvironment _ _ => Except PmaxError Unit
  | .deleteMigrationEnvironment _ _ => Except PmaxError Unit
  | .getStorageGroupIDList _ _ => Except PmaxError (List String)
  | .getVolumesInStorageGroupIterator _ _ => Except PmaxError VolumeIterator
  | .removeVolumesFromStorageGroup _ _ _ => Except PmaxError Unit
  | .getStorageGroup _ _ => Except PmaxError StorageGroupParams
  | .getStorageGroupMigrationByID _ _ => Except (PmaxError × Bool) MigrationSession
  | .createSGMigration _ _ _ => Except PmaxError MigrationSession
  | .createStorageGroup _ _ _ _ _ => Except PmaxError Unit
  | .getStorageGroupMigration _ => Except PmaxError (List String)
  | .modifyMigrationSession _ _ _ => Except PmaxError Unit
  | .addVolumesToStorageGroupS _ _ _ => Except PmaxError Unit

abbrev MgProg := Prog MgCall MgAnswer

def useCache (c : CacheCall) : MgProg (CacheAnswer c) := Prog.ask (MgCall.cache c)

def csiNoSrpSGPrefix : String := "csi-no-srp-sg-"

def synchronized : String := "Synchronized"

def passedOn (err : PmaxError) : Failure := .failed (.plain err.text)

def resetCache : MgProg Unit := do
  if ← useCache .loadCacheReset then return ()
  else
    useCache .makeMaps
    useCache (.storeCacheReset true)

def getOrCreateSGMigration (symID remoteSymID storageGroupID : String) :
    MgProg (Except PmaxError MigrationSession) := do
  match ← Prog.ask (MgCall.getStorageGroupMigrationByID symID storageGroupID) with
  | .ok migrationSG => return .ok migrationSG
  | .error (err, isNil) =>
    if contains err.text "is not in a migration" || isNil then
      Prog.ask (MgCall.createSGMigration symID remoteSymID storageGroupID)
    else return .error err

def removeVolumes (symID localSGID : String) (volumeIDs : List String) : MgProg Unit :=
  Prog.forEach volumeIDs fun volumeID => do
    let _ ← Prog.ask (MgCall.removeVolumesFromStorageGroup symID localSGID volumeID)

def emptyGroups (symID : String) : List String → MgProg (Except Failure Unit)
  | [] => return .ok ()
  | localSGID :: localSGIDs => do
    match ← Prog.ask (MgCall.getVolumesInStorageGroupIterator symID localSGID) with
    | .error err => return .error (internal ("Error getting storage group volume list: " ++ err.text))
    | .ok volumeIDList =>
      if volumeIDList.count > 0 then
        useCache (.storeLocalSGVolumeList localSGID volumeIDList)
        removeVolumes symID localSGID volumeIDList.volumeList
      emptyGroups symID localSGIDs

def storeNodePairs (devicePairs : List DevicePair) : MgProg Unit :=
  Prog.forEach devicePairs fun pair =>
    useCache (.storeNodePair pair.srcVolumeName pair.tgtVolumeName)

/-- The second loop of `StorageGroupMigration`: a session for each storage group without SRP. -/
def migrateGroups (symID remoteSymID : String) : List String → MgProg (Except Failure Unit)
  | [] => return .ok ()
  | storageGroupID :: storageGroupIDs => do
    match ← Prog.ask (MgCall.getStorageGroup symID storageGroupID) with
    | .error err => return .error (internal ("Failed to fetch details of SG(" ++ storageGroupID ++
        ") - Error (" ++ err.text ++ ")"))
    | .ok sg =>
      if sg.numOfVolumes > 0 then
        match ← getOrCreateSGMigration symID remoteSymID storageGroupID with
        | .error err => return .error (internal (
            "Failed to create array migration session for target array(" ++ remoteSymID ++
              ") - Error (" ++ err.text ++ ")"))
        | .ok migrationSG =>
          storeNodePairs migrationSG.devicePairs
          migrateGroups symID remoteSymID storageGroupIDs
      else migrateGroups symID remoteSymID storageGroupIDs

/-- The storage group is created with the parameters of the local one.  The error of
`GetStorageGroup` is overwritten, the limits are not checked. -/
def createRemoteGroup (symID remoteSymID localSGID : String) : MgProg (Except Failure Unit) := do
  match ← Prog.ask (MgCall.getStorageGroup symID localSGID) with
  | .error _ => return .error .panics
  | .ok sg =>
    match sg.hostIOLimit with
    | none => return .error .panics
    | some hostLimitsParam =>
      let optionalPayload := if hostLimitsParam = ⟨"", "", ""⟩ then none else some hostLimitsParam
      match ← Prog.ask (MgCall.createStorageGroup remoteSymID localSGID sg.srp sg.slo
          optionalPayload) with
      | .error err => return .error (internal (
          "Error creating storage group on remote array: " ++ err.text))
      | .ok () => return .ok ()

def ensureRemoteGroup (symID remoteSymID : String) (remoteSGIDs : List String) (localSGID : String) :
    MgProg (Except Failure Unit) :=
  if localSGID ∈ remoteSGIDs then return .ok () else createRemoteGroup symID remoteSymID localSGID

def remoteVolumes : List String → List String → MgProg (List String)
  | [], remoteVolIDs => return remoteVolIDs
  | volumeID :: volumeIDs, remoteVolIDs => do
    match ← useCache (.loadNodePair volumeID) with
    | none => remoteVolumes volumeIDs remoteVolIDs
    | some _ =>
      -- the source looks the pair up twice
      let tgtVolumeName := (← useCache (.loadNodePair volumeID)).getD ""
      remoteVolumes volumeIDs (remoteVolIDs ++ [tgtVolumeName])

def storeRemoteVolumes (localSGID : String) : MgProg (Except Failure Unit) := do
  match ← useCache (.loadLocalSGVolumeList localSGID) with
  | none => return .ok ()
  | some _ =>
    match ← useCache (.loadLocalSGVolumeList localSGID) with
    | none => return .error .panics
    | some volumes =>
      let remoteVolIDs ← remoteVolumes volumes.volumeList []
      useCache (.storeSGToRemoteVols localSGID remoteVolIDs)
      return .ok ()

/-- The third loop of `StorageGroupMigration`: the storage groups on the remote array. -/
def makeRemoteGroups (symID remoteSymID : String) (remoteSGIDs : List String) :
    List String → MgProg (Except Failure Unit)
  | [] => return .ok ()
  | localSGID :: localSGIDs => do
    match ← ensureRemoteGroup symID remoteSymID remoteSGIDs localSGID with
    | .error failure => return .error failure
    | .ok () =>
      match ← storeRemoteVolumes localSGID with
      | .error failure => return .error failure
      | .ok () => makeRemoteGroups symID remoteSymID remoteSGIDs localSGIDs

def storageGroupMigration (symID remoteSymID clusterPrefix : String) :
    MgProg (Except Failure Unit) := do
  match ← Prog.ask (MgCall.getStorageGroupIDList symID (csiVolumePrefix ++ clusterPrefix)) with
  | .error err => return .error (passedOn err)
  | .ok localSgList =>
    match ← emptyGroups symID localSgList with
    | .error failure => return .error failure
    | .ok () =>
      match ← Prog.ask (MgCall.getStorageGroupIDList symID
          (csiNoSrpSGPrefix ++ clusterPrefix)) with
      | .error err => return .error (passedOn err)
      | .ok localSgNoSrpList =>
        match ← migrateGroups symID remoteSymID localSgNoSrpList with
        | .error failure => return .error failure
        | .ok () =>
          match ← Prog.ask (MgCall.getStorageGroupIDList remoteSymID
              (csiVolumePrefix ++ clusterPrefix)) with
          | .error err => return .error (passedOn err)
          | .ok remoteSgList =>
            makeRemoteGroups symID remoteSymID remoteSgList localSgList

def commitSessions (symID action : String) : List String → MgProg (Except Failure Unit)
  | [] => return .ok ()
  | id :: ids => do
    match ← Prog.ask (MgCall.getStorageGroupMigrationByID symID id) with
    | .error (err, _) => return .error (internal ("error getting Migration session for SG " ++ id ++
        " on sym " ++ symID ++ ": " ++ err.text))
    | .ok mgSG =>
      if mgSG.state = synchronized then
        match ← Prog.ask (MgCall.modifyMigrationSession symID action mgSG.storageGroup) with
        | .error err => return .error (internal ("error modifying Migration session for SG " ++ id ++
            " on sym " ++ symID ++ ": " ++ err.text))
        | .ok () => commitSessions symID action ids
      else return .error (internal ("Waiting for SG to be in SYNC state, current state of SG " ++
        id ++ " is " ++ mgSG.state))

def storageGroupCommit (symID action : String) : MgProg (Except Failure Unit) := do
  match ← Prog.ask (MgCall.getStorageGroupMigration symID) with
  | .error err => return .error (passedOn err)
  | .ok migratingNameList => commitSessions symID action migratingNameList

def addVolumes (remoteSymID : String) : List (String × List String) → MgProg (Except Failure Unit)
  | [] => return .ok ()
  | (storageGroup, remoteVols) :: entries => do
    if remoteVols = [] then addVolumes remoteSymID entries
    else
      match ← Prog.ask (MgCall.addVolumesToStorageGroupS remoteSymID storageGroup remoteVols) with
      | .error err => return .error (internal ("Could not add volume in SG on R2: " ++ remoteSymID ++
          ": " ++ err.text))
      | .ok () => addVolumes remoteSymID entries

/-- `AddVolumesToRemoteSG`.  Without entries it returns false, and no error. -/
def addVolumesToRemoteSG (remoteSymID : String) : MgProg (Except Failure Bool) := do
  let entries ← useCache .rangeSGToRemoteVols
  if entries = [] then return .ok false
  else
    match ← addVolumes remoteSymID entries with
    | .error failure => return .error failure
    | .ok () => return .ok true

def getOrCreateMigrationEnvironment (localSymID remoteSymID : String) :
    MgProg (Except PmaxError Unit) := do
  match ← Prog.ask (MgCall.getMigrationEnvironment localSymID remoteSymID) with
  | .ok true => return .ok ()
  | _ => Prog.ask (MgCall.createMigrationEnvironment localSymID remoteSymID)

def symmetrixIDParam : String := "SYMID"

def remoteSymIDParam : String := "RemoteSYMID"

def migrationActionCommit : String := "Commit"

def ArrayMigrateRequest.localSymID (req : ArrayMigrateRequest) : String :=
  (req.parameters.lookup symmetrixIDParam).getD ""

def ArrayMigrateRequest.remoteSymID (req : ArrayMigrateRequest) : String :=
  (req.parameters.lookup remoteSymIDParam).getD ""

def ArrayMigrateResult.error (err : Failure) : ArrayMigrateResult := ⟨none, some err⟩

def mgMigrate (localSymID remoteSymID clusterPrefix : String) : MgProg ArrayMigrateResult := do
  resetCache
  match ← getOrCreateMigrationEnvironment localSymID remoteSymID with
  | .error err => return ⟨some false, some (internal (
      "failed to create array migration environment for target array (" ++ remoteSymID ++
        ") - Error (" ++ err.text ++ ")"))⟩
  | .ok () =>
    match ← storageGroupMigration localSymID remoteSymID clusterPrefix with
    | .error failure => return .error failure
    | .ok () => return ⟨some true, none⟩

def mgCommit (localSymID remoteSymID : String) : MgProg ArrayMigrateResult := do
  match ← storageGroupCommit localSymID migrationActionCommit with
  | .error failure => return ⟨some false, some failure⟩
  | .ok () =>
    match ← addVolumesToRemoteSG remoteSymID with
    | .error failure => return ⟨some false, some failure⟩
    | .ok _ =>
      -- whether volumes were added is not looked at
      match ← Prog.ask (MgCall.deleteMigrationEnvironment localSymID remoteSymID) with
      | .error err => return ⟨some false, some (internal (
          "to remove array migration environment for target array(" ++ remoteSymID ++
            ") - Error (" ++ err.text ++ ")"))⟩
      | .ok () =>
        useCache (.storeCacheReset false)
        return ⟨some true, none⟩

def arrayMigrate (clusterPrefix : String) (req : ArrayMigrateRequest) :
    MgProg ArrayMigrateResult := do
  if req.parameters = [] then return .error (invalidArgument "Invalid argument")
  else if req.localSymID = "" ∨ req.remoteSymID = "" then
    return .error (invalidArgument "A SYMID parameter is required")
  else
    match ← Prog.ask (MgCall.getPowerMaxClient req.localSymID) with
    | .error err => return .error (invalidArgument err)
    | .ok () =>
      match req.action with
      | .mgMigrate => mgMigrate req.localSymID req.remoteSymID clusterPrefix
      | .mgCommit => mgCommit req.localSymID req.remoteSymID
      | .unknown => return ⟨some false, some (invalidArgument "Invalid action")⟩

end PowerMaxCsi.Migration
