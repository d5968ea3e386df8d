import PowerMaxCsi.Lib.GoMap
import PowerMaxCsi.Service.Replication

/-!
# Volume groups of CSI-Addons

`service/csiaddons_helpers.go`.  A quoted name in an error is between quotation marks as it is.
-/

namespace PowerMaxCsi.Addons

open Service Strings

structure RDFStorageGroup where
  rdf : Bool
  rdfGroups : List Int
deriving DecidableEq, Repr

structure RDFGroup extends RDFGroupInfo where
  remoteSymmetrix : String
deriving DecidableEq, Repr

inductive AddonsCall where
  | rep (call : RepCall)
  | getPowerMaxClient (symIDs : List String)
  | getProtectedStorageGroup (symID storageGroupID : String)
  | getStorageGroupRDFInfo (symID storageGroupID rdfGrpNo : String)
  | getRDFGroupByID (symID rdfGrpNo : String)
  | getVersionDetails (symID : String)
  | getVolumeIDListInStorageGroup (symID storageGroupID : String)
  | getVolumesIdentifiersInStorageGroup (symID storageGroupID : String)
  | renameVolume (symID volumeID newName : String)
  | addVolumesToStorageGroup (symID storageGroupID : String) (volumeIDs : List String)
  | removeVolumesFromStorageGroup (symID storageGroupID : String) (volumeIDs : List String)
  | addVolumesToProtectedStorageGroup (symID storageGroupID remoteSymID
      remoteStorageGroupID : String) (volumeIDs : List String)
  | removeVolumesFromProtectedStorageGroup (symID storageGroupID remoteSymID
      remoteStorageGroupID : String) (volumeIDs : List String)
  | executeReplicationActionOnSG (symID action storageGroupID rdfGrpNo : String)
      (force exemptConsistency bias : Bool)
deriving DecidableEq, Repr

/-- Their answers.  A pointer that may be nil next to a nil error is an option. -/
abbrev AddonsAnswer : AddonsCall → Type
  | .rep call => RepAnswer call
  | .getPowerMaxClient _ => Except String Unit
  | .getProtectedStorageGroup _ _ => Except PmaxError (Option RDFStorageGroup)
  | .getStorageGroupRDFInfo _ _ _ => Except PmaxError (Option SGRDFInfo)
  | .getRDFGroupByID _ _ => Except PmaxError RDFGroup
  | .getVersionDetails _ => Except PmaxError String
  | .getVolumeIDListInStorageGroup _ _ => Except PmaxError (List String)
  | .getVolumesIdentifiersInStorageGroup _ _ => Except PmaxError (List (String × String))
  | .renameVolume _ _ _ => Except PmaxError Unit
  | .addVolumesToStorageGroup _ _ _ => Except PmaxError Unit
  | .removeVolumesFromStorageGroup _ _ _ => Except PmaxError Unit
  | .addVolumesToProtectedStorageGroup _ _ _ _ _ => Except PmaxError Unit
  | .removeVolumesFromProtectedStorageGroup _ _ _ _ _ => Except PmaxError Unit
  | .executeReplicationActionOnSG _ _ _ _ _ _ _ => Except PmaxError Unit

abbrev AddonsProg := Prog AddonsCall AddonsAnswer

abbrev AddonsHistory := Prog.History AddonsCall AddonsAnswer

def replicating {α : Type} (p : RepProg α) : AddonsProg α := p.through AddonsCall.rep fun _ r => r

def getPowerMaxClient (symIDs : List String) : AddonsProg (Except String Unit) :=
  Prog.ask (AddonsCall.getPowerMaxClient symIDs)

def getProtectedStorageGroup (symID storageGroupID : String) :
    AddonsProg (Except PmaxError (Option RDFStorageGroup)) :=
  Prog.ask (AddonsCall.getProtectedStorageGroup symID storageGroupID)

def getStorageGroupRDFInfo (symID storageGroupID rdfGrpNo : String) :
    AddonsProg (Except PmaxError (Option SGRDFInfo)) :=
  Prog.ask (AddonsCall.getStorageGroupRDFInfo symID storageGroupID rdfGrpNo)

def getRDFGroupByID (symID rdfGrpNo : String) : AddonsProg (Except PmaxError RDFGroup) :=
  Prog.ask (AddonsCall.getRDFGroupByID symID rdfGrpNo)

def getVolumeIDListInStorageGroup (symID storageGroupID : String) :
    AddonsProg (Except PmaxError (List String)) :=
  Prog.ask (AddonsCall.getVolumeIDListInStorageGroup symID storageGroupID)

/-- `GetVolumesIdentifiersInStorageGroup`; the IDs and identifiers of the volumes. -/
def getVolumesIdentifiersInStorageGroup (symID storageGroupID : String) :
    AddonsProg (Except PmaxError (List (String × String))) :=
  Prog.ask (AddonsCall.getVolumesIdentifiersInStorageGroup symID storageGroupID)

def executeReplicationActionOnSG (symID action storageGroupID rdfGrpNo : String)
    (force exemptConsistency bias : Bool) : AddonsProg (Except PmaxError Unit) :=
  Prog.ask (AddonsCall.executeReplicationActionOnSG symID action storageGroupID rdfGrpNo force
    exemptConsistency bias)

def quoted (s : String) : String := "\"" ++ s ++ "\""

def listText (xs : List String) : String := "[" ++ join xs " " ++ "]"

def failedWith (code : Code) (desc : String) : Failure := .failed (.status ⟨code, desc⟩)

def csiAddonsParamRemoteSystem : String := "replication.storage.dell.com/remoteSystem"

def csiAddonsParamTargetArrayID : String := "replication.storage.dell.com/targetArray"

def csiAddonsParamReplicationMode : String := "replication.storage.dell.com/replicationMode"

def csiAddonsParamVolumeGroupPrefix : String := "replication.storage.dell.com/volumeGroupPrefix"

def csiAddonsParamRdfGroupNumber : String := "replication.storage.dell.com/rdfGroupNumber"

def csiAddonsParamNamespace : String := "replication.storage.dell.com/namespace"

def defaultVolumeGroupPrefix : String := "csi-addons-vg"

def metroErrorMessage : String := "SRDF Metro is not supported by CSI-Addons"

structure CsiAddonsReplicationParams where
  (remoteSymID replicationMode rdfGroupNumber volumeGroupPrefix ns : String)
deriving DecidableEq, Repr

/-- The remote array, from one of its two keys; empty if neither has a value. -/
def remoteSystem (params : GoMap String String) : String :=
  let canonical := (params.lookup csiAddonsParamRemoteSystem).getD ""
  if canonical ≠ "" then canonical else (params.lookup csiAddonsParamTargetArrayID).getD ""

def parseCSIAddonsReplicationParams (params : Option (GoMap String String)) :
    Except GrpcError CsiAddonsReplicationParams :=
  match params with
  | none => .error ⟨.invalidArgument, "request parameters are required"⟩
  | some params =>
    let given (key : String) : String := trimSpace ((params.lookup key).getD "")
    let mode := toUpper (given csiAddonsParamReplicationMode)
    if remoteSystem params = "" then
      .error ⟨.invalidArgument, "missing required parameter " ++ quoted csiAddonsParamRemoteSystem⟩
    else if mode = metro then .error ⟨.invalidArgument, metroErrorMessage⟩
    else if mode = "" then
      .error ⟨.invalidArgument, "missing required parameter " ++
        quoted csiAddonsParamReplicationMode⟩
    else if mode ≠ sync ∧ mode ≠ async then
      .error ⟨.invalidArgument, "unsupported replication mode " ++ quoted mode ++
        "; supported values: SYNC, ASYNC"⟩
    else
      let volumeGroupPrefix := given csiAddonsParamVolumeGroupPrefix
      .ok
        { remoteSymID := remoteSystem params
          replicationMode := mode
          rdfGroupNumber := given csiAddonsParamRdfGroupNumber
          volumeGroupPrefix :=
            if volumeGroupPrefix ≠ "" then volumeGroupPrefix else defaultVolumeGroupPrefix
          ns := given csiAddonsParamNamespace }

def csiAddonsManagedSGPrefix : String := csiRepSGPrefix ++ "addons-"

def isCSIAddonsManagedSG (sgName : String) : Bool := hasPrefix sgName csiAddonsManagedSGPrefix

def parseCSIAddonsSGName (sgName : String) : Option (String × String) :=
  if !isCSIAddonsManagedSG sgName then none
  else
    -- the components from the last one backwards
    match (split sgName '-').reverse with
    | mode :: rdfGrpNo :: _ => if rdfGrpNo = "" ∨ mode = "" then none else some (rdfGrpNo, mode)
    | _ => none

structure VolumeGroupID where
  (symID sgName rdfGrpNo : String)
deriving DecidableEq, Repr

def encodeVolumeGroupID (id : VolumeGroupID) : String :=
  id.symID ++ ":" ++ id.sgName ++ ":" ++ id.rdfGrpNo

def decodeVolumeGroupID (vgID : String) : Except GrpcError VolumeGroupID :=
  let malformed : Except GrpcError VolumeGroupID :=
    .error ⟨.invalidArgument, "invalid volume_group_id " ++ quoted vgID ++
      "; expected <symID>:<sgName>:<rdfGroupNo>"⟩
  if vgID = "" then .error ⟨.invalidArgument, "volume_group_id is required"⟩
  else
    match split vgID ':' with
    | [symID, sgName, rdfGrpNo] =>
      if symID = "" ∨ sgName = "" then malformed else .ok ⟨symID, sgName, rdfGrpNo⟩
    | _ => malformed

def extractDevIDFromVolumeID (volumeID : String) : Except Failure String :=
  if volumeID = "" then .error (failedWith .invalidArgument "volume ID is required")
  else
    match parseCsiID volumeID with
    | .ok id => .ok id.devID
    | .malformed text => .error (failedWith .invalidArgument
        ("failed to parse volume id " ++ quoted volumeID ++ ": " ++ text))
    | .panics => .error .panics

def consistent : String := "Consistent"

def synchronized : String := "Synchronized"

def failedOver : String := "Failed Over"

def splitState : String := "Split"

def partitioned : String := "Partitioned"

def syncInProgress : String := "SyncInProg"

structure SRDFPersonality where
  state : String
  (isR1 mixedPersonalities mixedStates : Bool)
deriving DecidableEq, Repr

def csiAddonsSRDFPersonality (psg : SGRDFInfo) : SRDFPersonality :=
  let personalities := (psg.volumeRdfTypes.filter (· ≠ "")).dedup
  let states := psg.states.filter (· ≠ "")
  let mixedPersonalities : Bool := personalities.length > 1
  { state := states.head?.getD ""
    isR1 := !mixedPersonalities && "R1" ∈ personalities
    mixedPersonalities := mixedPersonalities
    mixedStates := states.dedup.length > 1 }

def resolveEffectiveRDFGroup (rdfGrpNo : String) (psg : RDFStorageGroup) :
    Except GrpcError String :=
  if rdfGrpNo ≠ "" then .ok rdfGrpNo
  else
    match psg.rdfGroups with
    | [] => .error ⟨.failedPrecondition, "cannot determine RDF group: none encoded in the " ++
        "volume_group_id and none reported by the storage group"⟩
    | [rdfGroup] => .ok (toString rdfGroup)
    | rdfGroups => .error ⟨.failedPrecondition, "storage group spans multiple RDF groups (" ++
        listText (rdfGroups.map toString) ++
        "); the rdfGroupNumber must be encoded in the volume_group_id"⟩

def csiAddonsSGLockHandle (id : VolumeGroupID) : String := id.sgName ++ id.symID

def withSGLock {α : Type} (id : VolumeGroupID) (body : AddonsProg (Except Failure α)) :
    AddonsProg (Except Failure α) := do
  match ← Prog.ask (AddonsCall.rep (.requestLock (csiAddonsSGLockHandle id))) with
  | .error err => return .error (internal ("failed to acquire lock: " ++ err))
  | .ok lockNum =>
    let result ← body
    Prog.ask (AddonsCall.rep (.releaseLock (csiAddonsSGLockHandle id) lockNum))
    return result

/-- A part that needs a client for some arrays; `rpc` is the name of the request in the error. -/
def withClient {α : Type} (rpc : String) (symIDs : List String)
    (body : AddonsProg (Except Failure α)) : AddonsProg (Except Failure α) := do
  match ← getPowerMaxClient symIDs with
  | .error err => return .error (internal (rpc ++ "failed to get PowerMax client: " ++ err))
  | .ok () => body

/-- The part of `protectStorageGroupCSIAddons` for a storage group that is not protected. -/
def createReplicaCSIAddons (id : VolumeGroupID) (remoteSymID rdfMode : String) :
    AddonsProg (Except Failure Unit) := do
  match ← getRDFGroupByID id.symID id.rdfGrpNo with
  | .error err => return .error (internal ("could not get RDF group (" ++ id.rdfGrpNo ++
      ") information on symID (" ++ id.symID ++ "): " ++ err.text))
  | .ok rdfg =>
    if rdfg.async ∧ rdfg.numDevices > 0 then
      return .error (failedWith .failedPrecondition ("RDF group (" ++ id.rdfGrpNo ++
        ") cannot be used for ASYNC, as it already has volume pairing"))
    else
      match ← replicating (verifyAndDeleteRemoteStorageGroup remoteSymID id.sgName) with
      | some err => return .error (internal ("could not verify remote storage group (" ++
          id.sgName ++ "): " ++ err))
      | none =>
        match ← Prog.ask (AddonsCall.rep (.createSGReplica id.symID remoteSymID rdfMode
            id.rdfGrpNo id.sgName id.sgName "" false)) with
        | .error err => return .error (internal (
            "could not create storage group replica for (" ++ id.sgName ++ "): " ++ err.text))
        | .ok () => return .ok ()

def protectStorageGroupCSIAddons (id : VolumeGroupID) (remoteSymID rdfMode : String) :
    AddonsProg (Except Failure Unit) := do
  match ← getProtectedStorageGroup id.symID id.sgName with
  | .ok (some sg) =>
    if sg.rdf then return .ok () else createReplicaCSIAddons id remoteSymID rdfMode
  | _ => createReplicaCSIAddons id remoteSymID rdfMode

structure PendingRename where
  (remoteDevID identifier : String)
deriving DecidableEq, Repr

def useBulkGet (localSymID : String) : AddonsProg Bool := do
  match ← Prog.ask (AddonsCall.getVersionDetails localSymID) with
  | .error _ => return false
  | .ok version =>
    match Numeral.parseInt 10 version with
    | (apiVersion, none) => return decide (apiVersion ≥ apiVersion101)
    | (_, some _) => return false

def localVolumesPerVolume (localSymID sgName : String) :
    AddonsProg (Except Failure (List (String × Option String) × Bool)) := do
  match ← getVolumeIDListInStorageGroup localSymID sgName with
  | .error err => return .error (internal (
      "syncRemoteVolumeIdentifiers: failed to list volumes in SG " ++ quoted sgName ++ " on " ++
        quoted localSymID ++ ": " ++ err.text))
  | .ok devIDs => return .ok (devIDs.map fun devID => (devID, none), false)

def localVolumes (localSymID sgName : String) (bulk : Bool) :
    AddonsProg (Except Failure (List (String × Option String) × Bool)) := do
  if bulk then
    match ← getVolumesIdentifiersInStorageGroup localSymID sgName with
    | .error _ => localVolumesPerVolume localSymID sgName
    | .ok volumes =>
      -- of two entries with one ID the later identifier counts
      let identifier (devID : String) : Option String :=
        (volumes.reverse.find? fun vol => vol.1 = devID).map (·.2)
      return .ok (volumes.map fun vol => (vol.1, identifier vol.1), true)
  else localVolumesPerVolume localSymID sgName

def remoteIdentifiers (remoteSymID sgName : String) (bulk : Bool) :
    AddonsProg (List (String × String)) := do
  if bulk then
    match ← getVolumesIdentifiersInStorageGroup remoteSymID sgName with
    | .error _ => return []
    | .ok volumes => return volumes.reverse
  else return []

def identifierOf (symID devID : String) (known : Option String) :
    AddonsProg (Except PmaxError String) := do
  match known with
  | some identifier => return .ok identifier
  | none =>
    match ← Prog.ask (AddonsCall.rep (.getVolumeByID symID devID)) with
    | .error err => return .error err
    | .ok vol => return .ok vol.volumeIdentifier

/-- What is to be done for one local volume: nothing, a rename, or an error is noted. -/
def gatherRename (id : VolumeGroupID) (remoteSymID : String) (remote : List (String × String))
    (localVol : String × Option String) : AddonsProg (Except PmaxError (Option PendingRename)) := do
  match ← identifierOf id.symID localVol.1 localVol.2 with
  | .error err => return .error err
  | .ok localIdentifier =>
    if localIdentifier = "" then return .ok none
    else
      match ← Prog.ask (AddonsCall.rep (.getRDFDevicePairInfo id.symID id.rdfGrpNo
          localVol.1)) with
      | .error err => return .error err
      | .ok remoteDevID =>
        let known := (remote.find? fun vol => vol.1 = remoteDevID).map (·.2)
        match ← identifierOf remoteSymID remoteDevID known with
        | .error err => return .error err
        | .ok remoteIdentifier =>
          if remoteIdentifier = localIdentifier then return .ok none
          else return .ok (some ⟨remoteDevID, localIdentifier⟩)

def gatherRenames (id : VolumeGroupID) (remoteSymID : String) (remote : List (String × String)) :
    List (String × Option String) → AddonsProg (List PendingRename × Option PmaxError)
  | [] => return ([], none)
  | localVol :: rest => do
    let gathered ← gatherRename id remoteSymID remote localVol
    let (pending, gatherErr) ← gatherRenames id remoteSymID remote rest
    match gathered with
    | .error err => return (pending, gatherErr.or (some err))
    | .ok rename => return (rename.toList ++ pending, gatherErr)

def perVolumeRename (symID : String) : List PendingRename → AddonsProg (List String)
  | [] => return []
  | rename :: rest => do
    let renamed ← Prog.ask (AddonsCall.renameVolume symID rename.remoteDevID rename.identifier)
    let errs ← perVolumeRename symID rest
    match renamed with
    | .error err => return err.text :: errs
    | .ok () => return errs

def syncRemoteVolumeIdentifiers (id : VolumeGroupID) (remoteSymID : String) :
    AddonsProg (Except Failure Unit) := do
  let bulk ← useBulkGet id.symID
  match ← localVolumes id.symID id.sgName bulk with
  | .error failure => return .error failure
  | .ok ([], _) => return .ok ()
  | .ok (localVols, bulk) =>
    let remote ← remoteIdentifiers remoteSymID id.sgName bulk
    let (pending, gatherErr) ← gatherRenames id remoteSymID remote localVols
    if pending = [] then
      match gatherErr with
      | some err => return .error (internal (
          "syncRemoteVolumeIdentifiers: errors during gather phase: " ++ err.text))
      | none => return .ok ()
    else
      let renameErrs ← perVolumeRename remoteSymID pending
      match if renameErrs = [] then gatherErr.map (·.text) else some (join renameErrs "\n") with
      | some err => return .error (internal (
          "syncRemoteVolumeIdentifiers: one or more remote volumes could not be renamed: " ++ err))
      | none => return .ok ()

end PowerMaxCsi.Addons
