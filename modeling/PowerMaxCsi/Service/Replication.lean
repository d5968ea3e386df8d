import PowerMaxCsi.Metro.Recovery
import PowerMaxCsi.Service.DeleteVolume

/-!
# Replicated storage groups

The helpers of `service/replication.go` and `service/controller.go` for SRDF/Metro volumes.  The
capacity check, the license check, the links to a content source and the renaming of the remote
volume are calls.  `reqID` is left out.
-/

namespace PowerMaxCsi.Service

open Strings

structure SizedVolume extends Volume where
  capacityCYL : Nat
deriving DecidableEq, Repr

structure SGRDFInfo where
  (states volumeRdfTypes : List String)
deriving DecidableEq, Repr

structure RDFGroupInfo where
  async : Bool
  numDevices : Nat
deriving DecidableEq, Repr

structure HostIOLimits where
  (hostIOLimitMBSec hostIOLimitIOSec dynamicDistribution : String)
deriving DecidableEq, Repr

structure QueueStatus where
  (atLimit atWarning : Bool)
deriving DecidableEq, Repr

/-- A deferred `OpMetroPairing`, with the fields that the caller sets. -/
structure MetroPairingOp where
  (volumeID arrayID rdfGroupNo remoteRDFGroupNo storageGroupName remoteStorageGroupName : String)
  (remoteSRP remoteServiceLevel : String)
  requiredCylinders : Int
  (volumeName ns replicationMode localSymID driverName instanceUID : String)
deriving DecidableEq, Repr

inductive RepCall where
  | getPowerMaxClient (symID remoteSymID : String)
  | requestLock (handle : String)
  | releaseLock (handle : String) (lockNum : Nat)
  | getStorageGroup (symID storageGroupID : String)
  | createStorageGroup (symID storageGroupID srpID serviceLevel : String) (thick : Bool)
      (limits : Option HostIOLimits)
  | deleteStorageGroup (symID storageGroupID : String)
  /-- `UpdateStorageGroupS` with a payload that sets the SRP. -/
  | updateStorageGroupS (symID storageGroupID srpID : String)
  | getStorageGroupIDList (symID : String)
  | getVolumeIDList (symID volumeIdentifier : String)
  | getVolumeByID (symID volumeID : String)
  | createVolumeInStorageGroupS (symID storageGroupID volumeIdentifier : String) (cylinders : Int)
  | deleteVolume (symID volumeID : String)
  | addVolumesToStorageGroupS (symID storageGroupID volumeID : String)
  | removeVolumesFromStorageGroup (symID storageGroupID volumeID : String)
  | addVolumesToProtectedStorageGroup (symID storageGroupID remoteSymID remoteStorageGroupID
      volumeID : String)
  | getProtectedStorageGroup (symID storageGroupID : String)
  | getRDFGroupByID (symID rdfGrpNo : String)
  | getRDFDevicePairInfo (symID rdfGrpNo volumeID : String)
  | getStorageGroupRDFInfo (symID storageGroupID rdfGrpNo : String)
  | createSGReplica (symID remoteSymID rdfMode rdfGrpNo storageGroupID remoteStorageGroupID
      remoteServiceLevel : String) (bias : Bool)
  | executeReplicationActionOnSG (symID action storageGroupID rdfGrpNo : String) (bias : Bool)
  /-- `emitMetroEvent`, with the reason of the event. -/
  | emitMetroEvent (reason : String)
  | getQueueStatus
  | createDeferredOperation (op : MetroPairingOp)
  | logMetroStateCheck (localSymID remoteSymID localRDFGroupNo remoteRDFGroupNo : String)
  | getState (symID : String)
  | validateVolSize (symID storagePoolID : String)
  | isSnapshotLicensed (symID : String)
  | isV4OrAbove (symID : String)
  | linkSRDFVolToSnapshot (symID srcVolID snapID localProtectionGroupID rdfGrpNo volumeID : String)
  | linkSRDFCloneVolume (symID srcVolID volumeID localProtectionGroupID rdfGrpNo : String)
  | linkSRDFVolToVolume (symID srcVolID volumeID localProtectionGroupID rdfGrpNo : String)
  /-- `syncRemoteVolumeIdentifierWithRetry`, or `…FromVolume` for a volume that was read. -/
  | syncRemoteVolumeIdentifier (remoteSymID remoteVolumeID localIdentifier : String)
deriving DecidableEq, Repr

/-- Their answers.  Of an RDF pair the name of the remote volume is read. -/
abbrev RepAnswer : RepCall → Type
  | .getPowerMaxClient _ _ => Except String Unit
  | .requestLock _ => Except String Nat
  | .releaseLock _ _ => Unit
  | .getStorageGroup _ _ => Except PmaxError (Option StorageGroup)
  | .createStorageGroup _ _ _ _ _ _ => Except PmaxError Unit
  | .deleteStorageGroup _ _ => Except PmaxError Unit
  | .updateStorageGroupS _ _ _ => Except PmaxError Unit
  | .getStorageGroupIDList _ => Except PmaxError (List String)
  | .getVolumeIDList _ _ => Except PmaxError (List String)
  | .getVolumeByID _ _ => Except PmaxError SizedVolume
  | .createVolumeInStorageGroupS _ _ _ _ => Except PmaxError SizedVolume
  | .deleteVolume _ _ => Except PmaxError Unit
  | .addVolumesToStorageGroupS _ _ _ => Except PmaxError Unit
  | .removeVolumesFromStorageGroup _ _ _ => Except PmaxError Unit
  | .addVolumesToProtectedStorageGroup _ _ _ _ _ => Except PmaxError Unit
  | .getProtectedStorageGroup _ _ => Except PmaxError Bool
  | .getRDFGroupByID _ _ => Except PmaxError RDFGroupInfo
  | .getRDFDevicePairInfo _ _ _ => Except PmaxError String
  | .getStorageGroupRDFInfo _ _ _ => Except PmaxError SGRDFInfo
  | .createSGReplica _ _ _ _ _ _ _ _ => Except PmaxError Unit
  | .executeReplicationActionOnSG _ _ _ _ _ => Except PmaxError Unit
  | .emitMetroEvent _ => Unit
  | .getQueueStatus => QueueStatus
  | .createDeferredOperation _ => Except String String
  | .logMetroStateCheck _ _ _ _ => Option GrpcError
  | .getState _ => Metro.MetroSiteState
  | .validateVolSize _ _ => Except GrpcError Nat
  | .isSnapshotLicensed _ => Option GrpcError
  | .isV4OrAbove _ => Bool
  | .linkSRDFVolToSnapshot _ _ _ _ _ _ => Option GrpcError
  | .linkSRDFCloneVolume _ _ _ _ _ => Option String
  | .linkSRDFVolToVolume _ _ _ _ _ => Option String
  | .syncRemoteVolumeIdentifier _ _ _ => Option GrpcError

abbrev RepProg := Prog RepCall RepAnswer

abbrev RepHistory := Prog.History RepCall RepAnswer

inductive DriverError where
  | status (err : GrpcError)
  | plain (text : String)
deriving DecidableEq, Repr

def DriverError.text : DriverError → String
  | .status err => err.text
  | .plain text => text

inductive Failure where
  | failed (err : DriverError)
  /-- An index out of range, or a nil pointer. -/
  | panics
deriving DecidableEq, Repr

def internal (desc : String) : Failure := .failed (.status ⟨.internal, desc⟩)

def invalidArgument (desc : String) : Failure := .failed (.status ⟨.invalidArgument, desc⟩)

def metro : String := "METRO"

def async : String := "ASYNC"

def sync : String := "SYNC"

def csiRepSGPrefix : String := "csi-rep-sg-"

def errorNotFound : String := "cannot be found"

def activeActive : String := "ActiveActive"

def activeBias : String := "ActiveBias"

def suspended : String := "Suspended"

def establishAction : String := "Establish"

def buildProtectionGroupID (ns localRdfGrpNo repMode : String) : String :=
  if repMode = metro then csiRepSGPrefix ++ localRdfGrpNo ++ "-" ++ repMode
  else csiRepSGPrefix ++ ns ++ "-" ++ localRdfGrpNo ++ "-" ++ repMode

/-- `GetRDFInfoFromSGID`: the namespace, the number of the RDF group and the mode. -/
def getRDFInfoFromSGID (storageGroupID : String) : Except String (String × String × String) :=
  let sgComponents := split storageGroupID '-'
  let compLength := sgComponents.length
  if compLength < 5 ∨ !contains storageGroupID csiRepSGPrefix then
    .error ("The protected SGID " ++ storageGroupID ++ " is not formed correctly")
  else
    let ns :=
      if compLength > 5 then join ((sgComponents.take (compLength - 2)).drop 3) "-" else ""
    .ok (ns, sgComponents.getD (compLength - 2) "", sgComponents.getD (compLength - 1) "")

/-- `GetProtectedStorageGroupID`; empty if there is none. -/
def getProtectedStorageGroupID (storageGroupIDList : List String) (filter : String) : String :=
  (storageGroupIDList.find? fun sg => contains sg "csi-" && contains sg filter).getD ""

def withLock {α : Type} (handle : String) (refused : String → Failure)
    (body : RepProg (Except Failure α)) : RepProg (Except Failure α) := do
  match ← Prog.ask (RepCall.requestLock handle) with
  | .error err => return .error (refused err)
  | .ok lockNum =>
    let result ← body
    Prog.ask (RepCall.releaseLock handle lockNum)
    return result

/-- The check of `verifyProtectionGroupID` for one storage group; `none` if it passes. -/
def protectionGroupConflict (localRdfGrpNo repMode value : String) : Option String :=
  let used (mode : String) : Bool := contains value ("-" ++ localRdfGrpNo ++ "-" ++ mode)
  if repMode = async ∧ (used async ∨ used sync ∨ used metro) then
    some ("RDF group (" ++ localRdfGrpNo ++ ") is already a part of ReplicationGroup (" ++ value ++
      ") in Sync/Async/Metro mode")
  else if repMode = sync ∧ (used async ∨ used metro) then
    some ("RDF group (" ++ localRdfGrpNo ++
      ") is already part of another Async/Metro mode ReplicationGroup (" ++ value ++ ")")
  else if repMode = metro ∧ (used async ∨ used sync) then
    some ("RDF group (" ++ localRdfGrpNo ++
      ") is already part of another Async/Sync mode ReplicationGroup (" ++ value ++ ")")
  else none

def verifyProtectionGroupID (symID localRdfGrpNo repMode : String) : RepProg (Option String) := do
  match ← Prog.ask (RepCall.getStorageGroupIDList symID) with
  | .error err => return some err.text
  | .ok ids => return ids.findSome? (protectionGroupConflict localRdfGrpNo repMode)

/-- Whether the group is a replicated one; a group that was created here is not. -/
def getOrCreateProtectedStorageGroup (symID localProtectionGroupID localRDFGrpNo repMode : String) :
    RepProg (Except Failure Bool) :=
  withLock (localProtectionGroupID ++ symID) (fun err => .failed (.plain err)) do
    match ← Prog.ask (RepCall.getProtectedStorageGroup symID localProtectionGroupID) with
    | .ok rdf => return .ok rdf
    | .error err =>
      if !(contains err.text cannotBeFound || contains err.text errorNotFound) then
        return .error (internal ("GetProtectedStorageGroup failed for (" ++
          localProtectionGroupID ++ "): (" ++ err.text ++ ")"))
      else
        match ← verifyProtectionGroupID symID localRDFGrpNo repMode with
        | some err => return .error (internal ("VerifyProtectionGroupID failed:(" ++ err ++ ")"))
        | none =>
          match ← Prog.ask (RepCall.createStorageGroup symID localProtectionGroupID "None" ""
              false none) with
          | .error err =>
            return .error (internal ("Error creating protected storage group (" ++
              localProtectionGroupID ++ "): (" ++ err.text ++ ")"))
          | .ok () => return .ok false

def verifyProtectedGroupDirection (symID localProtectionGroupID localRdfGrpNo : String) :
    RepProg (Except Failure Unit) := do
  match ← Prog.ask (RepCall.getStorageGroupRDFInfo symID localProtectionGroupID localRdfGrpNo) with
  | .error err => return .error (internal ("GetStorageGroupRDFInfo failed:(" ++ err.text ++ ")"))
  | .ok info =>
    match info.volumeRdfTypes with
    | [] => return .error .panics
    | rdfType :: _ =>
      if rdfType = "R1" then return .ok ()
      else return .error (internal ("VerifyProtectedGroupDirection failed:(" ++
        localProtectionGroupID ++ ") does not contains R1 volumes"))

def addVolumesToProtectedStorageGroup (symID localProtectionGroupID remoteSymID
    remoteProtectionGroupID volID : String) : RepProg (Except Failure Unit) :=
  withLock (localProtectionGroupID ++ symID)
      (fun err => internal ("failed to acquire lock: " ++ err)) do
    match ← Prog.ask (RepCall.addVolumesToProtectedStorageGroup symID localProtectionGroupID
        remoteSymID remoteProtectionGroupID volID) with
    | .error err => return .error (internal ("Could not add volume in protected SG: " ++ volID ++
        ": " ++ err.text))
    | .ok () => return .ok ()

def verifyAndDeleteRemoteStorageGroup (remoteSymID remoteStorageGroupName : String) :
    RepProg (Option String) := do
  match ← Prog.ask (RepCall.getStorageGroup remoteSymID remoteStorageGroupName) with
  | .error _ => return none
  | .ok none => return none
  | .ok (some sg) =>
    if sg.numOfVolumes > 0 then
      return some ("Remote Storage Group (" ++ remoteStorageGroupName ++
        ") has devices, can not protect SG")
    else
      match ← Prog.ask (RepCall.deleteStorageGroup remoteSymID remoteStorageGroupName) with
      | .error err => return some ("Delete Remote Storage Group (" ++ remoteStorageGroupName ++
          ") failed (" ++ err.text ++ ")")
      | .ok () => return none

def createReplica (symID remoteSymID storageGroupName remoteStorageGroupName remoteServiceLevel
    rdfGrpNo rdfMode : String) (bias : Bool) : RepProg (Except Failure Unit) := do
  match ← Prog.ask (RepCall.getRDFGroupByID symID rdfGrpNo) with
  | .error err => return .error (internal ("Could not get rdf group (" ++ rdfGrpNo ++
      ") information on symID (" ++ symID ++ "). Error (" ++ err.text ++ ")"))
  | .ok rdfg =>
    if rdfg.async ∧ rdfg.numDevices > 0 then
      return .error (internal ("RDF group (" ++ rdfGrpNo ++
        ") cannot be used for ASYNC, as it already has volume pairing"))
    else
      match ← verifyAndDeleteRemoteStorageGroup remoteSymID remoteStorageGroupName with
      | some err => return .error (internal ("Could not verify remote storage group (" ++
          storageGroupName ++ ") - Error (" ++ err ++ ")"))
      | none =>
        match ← Prog.ask (RepCall.createSGReplica symID remoteSymID rdfMode rdfGrpNo
            storageGroupName remoteStorageGroupName remoteServiceLevel bias) with
        | .error err => return .error (internal (
            "Could not create storage group replica for (" ++ storageGroupName ++
              ") - Error (" ++ err.text ++ ")"))
        | .ok () => return .ok ()

def protectStorageGroup (symID remoteSymID storageGroupName remoteStorageGroupName
    remoteServiceLevel rdfGrpNo rdfMode : String) (bias : Bool) : RepProg (Except Failure Unit) :=
  withLock (storageGroupName ++ symID)
      (fun err => internal ("failed to acquire lock: " ++ err)) do
    match ← Prog.ask (RepCall.getProtectedStorageGroup symID storageGroupName) with
    | .error err => return .error (internal (
        "ProtectStorageGroup: GetProtectedStorageGroup failed for (" ++ symID ++ ") SG: (" ++
          storageGroupName ++ "). Error (" ++ err.text ++ ")"))
    | .ok true => return .ok ()
    | .ok false =>
      createReplica symID remoteSymID storageGroupName remoteStorageGroupName remoteServiceLevel
        rdfGrpNo rdfMode bias

/-- `validateRDFState` for `Establish`: whether the group is in the desired state. -/
def validateRDFState (symID sgName rdfGrpNo : String) : RepProg (Except Failure Bool) := do
  match ← Prog.ask (RepCall.getStorageGroupRDFInfo symID sgName rdfGrpNo) with
  | .error err => return .error (internal ("Failed to fetch replication state for SG (" ++ sgName ++
      ") - Error (" ++ err.text ++ ")"))
  | .ok psg =>
    match psg.states with
    | [] => return .error .panics
    | state :: _ =>
      return .ok (state = "Consistent" ∨ state = "Synchronized" ∨ state = activeBias)

def establish (symID sgName rdfGrpNo : String) (bias : Bool) : RepProg (Except Failure Unit) := do
  match ← validateRDFState symID sgName rdfGrpNo with
  | .error failure => return .error failure
  | .ok true => return .ok ()
  | .ok false =>
    match ← Prog.ask (RepCall.executeReplicationActionOnSG symID establishAction sgName rdfGrpNo
        bias) with
    | .error err => return .error (internal ("Establish: Failed to modify SG (" ++ sgName ++
        ") - Error (" ++ err.text ++ ")"))
    | .ok () => return .ok ()

end PowerMaxCsi.Service
