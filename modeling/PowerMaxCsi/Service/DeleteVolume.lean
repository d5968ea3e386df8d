import PowerMaxCsi.Journal.Operation
import PowerMaxCsi.Service.DeviceRanges
import PowerMaxCsi.Service.VolumeID

/-!
# Deleting a volume

`DeleteVolume`, `deleteVolume`, `deleteFileSystem` and `MarkVolumeForDeletion` of
`service/controller.go`, and `deletionWorker.QueueDeviceForDeletion` with the part of
`deletionRequestHandler` that answers it.  Log lines and the request ID are left out.
-/

namespace PowerMaxCsi.Service

open Strings

structure ServiceConfig where
  symmetrixIDs : List String
  metroSiteFailureHandling : Bool
deriving DecidableEq, Repr

inductive CtrlCall where
  | pmax (c : PmaxCall)
  | getPowerMaxClient (symID remoteSymID : String)
  | checkAndUpdatePendingState (id : String)
  | requireProbe
  /-- Whether the channel of deletion requests takes another one. -/
  | deletionRequestChanHasRoom
  | deletionQueueChan (symID devID volumeIdentifier : String)
  /-- `deferOperation`, with the fields that the caller sets. -/
  | deferOperation (operationType : Journal.OperationType) (volumeID arrayID rdfGroupNo : String)
deriving DecidableEq, Repr

abbrev CtrlAnswer : CtrlCall → Type
  | .pmax c => PmaxAnswer c
  | .getPowerMaxClient _ _ => Except String Unit
  | .checkAndUpdatePendingState _ => Except GrpcError Unit
  | .requireProbe => Except GrpcError Unit
  | .deletionRequestChanHasRoom => Bool
  | .deletionQueueChan _ _ _ => Unit
  | .deferOperation _ _ _ _ => Except String String

abbrev CtrlProg := Prog CtrlCall CtrlAnswer

namespace Ctrl

def getVolumeByID (symID volumeID : String) : CtrlProg (Except PmaxError Volume) :=
  Prog.ask (CtrlCall.pmax (.getVolumeByID symID volumeID))

def getStorageGroup (symID sgID : String) : CtrlProg (Except PmaxError (Option StorageGroup)) :=
  Prog.ask (CtrlCall.pmax (.getStorageGroup symID sgID))

def renameVolume (symID volumeID newName : String) : CtrlProg (Except PmaxError (Option Volume)) :=
  Prog.ask (CtrlCall.pmax (.renameVolume symID volumeID newName))

def getFileSystemByID (symID fsID : String) : CtrlProg (Except PmaxError String) :=
  Prog.ask (CtrlCall.pmax (.getFileSystemByID symID fsID))

def getNFSExportList (symID fsID : String) : CtrlProg (Option (List String)) :=
  Prog.ask (CtrlCall.pmax (.getNFSExportList symID fsID))

def deleteFileSystem (symID fsID : String) : CtrlProg (Except PmaxError Unit) :=
  Prog.ask (CtrlCall.pmax (.deleteFileSystem symID fsID))

def getPowerMaxClient (symID remoteSymID : String) : CtrlProg (Except String Unit) :=
  Prog.ask (CtrlCall.getPowerMaxClient symID remoteSymID)

def checkAndUpdatePendingState (id : String) : CtrlProg (Except GrpcError Unit) :=
  Prog.ask (CtrlCall.checkAndUpdatePendingState id)

def requireProbe : CtrlProg (Except GrpcError Unit) := Prog.ask CtrlCall.requireProbe

def deletionRequestChanHasRoom : CtrlProg Bool := Prog.ask CtrlCall.deletionRequestChanHasRoom

def deletionQueueChan (symID devID volumeIdentifier : String) : CtrlProg Unit :=
  Prog.ask (CtrlCall.deletionQueueChan symID devID volumeIdentifier)

def deferOperation (operationType : Journal.OperationType) (volumeID arrayID rdfGroupNo : String) :
    CtrlProg (Except String String) :=
  Prog.ask (CtrlCall.deferOperation operationType volumeID arrayID rdfGroupNo)

end Ctrl

def cannotBeFound : String := "Could not find"

def delSrcTag : String := "DS"

def connectivityErrorMarkers : List String :=
  ["connection refused", "no route to host", "i/o timeout", "connection reset", "no such host",
    "network is unreachable", "dial tcp"]

/-- `timeout` says what the type of the error tells. -/
def isConnectivityError (text : String) (timeout : Bool) : Bool :=
  timeout || connectivityErrorMarkers.any fun marker => contains (toLower text) marker

/-- With the answer of `deletionRequestHandler`; `none` for a nil error. -/
def queueDeviceForDeletion (cfg : ServiceConfig) (devID volumeIdentifier symID : String) :
    CtrlProg (Option String) := do
  if ← Ctrl.deletionRequestChanHasRoom then
    let unmanaged :=
      "unable to process device deletion request as sym id is not managed by deletion worker"
    if symID ∉ cfg.symmetrixIDs then return some unmanaged
    else
      match ← Ctrl.getPowerMaxClient symID "" with
      | .error _ => return some unmanaged
      | .ok () =>
        match ← Ctrl.getVolumeByID symID devID with
        | .error err => return some err.text
        | .ok _ =>
          match deletionRequestError devID volumeIdentifier symID with
          | some err => return some err
          | none =>
            match getDeviceID devID with
            | .error err => return some (deviceIDErrorText devID err)
            | .ok _ =>
              Ctrl.deletionQueueChan symID devID volumeIdentifier
              return none
  else return some "deletion request queue full. retry after sometime"

def markVolumeForDeletion (cfg : ServiceConfig) (symID : String) (vol : Volume) :
    CtrlProg (Option String) := do
  let oldVolName := vol.volumeIdentifier
  match ← Ctrl.renameVolume symID vol.volumeID (deletionName oldVolName) with
  | .ok (some vol) => queueDeviceForDeletion cfg vol.volumeID vol.volumeIdentifier symID
  | _ => return some ("MarkVolumeForDeletion: Failed to rename volume " ++ oldVolName)

/-- The loop over the storage groups of a volume: none of them may have a masking
view. -/
def checkMaskingViews (symID : String) : List String → CtrlProg (Option GrpcError)
  | [] => return none
  | sgid :: rest => do
    match ← Ctrl.getStorageGroup symID sgid with
    | .ok (some sg) =>
      if sg.numOfMaskingViews > 0 then return some ⟨.failedPrecondition, "Volume is in use"⟩
      else checkMaskingViews symID rest
    | _ => return some ⟨.internal, "Unable to find storage group: " ++ sgid ++ " in " ++ symID⟩

def sourceName (volName : String) : String :=
  let kept := maxVolIdentifierLength - len delSrcTag
  (if len volName > kept then cut volName kept else volName) ++ "-" ++ delSrcTag

def renamedForDeletion (volName volumeIdentifier : String) : Bool :=
  deletionMarkedVolumeMatches volName volumeIdentifier ||
    decide (volumeIdentifier = deletionName volName) ||
    hasSuffix volumeIdentifier ("-" ++ deletionName volName)

def markingError (err : String) : GrpcError :=
  ⟨.internal, "Failed marking volume for deletion with error (" ++ err ++ ")"⟩

def deleteVolume (cfg : ServiceConfig) (symID volName devID : String) :
    CtrlProg (Option GrpcError) := do
  match ← Ctrl.getVolumeByID symID devID with
  | .error err =>
    if contains err.text cannotBeFound then return none
    else return some ⟨.internal, "Could not retrieve volume: (" ++ err.text ++ ")"⟩
  | .ok vol =>
    if volumeIdentifiersMatch volName vol.volumeIdentifier then
      match ← checkMaskingViews symID vol.storageGroupIDList with
      | some err => return some err
      | none =>
        if vol.snapSource then
          match ← Ctrl.renameVolume symID devID (sourceName volName) with
          | .ok (some _) => return none
          | _ => return some ⟨.internal, "Failed to rename volume"⟩
        else return (← markVolumeForDeletion cfg symID vol).map markingError
    else if renamedForDeletion volName vol.volumeIdentifier then
      return (← queueDeviceForDeletion cfg vol.volumeID vol.volumeIdentifier symID).map markingError
    else return none

inductive DeleteResponse where
  | success
  | failed (err : GrpcError)
  | panics
deriving DecidableEq, Repr

def deleteFileSystem (symID fsName fsID : String) : CtrlProg DeleteResponse := do
  match ← Ctrl.getFileSystemByID symID fsID with
  | .error err =>
    if contains err.text cannotBeFound then return .success
    else return .failed ⟨.internal, "Could not retrieve fileSystem: (" ++ err.text ++ ")"⟩
  | .ok name =>
    if name ≠ fsName then return .success
    else
      match ← Ctrl.getNFSExportList symID fsID with
      | none => return .panics
      | some (nfsExport :: _) =>
        return .failed ⟨.internal, "file system has NFS export ID:" ++ nfsExport ++ "/name:" ++
          nfsExport ++ " on symID: " ++ symID⟩
      | some [] =>
        match ← Ctrl.deleteFileSystem symID fsID with
        | .error err =>
          return .failed ⟨.internal,
            "Failed deletion of File System with error (" ++ err.text ++ ")"⟩
        | .ok () => return .success

def deferCleanup (id remoteSymID : String) : CtrlProg DeleteResponse := do
  match ← Ctrl.deferOperation .deviceCleanup id remoteSymID "" with
  | .error err => return .failed ⟨.internal, "Failed to defer device cleanup: " ++ err⟩
  | .ok _ => return .success

def deleteRemote (cfg : ServiceConfig) (id : String) (csiID : CsiID) : CtrlProg DeleteResponse := do
  match ← Ctrl.renameVolume csiID.remoteSymID csiID.remoteVolID csiID.volName with
  | .error err =>
    if contains err.text cannotBeFound then return .success
    else if cfg.metroSiteFailureHandling && isConnectivityError err.text err.timeout then
      deferCleanup id csiID.remoteSymID
    else return .failed ⟨.invalidArgument,
      "RenameRemoteVolume: Failed to rename volume " ++ csiID.remoteVolID ++ " " ++ err.text⟩
  | .ok _ =>
    match ← deleteVolume cfg csiID.remoteSymID csiID.volName csiID.remoteVolID with
    | some err =>
      if cfg.metroSiteFailureHandling && isConnectivityError err.text false then
        deferCleanup id csiID.remoteSymID
      else return .failed err
    | none => return .success

def deleteLegs (cfg : ServiceConfig) (id : String) (csiID : CsiID) : CtrlProg DeleteResponse := do
  match ← Ctrl.getVolumeByID csiID.arrayID csiID.devID with
  | .error _ => deleteFileSystem csiID.arrayID csiID.volName csiID.devID
  | .ok _ =>
    match ← deleteVolume cfg csiID.arrayID csiID.volName csiID.devID with
    | some err => return .failed err
    | none =>
      if csiID.remoteSymID ≠ "" then deleteRemote cfg id csiID
      else return .success

def deleteVolumeRequest (cfg : ServiceConfig) (id : String) : CtrlProg DeleteResponse := do
  match parseCsiID id with
  | .panics => return .panics
  | .malformed _ => return .success
  | .ok csiID =>
    match ← Ctrl.getPowerMaxClient csiID.arrayID csiID.remoteSymID with
    | .error _ => return .success
    | .ok () =>
      match ← Ctrl.checkAndUpdatePendingState id with
      | .error err => return .failed err
      | .ok () =>
        match ← Ctrl.requireProbe with
        | .error err => return .failed err
        | .ok () => deleteLegs cfg id csiID

end PowerMaxCsi.Service
