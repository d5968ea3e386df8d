import PowerMaxCsi.Lib.Strings
import PowerMaxCsi.Lib.Threads
import PowerMaxCsi.Service.Pmax

/-!
# The storage group service

`service/storage_group_svc.go`.  `processing` stands for the log line with which
`removeVolumesFromSGMV` announces its batch.  A nil pointer that is dereferenced is a call without
an answer.  Other log lines and times are left out.
-/

namespace PowerMaxCsi.Service

open Strings

inductive AccessMode where
  | unknown
  | singleNodeWriter
  | singleNodeReaderOnly
  | multiNodeReaderOnly
  | multiNodeSingleWriter
  | multiNodeMultiWriter
  | singleNodeSingleWriter
  | singleNodeMultiWriter
deriving DecidableEq, Repr

/-- `addVolumeToSGMVRequest`; the number stands for the response channel. -/
structure AddRequest where
  (tgtStorageGroupID tgtMaskingViewID hostID reqID symID clientSymID devID : String)
  accessMode : AccessMode
  respChan : Nat
deriving DecidableEq, Repr

structure RemoveRequest where
  (tgtStorageGroupID tgtMaskingViewID reqID symID clientSymID devID : String)
  respChan : Nat
deriving DecidableEq, Repr

structure Batch where
  (symID storageGroupID maskingViewID : String)
  devIDs : List String
deriving DecidableEq, Repr

def getKey (symID tgtStorageGroupID : String) : String := symID ++ ":" ++ tgtStorageGroupID

def AddRequest.key (req : AddRequest) : String := getKey req.symID req.tgtStorageGroupID

def RemoveRequest.key (req : RemoveRequest) : String := getKey req.symID req.tgtStorageGroupID

def Batch.key (batch : Batch) : String := getKey batch.symID batch.storageGroupID

structure SgConfig where
  isVsphereEnabled : Bool
  vSpherePortGroup : String
deriving DecidableEq, Repr

inductive SgCall where
  | pmax (c : PmaxCall)
  | getPowerMaxClient (symID : String)
  | isBootLUNStorageGroup (symID storageGroupID : String)
  | selectOrCreateFCPGForHost (symID : String) (host : Host)
  | selectPortGroup
  | requestLock (symID maskingViewID reqID : String)
  | releaseLock (symID maskingViewID reqID : String) (lockNum : Int)
  | receiveAdd (key : String)
  | receiveRemove (key : String)
  | respondAdd (req : AddRequest) (err : Option String)
  | respondRemove (req : RemoveRequest) (err : Option String)
  | processing (batch : Batch)
  | releaseToken (key : String)
  | nilDereference
  | loops
deriving DecidableEq, Repr

abbrev SgAnswer : SgCall → Type
  | .pmax c => PmaxAnswer c
  | .getPowerMaxClient _ => Except String Unit
  | .isBootLUNStorageGroup _ _ => Bool
  | .selectOrCreateFCPGForHost _ _ => Except String String
  | .selectPortGroup => Except String String
  | .requestLock _ _ _ => Except String Int
  | .releaseLock _ _ _ _ => Unit
  | .receiveAdd _ => Option AddRequest
  | .receiveRemove _ => Option RemoveRequest
  | .respondAdd _ _ => Unit
  | .respondRemove _ _ => Unit
  | .processing _ => Unit
  | .releaseToken _ => Unit
  | .nilDereference => Empty
  | .loops => Empty

abbrev SgProg := Prog SgCall SgAnswer

namespace Sg

def getVolumeByID (symID volumeID : String) : SgProg (Except PmaxError Volume) :=
  Prog.ask (SgCall.pmax (.getVolumeByID symID volumeID))

def getStorageGroup (symID sgID : String) : SgProg (Except PmaxError (Option StorageGroup)) :=
  Prog.ask (SgCall.pmax (.getStorageGroup symID sgID))

def getMaskingViewByID (symID maskingViewID : String) : SgProg (Except PmaxError MaskingView) :=
  Prog.ask (SgCall.pmax (.getMaskingViewByID symID maskingViewID))

def addVolumesToStorageGroup (symID sgID : String) (devIDs : List String) :
    SgProg (Except PmaxError Unit) :=
  Prog.ask (SgCall.pmax (.addVolumesToStorageGroup symID sgID devIDs))

def addVolumesToStorageGroupS (symID sgID : String) (devIDs : List String) :
    SgProg (Except PmaxError Unit) :=
  Prog.ask (SgCall.pmax (.addVolumesToStorageGroupS symID sgID devIDs))

def removeVolumesFromStorageGroup (symID sgID : String) (devIDs : List String) :
    SgProg (Except PmaxError Unit) :=
  Prog.ask (SgCall.pmax (.removeVolumesFromStorageGroup symID sgID devIDs))

def createStorageGroup (symID sgID : String) : SgProg (Except PmaxError Unit) :=
  Prog.ask (SgCall.pmax (.createStorageGroup symID sgID))

def deleteStorageGroup (symID sgID : String) : SgProg (Except PmaxError Unit) :=
  Prog.ask (SgCall.pmax (.deleteStorageGroup symID sgID))

def createMaskingView (symID maskingViewID sgID targetID : String) (isHost : Bool)
    (portGroupID : String) : SgProg (Except PmaxError Unit) :=
  Prog.ask (SgCall.pmax (.createMaskingView symID maskingViewID sgID targetID isHost portGroupID))

def deleteMaskingView (symID maskingViewID : String) : SgProg (Except PmaxError Unit) :=
  Prog.ask (SgCall.pmax (.deleteMaskingView symID maskingViewID))

def getMaskingViewConnections (symID maskingViewID : String) : SgProg (Except PmaxError Unit) :=
  Prog.ask (SgCall.pmax (.getMaskingViewConnections symID maskingViewID))

def getHostByID (symID hostID : String) : SgProg (Except PmaxError Host) :=
  Prog.ask (SgCall.pmax (.getHostByID symID hostID))

def getHostGroupList (symID : String) : SgProg (Except PmaxError (Option (List String))) :=
  Prog.ask (SgCall.pmax (.getHostGroupList symID))

def getHostGroupByID (symID hostGroupID : String) : SgProg (Except PmaxError HostGroup) :=
  Prog.ask (SgCall.pmax (.getHostGroupByID symID hostGroupID))

def getPowerMaxClient (symID : String) : SgProg (Except String Unit) :=
  Prog.ask (SgCall.getPowerMaxClient symID)

def isBootLUNStorageGroup (symID sgID : String) : SgProg Bool :=
  Prog.ask (SgCall.isBootLUNStorageGroup symID sgID)

def selectOrCreateFCPGForHost (symID : String) (host : Host) : SgProg (Except String String) :=
  Prog.ask (SgCall.selectOrCreateFCPGForHost symID host)

def selectPortGroup : SgProg (Except String String) := Prog.ask SgCall.selectPortGroup

def requestLock (symID maskingViewID reqID : String) : SgProg (Except String Int) :=
  Prog.ask (SgCall.requestLock symID maskingViewID reqID)

def releaseLock (symID maskingViewID reqID : String) (lockNum : Int) : SgProg Unit :=
  Prog.ask (SgCall.releaseLock symID maskingViewID reqID lockNum)

def receiveAdd (key : String) : SgProg (Option AddRequest) := Prog.ask (SgCall.receiveAdd key)

def receiveRemove (key : String) : SgProg (Option RemoveRequest) :=
  Prog.ask (SgCall.receiveRemove key)

def respondAdd (req : AddRequest) (err : Option String) : SgProg Unit :=
  Prog.ask (SgCall.respondAdd req err)

def respondRemove (req : RemoveRequest) (err : Option String) : SgProg Unit :=
  Prog.ask (SgCall.respondRemove req err)

def processing (batch : Batch) : SgProg Unit := Prog.ask (SgCall.processing batch)

def releaseToken (key : String) : SgProg Unit := Prog.ask (SgCall.releaseToken key)

def nilDereference {α : Type} : SgProg α := .call SgCall.nilDereference Empty.elim

def loops {α : Type} : SgProg α := .call SgCall.loops Empty.elim

end Sg

def csiMVPrefix : String := "csi-mv-"

def maxAddGroupSize : Nat := 100

def maxRemoveGroupSize : Nat := 100

def storageGroupSvcQueueDepth : Nat := 200

def formatList (xs : List String) : String := "[" ++ join xs " " ++ "]"

def appendIfMissing (xs : List String) (x : String) : List String :=
  if x ∈ xs then xs else xs ++ [x]

def getMaskingViewAndSGDetailsFrom (symID : String) (maskingViewIDs : List String)
    (storageGroups : List StorageGroup) :
    List String → SgProg (Except String (List String × List StorageGroup))
  | [] => return .ok (maskingViewIDs, storageGroups)
  | sgID :: sgIDs => do
    match ← Sg.getStorageGroup symID sgID with
    | .error _ => return .error (GrpcError.text ⟨.internal, "Failed to fetch SG details"⟩)
    | .ok none => Sg.nilDereference
    | .ok (some sg) =>
      getMaskingViewAndSGDetailsFrom symID (sg.maskingView.foldl appendIfMissing maskingViewIDs)
        (storageGroups ++ [sg]) sgIDs

def getMaskingViewAndSGDetails (symID : String) (sgIDs : List String) :
    SgProg (Except String (List String × List StorageGroup)) :=
  getMaskingViewAndSGDetailsFrom symID [] [] sgIDs

def bootLUNError (storageGroupID : String) : GrpcError :=
  ⟨.failedPrecondition, "storage group " ++ storageGroupID ++
    " is a protected boot LUN group and cannot be modified by CSI"⟩

def removeError (devIDs : List String) (storageGroupID : String) (err : PmaxError) : GrpcError :=
  ⟨.internal, "removeVolumesFromSGMV: Failed to remove volume from SG (Volumes: " ++
    formatList devIDs ++ ", SG: " ++ storageGroupID ++ ") status " ++ err.text⟩

/-- The end of `removeVolumesFromSGMV`: the group is deleted if the masking view was. -/
def removeFromGroup (batch : Batch) (maskingViewDeleted : Bool) : SgProg (Option String) := do
  match ← Sg.removeVolumesFromStorageGroup batch.symID batch.storageGroupID batch.devIDs with
  | .error err => return some (removeError batch.devIDs batch.storageGroupID err).text
  | .ok () =>
    if maskingViewDeleted then
      let _ ← Sg.deleteStorageGroup batch.symID batch.storageGroupID
      return none
    else return none

def removeVolumesFromSGMV (clientSymID : String) (batch : Batch) : SgProg (Option String) := do
  match ← Sg.getPowerMaxClient clientSymID with
  | .error err => return some err
  | .ok () =>
    Sg.processing batch
    if ← Sg.isBootLUNStorageGroup batch.symID batch.storageGroupID then
      return some (bootLUNError batch.storageGroupID).text
    else
      match ← getMaskingViewAndSGDetails batch.symID [batch.storageGroupID] with
      | .error err => return some err
      | .ok (maskingViewIDs, storageGroups) =>
        if batch.maskingViewID ∉ maskingViewIDs then return none
        -- these are the only volumes in the storage group
        else if storageGroups.head?.map (·.numOfVolumes) = some batch.devIDs.length then
          -- only masking views that the driver created are ever deleted
          if !hasPrefix batch.maskingViewID csiMVPrefix then removeFromGroup batch false
          else
            match ← Sg.deleteMaskingView batch.symID batch.maskingViewID with
            | .error err =>
              return some (GrpcError.text ⟨.internal,
                "Failed to delete masking view (Array: " ++ batch.symID ++
                  ", MaskingView: " ++ batch.maskingViewID ++ ") status " ++ err.text⟩)
            | .ok () => removeFromGroup batch true
        else removeFromGroup batch false

def RemoveRequest.batch (req : RemoveRequest) (devIDs : List String) : Batch :=
  ⟨req.symID, req.tgtStorageGroupID, req.tgtMaskingViewID, devIDs⟩

def processSingleRemoveVolumeFromSG (req : RemoveRequest) : SgProg Unit := do
  Sg.respondRemove req (← removeVolumesFromSGMV req.clientSymID (req.batch [req.devID]))

def handleRemoveVolumeFromSGMVError (req : RemoveRequest) : SgProg Unit := do
  match ← Sg.getPowerMaxClient req.clientSymID with
  | .error _ => return ()
  | .ok () =>
    match ← Sg.getVolumeByID req.symID req.devID with
    | .error err => Sg.respondRemove req (some err.text)
    | .ok vol =>
      if req.tgtStorageGroupID ∈ vol.storageGroupIDList then
        processSingleRemoveVolumeFromSG req
      else Sg.respondRemove req none

/-- The loop of `getRequestsForRemoveVolumesFromSG`, with the requests taken so far. -/
def takeRemoveRequests (key : String) :
    Nat → Option RemoveRequest → List RemoveRequest → SgProg (List RemoveRequest)
  | 0, _, requests => return requests
  | n + 1, initial, requests => do
    match ← Sg.receiveRemove key with
    | none => return requests
    | some req =>
      let initialReq := initial.getD req
      if req.symID = initialReq.symID ∧
          req.tgtStorageGroupID = initialReq.tgtStorageGroupID ∧
          req.tgtMaskingViewID = initialReq.tgtMaskingViewID then
        takeRemoveRequests key n (some initialReq) (requests ++ [req])
      else
        processSingleRemoveVolumeFromSG req
        return requests

/-- `getRequestsForRemoveVolumesFromSG`; the device IDs are those of the requests. -/
def getRequestsForRemoveVolumesFromSG (key : String) : SgProg (List RemoveRequest) :=
  takeRemoveRequests key maxRemoveGroupSize none []

def runRemoveVolumesFromSGMV (symID tgtStorageGroupID : String) : SgProg Unit := do
  let key := getKey symID tgtStorageGroupID
  match ← getRequestsForRemoveVolumesFromSG key with
  | [] => Sg.releaseToken key
  | req :: rest =>
    let requests := req :: rest
    match ← removeVolumesFromSGMV req.clientSymID (req.batch (requests.map (·.devID))) with
    | some _ =>
      Prog.forEach requests handleRemoveVolumeFromSGMVError
      Sg.releaseToken key
    | none =>
      Prog.forEach requests fun req => Sg.respondRemove req none
      Sg.releaseToken key

def AccessMode.isSingleNode : AccessMode → Bool
  | .singleNodeWriter | .singleNodeSingleWriter | .singleNodeMultiWriter
  | .singleNodeReaderOnly => true
  | _ => false

/-- For a volume with these masking views; `none` if it is not mapped to a host. -/
def singleNodeCheck (noOfHosts : Nat) (maskingViewIDs : List String) (tgtMaskingViewID : String)
    (volumeAlreadyInTargetSG : Bool) : Option (Except String (Bool × Bool)) :=
  if noOfHosts > 0 then
    some <|
      match maskingViewIDs with
      | [] => .error (GrpcError.text ⟨.internal, "No masking views found for volume"⟩)
      | [maskingViewID] =>
        if maskingViewID = tgtMaskingViewID then
          if volumeAlreadyInTargetSG then .ok (false, false)
          else .error (GrpcError.text ⟨.failedPrecondition, "Volume in conflicting masking view"⟩)
        else .error (GrpcError.text ⟨.failedPrecondition,
          "volume already present in a different masking view"⟩)
      | _ => .error (GrpcError.text ⟨.internal, "Volume already part of multiple Masking views"⟩)
  else none

/-- Whether the volume has to be added, and whether the masking view has to be created. -/
def addVolumeToSGMVVolumeCheck (req : AddRequest) : SgProg (Except String (Bool × Bool)) := do
  match ← Sg.getPowerMaxClient req.clientSymID with
  | .error err => return .error err
  | .ok () =>
    match ← Sg.getVolumeByID req.symID req.devID with
    | .error err => return .error err.text
    | .ok vol =>
      let currentSGIDs := vol.storageGroupIDList
      let volumeAlreadyInTargetSG := decide (req.tgtStorageGroupID ∈ currentSGIDs)
      match ← getMaskingViewAndSGDetails req.symID currentSGIDs with
      | .error err => return .error err
      | .ok (maskingViewIDs, storageGroups) =>
        if storageGroups.any fun storageGroup =>
            storageGroup.storageGroupID = req.tgtStorageGroupID ∧ storageGroup.srp ≠ "" then
          return .error (GrpcError.text ⟨.internal, "Conflicting SG present with SRP"⟩)
        else
          let wanted := (!volumeAlreadyInTargetSG, !decide (req.tgtMaskingViewID ∈ maskingViewIDs))
          if req.accessMode.isSingleNode then
            return (singleNodeCheck vol.numberOfFrontEndPaths maskingViewIDs
              req.tgtMaskingViewID volumeAlreadyInTargetSG).getD (.ok wanted)
          else return .ok wanted

def selectOrCreatePortGroup (cfg : SgConfig) (symID : String) (host : Host) :
    SgProg (Except String String) :=
  if cfg.isVsphereEnabled then return .ok cfg.vSpherePortGroup
  else if host.hostType = "Fibre" then Sg.selectOrCreateFCPGForHost symID host
  else Sg.selectPortGroup

def findHostGroup (symID hostID : String) : List String → SgProg String
  | [] => return ""
  | hostGroupID :: hostGroupIDs => do
    match ← Sg.getHostGroupByID symID hostGroupID with
    | .error _ => findHostGroup symID hostID hostGroupIDs
    | .ok hostGroup =>
      if hostGroup.hosts.any fun member => equalFold member hostID then
        return hostGroup.hostGroupID
      else findHostGroup symID hostID hostGroupIDs

def findHostGroupForHost (symID hostID : String) : SgProg (Except String String) := do
  match ← Sg.getHostGroupList symID with
  | .error err =>
    return .error ("failed to list host groups on array " ++ symID ++
      " while resolving the host group for host " ++ hostID ++ ": " ++ err.text)
  | .ok none => return .ok ""
  | .ok (some hostGroupIDs) => return .ok (← findHostGroup symID hostID hostGroupIDs)

/-- `resolveMaskingViewTarget`: what the masking view is created for, and whether it
is a host. -/
def resolveMaskingViewTarget (symID : String) (host : Host) :
    SgProg (Except String (String × Bool)) := do
  if host.numberHostGroups = 0 then return .ok (host.hostID, true)
  else
    match ← findHostGroupForHost symID host.hostID with
    | .error err => return .error err
    | .ok hostGroupID =>
      if hostGroupID = "" then return .ok (host.hostID, true)
      else return .ok (hostGroupID, false)

def fetchHost (cfg : SgConfig) (symID hostID : String) : SgProg (Except String Host) := do
  match ← Sg.getHostByID symID hostID with
  | .ok host => return .ok host
  | .error err =>
    if contains err.text "cannot be found" && cfg.isVsphereEnabled then
      match ← Sg.getHostGroupByID symID hostID with
      | .error err =>
        return .error (GrpcError.text ⟨.notFound,
          "ControllerPublishVolume: Failed to fetch host groups details for " ++ hostID ++
            " on " ++ symID ++ " with error - " ++ err.text⟩)
      | .ok hostg => return .ok ⟨hostg.hostGroupID, "", 0⟩
    else
      return .error (GrpcError.text ⟨.notFound,
        "ControllerPublishVolume: Failed to fetch host details for host " ++ hostID ++
          " on " ++ symID ++ " with error - " ++ err.text⟩)

def ensureStorageGroup (symID tgtStorageGroupID : String) : SgProg (Option String) := do
  match ← Sg.getStorageGroup symID tgtStorageGroupID with
  | .ok none => Sg.nilDereference
  | .ok (some sg) =>
    if sg.srp ≠ "" then
      return some (GrpcError.text ⟨.internal,
        "Storage group exists with same name but with conflicting params"⟩)
    else return none
  | .error _ =>
    match ← Sg.createStorageGroup symID tgtStorageGroupID with
    | .error _ => return some (GrpcError.text ⟨.internal, "Failed to create storage group"⟩)
    | .ok () => return none

/-- The volumes are added unless the first of them is in the group. -/
def addToNewGroup (symID tgtStorageGroupID : String) : List String → SgProg (Option String)
  | [] => return none
  | devID :: rest => do
    match ← Sg.getVolumeByID symID devID with
    | .error err =>
      return some (GrpcError.text ⟨.internal, "Failed to get volume from array: " ++ err.text⟩)
    | .ok pmaxVolume =>
      if tgtStorageGroupID ∈ pmaxVolume.storageGroupIDList then return none
      else
        match ← Sg.addVolumesToStorageGroup symID tgtStorageGroupID (devID :: rest) with
        | .error err =>
          return some (GrpcError.text ⟨.internal,
            "Failed to add volume to storage group: " ++ err.text⟩)
        | .ok () => return none

def createMaskingViewFor (cfg : SgConfig) (symID tgtStorageGroupID tgtMaskingViewID hostID : String)
    (devIDs : List String) : SgProg (Option String) := do
  match ← fetchHost cfg symID hostID with
  | .error err => return some err
  | .ok host =>
    match ← selectOrCreatePortGroup cfg symID host with
    | .error err =>
      return some (GrpcError.text ⟨.internal,
        "ControllerPublishVolume: Failed to select/create PG for host " ++ hostID ++
          " on " ++ symID ++ " with error - " ++ err⟩)
    | .ok portGroupID =>
      match ← ensureStorageGroup symID tgtStorageGroupID with
      | some err => return some err
      | none =>
        match ← addToNewGroup symID tgtStorageGroupID devIDs with
        | some err => return some err
        | none =>
          match ← resolveMaskingViewTarget symID host with
          | .error err => return some (GrpcError.text ⟨.internal, err⟩)
          | .ok (mvTargetID, mvTargetIsHost) =>
            match ← Sg.createMaskingView symID tgtMaskingViewID tgtStorageGroupID
                mvTargetID mvTargetIsHost portGroupID with
            | .error err =>
              return some (GrpcError.text ⟨.internal,
                "Failed to create masking view: " ++ err.text⟩)
            | .ok () => return none

def addToMaskingView (symID tgtStorageGroupID tgtMaskingViewID hostID : String)
    (tgtMaskingView : MaskingView) (devIDs : List String) : SgProg (Option String) := do
  if (equalFold tgtMaskingView.hostID hostID || equalFold tgtMaskingView.hostGroupID hostID) &&
      equalFold tgtMaskingView.storageGroupID tgtStorageGroupID then
    if devIDs = [] then return none
    else
      match ← Sg.addVolumesToStorageGroupS symID tgtStorageGroupID devIDs with
      | .error err =>
        return some (GrpcError.text ⟨.internal,
          "Failed to add volume to storage group: " ++ err.text⟩)
      | .ok () => return none
  else
    return some (GrpcError.text ⟨.internal,
      "ControllerPublishVolume: Existing masking view " ++ tgtMaskingViewID ++
        " with conflicting SG " ++ tgtStorageGroupID ++ " or Host " ++ hostID⟩)

/-- `addVolumesToSGMV`, with a client or with nil; `none` for a nil error. -/
def addVolumesToSGMV (cfg : SgConfig) (hasClient : Bool) (req : AddRequest)
    (devIDs : List String) : SgProg (Option String) := do
  if ← Sg.isBootLUNStorageGroup req.symID req.tgtStorageGroupID then
    return some (bootLUNError req.tgtStorageGroupID).text
  else if !hasClient then Sg.nilDereference
  else
    match ← Sg.getMaskingViewByID req.symID req.tgtMaskingViewID with
    | .ok tgtMaskingView =>
      addToMaskingView req.symID req.tgtStorageGroupID req.tgtMaskingViewID req.hostID
        tgtMaskingView devIDs
    | .error _ =>
      createMaskingViewFor cfg req.symID req.tgtStorageGroupID req.tgtMaskingViewID req.hostID
        devIDs

def processSingleAddVolumeToSGMV (cfg : SgConfig) (req : AddRequest) : SgProg Unit := do
  match ← Sg.getPowerMaxClient req.clientSymID with
  | .error err => Sg.respondAdd req (some err)
  | .ok () => Sg.respondAdd req (← addVolumesToSGMV cfg true req [req.devID])

def handleAddVolumeToSGMVError (cfg : SgConfig) (req : AddRequest) : SgProg Unit := do
  match ← Sg.getPowerMaxClient req.clientSymID with
  | .error _ => return ()
  | .ok () =>
    match ← Sg.getVolumeByID req.symID req.devID with
    | .error err => Sg.respondAdd req (some err.text)
    | .ok vol =>
      match ← Sg.getMaskingViewByID req.symID req.tgtMaskingViewID with
      | .ok _ =>
        if req.tgtStorageGroupID ∈ vol.storageGroupIDList then Sg.respondAdd req none
        else processSingleAddVolumeToSGMV cfg req
      | .error _ => processSingleAddVolumeToSGMV cfg req

/-- The loop of `getRequestsForAddVolumesToSG`.  A request that needs no work, or fails its check,
does not count; `fuel` bounds the requests. -/
def takeAddRequests (cfg : SgConfig) (key : String) :
    Nat → Option AddRequest → List AddRequest → List String → SgProg (List AddRequest × List String)
  | 0, _, _, _ => Sg.loops
  | fuel + 1, initial, requests, devIDs => do
    if requests.length ≥ maxAddGroupSize then return (requests, devIDs)
    else
      match ← Sg.receiveAdd key with
      | none => return (requests, devIDs)
      | some req =>
        let initialReq := initial.getD req
        if req.symID = initialReq.symID ∧
            req.tgtStorageGroupID = initialReq.tgtStorageGroupID ∧
            req.tgtMaskingViewID = initialReq.tgtMaskingViewID then
          match ← addVolumeToSGMVVolumeCheck req with
          | .error err =>
            Sg.respondAdd req (some err)
            takeAddRequests cfg key fuel (some initialReq) requests devIDs
          | .ok (addToSG, createMV) =>
            if addToSG || createMV then
              takeAddRequests cfg key fuel (some initialReq) (requests ++ [req])
                (if addToSG then devIDs ++ [req.devID] else devIDs)
            else
              Sg.respondAdd req none
              takeAddRequests cfg key fuel (some initialReq) requests devIDs
        else
          processSingleAddVolumeToSGMV cfg req
          return (requests, devIDs)

/-- Read once for the batch, into a variable that hides the one that is sent. -/
def readConnections (req : AddRequest) : SgProg Unit := do
  match ← Sg.requestLock req.symID req.tgtMaskingViewID req.reqID with
  | .error _ => return ()
  | .ok lockNum =>
    let _ ← Sg.getMaskingViewConnections req.symID req.tgtMaskingViewID
    Sg.releaseLock req.symID req.tgtMaskingViewID req.reqID lockNum

def runAddVolumesToSGMV (cfg : SgConfig) (fuel : Nat) (symID tgtStorageGroupID : String) :
    SgProg Unit := do
  let key := getKey symID tgtStorageGroupID
  match ← takeAddRequests cfg key fuel none [] [] with
  | ([], _) => Sg.releaseToken key
  | (req :: rest, deviceIDs) =>
    let requests := req :: rest
    let hasClient ←
      match ← Sg.getPowerMaxClient req.clientSymID with
      | .ok () => pure true
      | .error _ =>
        -- the run goes on with a nil client
        Prog.forEach requests (handleAddVolumeToSGMVError cfg)
        pure false
    match ← addVolumesToSGMV cfg hasClient req deviceIDs with
    | some _ =>
      Prog.forEach requests (handleAddVolumeToSGMVError cfg)
      Sg.releaseToken key
    | none =>
      readConnections req
      Prog.forEach requests fun req => Sg.respondAdd req none
      Sg.releaseToken key

end PowerMaxCsi.Service
