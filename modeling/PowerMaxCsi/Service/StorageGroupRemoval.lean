import PowerMaxCsi.Service.DeletionQueue
import PowerMaxCsi.Service.Replication

/-!
# The devices of the deletion queue leave their storage groups

`deletionQueue.removeVolumesFromStorageGroup` of `service/deletion_worker.go`.  Times other than the
expiry of a cached volume, the waiting and the log lines are left out.
-/

namespace PowerMaxCsi.Service

open Strings

structure RDFGroupPair where
  (numDevices remoteRdfgNumber : Int)
  remoteSymmetrix : String
deriving DecidableEq, Repr

inductive WorkerCall where
  | pmax (c : PmaxCall)
  /-- `time.Since(vol.lastUpdate) > CacheValidTime`, for the volume of a device. -/
  | cacheExpired (deviceID : String)
  | getStorageGroupRDFInfo (symID storageGroupID rdfGrpNo : String)
  | getRDFGroupByID (symID rdfGrpNo : String)
  | executeReplicationActionOnSG (symID action storageGroupID rdfGrpNo : String)
      (force exemptConsistency bias : Bool)
  | removeVolumesFromProtectedStorageGroup (symID storageGroupID remoteSymID
      remoteStorageGroupID : String) (volumeIDs : List String)
deriving DecidableEq, Repr

abbrev WorkerAnswer : WorkerCall → Type
  | .pmax c => PmaxAnswer c
  | .cacheExpired _ => Bool
  | .getStorageGroupRDFInfo _ _ _ => Except PmaxError SGRDFInfo
  | .getRDFGroupByID _ _ => Except PmaxError RDFGroupPair
  | .executeReplicationActionOnSG _ _ _ _ _ _ _ => Except PmaxError Unit
  | .removeVolumesFromProtectedStorageGroup _ _ _ _ _ => Except PmaxError Unit

abbrev WorkerProg := Prog WorkerCall WorkerAnswer

abbrev WorkerHistory := Prog.History WorkerCall WorkerAnswer

def maxRequestsPerStep : Nat := 1000

def errorMsg : Except PmaxError Unit → String
  | .ok () => ""
  | .error err => err.text

/-- `validateRDFState` for `Suspend`: whether the group is suspended already. -/
def validateRDFStateForSuspend (symID sgName rdfGrpNo : String) :
    WorkerProg (Except Failure Bool) := do
  match ← Prog.ask (WorkerCall.getStorageGroupRDFInfo symID sgName rdfGrpNo) with
  | .error err => return .error (internal ("Failed to fetch replication state for SG (" ++ sgName ++
      ") - Error (" ++ err.text ++ ")"))
  | .ok psg =>
    match psg.states with
    | [] => return .error .panics
    | state :: _ => return .ok (decide (state = suspended))

def suspend (symID sgName rdfGrpNo : String) : WorkerProg (Except Failure Unit) := do
  match ← validateRDFStateForSuspend symID sgName rdfGrpNo with
  | .error failure => return .error failure
  | .ok true => return .ok ()
  | .ok false =>
    match ← Prog.ask (WorkerCall.executeReplicationActionOnSG symID "Suspend" sgName rdfGrpNo
        false false false) with
    | .error err => return .error (internal ("Suspend: Failed to modify SG (" ++ sgName ++
        ") - Error (" ++ err.text ++ ")"))
    | .ok () => return .ok ()

namespace CsiDevice

abbrev deviceID (device : CsiDevice) : String := device.symDeviceID.deviceID

/-- `symVolumeCache.getOrUpdateVolume` with `forceUpdate`, as a part of a step. -/
def readVolume (device : CsiDevice) (symID : String) :
    WorkerProg (CsiDevice × Except PmaxError Volume) :=
  (device.getOrUpdateVolume symID).through WorkerCall.pmax fun _ r => r

def cachedVolume (device : CsiDevice) (symID : String) :
    WorkerProg (CsiDevice × Except PmaxError Volume) := do
  match device.symVolumeCache with
  | none => device.readVolume symID
  | some volume =>
    if ← Prog.ask (WorkerCall.cacheExpired device.deviceID) then device.readVolume symID
    else return (device, .ok volume)

def leaveGroups (device : CsiDevice) (symVol : Volume) (errorMsg : String) : CsiDevice :=
  if symVol.snapSource ∨ symVol.snapTarget then device.updateStatus .cleanupSnaps errorMsg
  else device.updateStatus .deleteVol errorMsg

end CsiDevice

/-- The storage group of a step, empty if there is none, and the devices to be removed. -/
structure Removal where
  sgID : String
  volumeIDs : List String
deriving DecidableEq, Repr

/-- The group that can be processed, empty if there is none; no result for a nil pointer. -/
def findGroup (symID : String) (device : CsiDevice) :
    List String → WorkerProg (Option (CsiDevice × String))
  | [] => return some (device, "")
  | storageGroupID :: rest => do
    match ← Prog.ask (WorkerCall.pmax (.getStorageGroup symID storageGroupID)) with
    | .error err =>
      findGroup symID (device.updateStatus device.status.state err.text) rest
    | .ok none => return none
    | .ok (some sg) =>
      if sg.numOfMaskingViews > 0 then
        findGroup symID (device.updateStatus device.status.state
          "device is in masking view, can't delete") rest
      else return some (device, storageGroupID)

def changedMsg (device : CsiDevice) (volumeIdentifier : String) : String :=
  device.print ++ ": volume identifiers don't match(Orig: " ++ device.volumeIdentifier ++
    ", Current: " ++ volumeIdentifier ++ ") - skipping disAssociateSG\n"

def collectDevice (symID : String) (removal : Removal) (device : CsiDevice) :
    WorkerProg (Option (CsiDevice × Removal)) := do
  if device.status.state ≠ .disAssociateSG then return some (device, removal)
  else
    match ← device.cachedVolume symID with
    | (device, .error err) =>
      return some (device.updateStatus device.status.state err.text, removal)
    | (device, .ok symVol) =>
      if symVol.volumeIdentifier ≠ device.volumeIdentifier then
        return some (device.updateStatus .skipDelete
          (changedMsg device symVol.volumeIdentifier), removal)
      else if symVol.storageGroupIDList = [] then
        return some (device.leaveGroups symVol "", removal)
      else if removal.sgID = "" then
        match ← findGroup symID device symVol.storageGroupIDList with
        | none => return none
        | some (device, sgID) =>
          if sgID = "" then return some (device, removal)
          else return some (device, ⟨sgID, removal.volumeIDs ++ [device.deviceID]⟩)
      else if removal.sgID ∈ symVol.storageGroupIDList then
        return some (device, { removal with volumeIDs := removal.volumeIDs ++ [device.deviceID] })
      else return some (device, removal)

def collectDevices (symID : String) :
    Removal → List CsiDevice → WorkerProg (Option (List CsiDevice × Removal))
  | removal, [] => return some ([], removal)
  | removal, device :: rest => do
    match ← collectDevice symID removal device with
    | none => return none
    | some (device, removal) =>
      if removal.volumeIDs.length = maxRequestsPerStep then
        return some (device :: rest, removal)
      else
        match ← collectDevices symID removal rest with
        | none => return none
        | some (rest, removal) => return some (device :: rest, removal)

inductive RemovalOutcome where
  | answered (errorMsg : String)
  /-- The step returns before. -/
  | returns (updated : Bool)
  | panics
deriving DecidableEq, Repr

/-- Devices that the group does not contain are left out of a second request. -/
def removeFromDefaultGroup (symID : String) (removal : Removal) : WorkerProg String := do
  let remove (volumeIDs : List String) : WorkerProg (Except PmaxError Unit) :=
    Prog.ask (WorkerCall.pmax (.removeVolumesFromStorageGroup symID removal.sgID volumeIDs))
  match ← remove removal.volumeIDs with
  | .ok () => return ""
  | .error err =>
    let retryIDs := removal.volumeIDs.filter fun vid => !contains err.text vid
    if contains err.text "does not contain" ∧ retryIDs.length > 0 ∧
        retryIDs.length < removal.volumeIDs.length then
      return errorMsg (← remove retryIDs)
    else return err.text

def removeFromPair (symID : String) (removal : Removal) (ns mode : String)
    (rdfInfo : RDFGroupPair) : WorkerProg RemovalOutcome := do
  let remoteSGID := buildProtectionGroupID ns (toString rdfInfo.remoteRdfgNumber) mode
  return .answered (errorMsg (← Prog.ask
    (WorkerCall.removeVolumesFromProtectedStorageGroup symID removal.sgID rdfInfo.remoteSymmetrix
      remoteSGID removal.volumeIDs)))

/-- The last volumes of a Metro group are removed while it is suspended. -/
def removeFromProtectedGroup (symID : String) (removal : Removal) (ns rdfNo mode : String) :
    WorkerProg RemovalOutcome := do
  match ← Prog.ask (WorkerCall.getStorageGroupRDFInfo symID removal.sgID rdfNo) with
  | .error err => return .returns (contains err.text "No SRDF records found")
  | .ok psg =>
    match psg.volumeRdfTypes with
    | [] => return .panics
    | rdfType :: _ =>
      if rdfType ≠ "R1" then return .returns true
      else
        match ← Prog.ask (WorkerCall.getRDFGroupByID symID rdfNo) with
        | .error _ => return .returns false
        | .ok rdfInfo =>
          if mode = metro ∧ (rdfInfo.numDevices = 1 ∨
              rdfInfo.numDevices = removal.volumeIDs.length) then
            match psg.states with
            | [] => return .panics
            | state :: _ =>
              if state ≠ suspended then
                match ← suspend symID removal.sgID rdfNo with
                | .error .panics => return .panics
                | .error (.failed _) => return .returns false
                | .ok () => removeFromPair symID removal ns mode rdfInfo
              else removeFromPair symID removal ns mode rdfInfo
          else removeFromPair symID removal ns mode rdfInfo

def removeFromNamedGroup (symID : String) (removal : Removal) : WorkerProg RemovalOutcome :=
  match getRDFInfoFromSGID removal.sgID with
  | .error _ => do return .answered (← removeFromDefaultGroup symID removal)
  | .ok (ns, rdfNo, mode) => removeFromProtectedGroup symID removal ns rdfNo mode

/-- If the group cannot be read the removal goes ahead. -/
def removeCollected (symID : String) (removal : Removal) : WorkerProg RemovalOutcome := do
  match ← Prog.ask (WorkerCall.pmax (.getStorageGroup symID removal.sgID)) with
  | .error _ => removeFromNamedGroup symID removal
  | .ok none => return .panics
  | .ok (some sg) =>
    if sg.numOfMaskingViews > 0 then return .returns false else removeFromNamedGroup symID removal

def recordRemoval (errorMsg : String) : CsiDevice × Except PmaxError Volume → CsiDevice
  | (device, .error err) => device.updateStatus device.status.state err.text
  | (device, .ok symVol) =>
    if symVol.storageGroupIDList = [] then device.leaveGroups symVol errorMsg
    else device.updateStatus device.status.state errorMsg

def refreshDevice (symID errorMsg volumeID : String) : List CsiDevice → WorkerProg (List CsiDevice)
  | [] => return []
  | device :: rest => do
    if device.deviceID = volumeID then
      return recordRemoval errorMsg (← device.readVolume symID) :: rest
    else return device :: (← refreshDevice symID errorMsg volumeID rest)

def refreshDevices (symID errorMsg : String) :
    List String → List CsiDevice → WorkerProg (List CsiDevice)
  | [], devices => return devices
  | volumeID :: rest, devices => do
    refreshDevices symID errorMsg rest (← refreshDevice symID errorMsg volumeID devices)

namespace DeletionQueue

/-- `deletionQueue.removeVolumesFromStorageGroup`; no result if it panics. -/
def removeVolumesFromStorageGroup (queue : DeletionQueue) :
    WorkerProg (Option (DeletionQueue × Bool)) := do
  match ← collectDevices queue.symID ⟨"", []⟩ queue.deviceList with
  | none => return none
  | some (devices, removal) =>
    if removal.volumeIDs.length > 0 then
      match ← removeCollected queue.symID removal with
      | .panics => return none
      | .returns updated => return some ({ queue with deviceList := devices }, updated)
      | .answered errorMsg =>
        let devices ← refreshDevices queue.symID errorMsg removal.volumeIDs devices
        return some ({ queue with deviceList := devices }, true)
    else return some ({ queue with deviceList := devices }, false)

/-- `deletionWorker.pruneDeletionQueues`, for one queue. -/
def pruneDeletionQueue (queue : DeletionQueue) : DeletionQueue :=
  { queue with deviceList := queue.deviceList.filter fun dev =>
      dev.status.state ≠ .deleted ∧ dev.status.state ≠ .maxedOut ∧ dev.status.state ≠ .skipDelete }

end DeletionQueue

end PowerMaxCsi.Service
