import PowerMaxCsi.Service.DeviceRanges
import PowerMaxCsi.Service.Pmax

/-!
# The deletion queue of an array

`deletionQueue.deleteVolumes` of `service/deletion_worker.go`, a step under the lock of the queue.
Times, which nothing reads with `forceUpdate`, and log lines are left out.
-/

namespace PowerMaxCsi.Service

open Numeral

inductive DeletionState where
  | cleanupSnaps
  | disAssociateSG
  | deleteVol
  | deleted
  | maxedOut
  | skipDelete
deriving DecidableEq, Repr

structure DeletionRequestStatus where
  nErrors : Nat
  errorMsgs : List String
  state : DeletionState
deriving DecidableEq, Repr

/-- `csiDevice`; the cache holds the volume that was read last. -/
structure CsiDevice where
  symDeviceID : SymDeviceID
  symID : String
  symVolumeCache : Option Volume
  volumeIdentifier : String
  status : DeletionRequestStatus
deriving DecidableEq, Repr

structure DeletionQueue where
  deviceList : List CsiDevice
  (symID clusterPrefix : String)
deriving DecidableEq, Repr

def maxErrorsStored : Nat := 5

def maxErrorCount : Nat := 100

def finalError : String :=
  "Final error: Max error count reached, device will be removed from Deletion Queue"

namespace CsiDevice

def equals (device other : CsiDevice) : Bool :=
  device.symDeviceID.deviceID = other.symDeviceID.deviceID

def print (device : CsiDevice) : String :=
  "(Device ID: " ++ device.symDeviceID.deviceID ++ ", SymID: " ++ device.symID ++ ")"

def updateStatus (device : CsiDevice) (state : DeletionState) (errorMsg : String) : CsiDevice :=
  if errorMsg = "" then
    { device with status := { device.status with state := state } }
  else
    let nErrors := device.status.nErrors + 1
    let errorMsgs :=
      if device.status.errorMsgs.length = maxErrorsStored then device.status.errorMsgs.tail
      else device.status.errorMsgs
    if maxErrorCount ≤ nErrors then
      { device with status := ⟨nErrors, errorMsgs ++ [finalError], .maxedOut⟩ }
    else
      { device with status := ⟨nErrors, errorMsgs ++ [errorMsg], state⟩ }

/-- `symVolumeCache.getOrUpdateVolume` with `forceUpdate`: the volume is read again
and cached. -/
def getOrUpdateVolume (device : CsiDevice) (symID : String) :
    PmaxProg (CsiDevice × Except PmaxError Volume) := do
  match ← Pmax.getVolumeByID symID device.symDeviceID.deviceID with
  | .error err => return ({ device with symVolumeCache := none }, .error err)
  | .ok volume => return ({ device with symVolumeCache := some volume }, .ok volume)

end CsiDevice

namespace DeletionQueue

def queueDeviceForDeletion (queue : DeletionQueue) (device : CsiDevice) :
    Except String DeletionQueue :=
  match queue.deviceList.find? (·.equals device) with
  | some dev => .error (dev.print ++
      ": found existing entry in deletion queue with volume handle: " ++ dev.volumeIdentifier)
  | none => .ok { queue with deviceList := queue.deviceList ++ [device] }

/-- The map `volumeMap` of a bulk answer; the last volume with an ID stays. -/
def volumeMap (volumes : List VolumeEnhanced) : String → Option VolumeEnhanced :=
  volumes.foldl (fun m volume => Function.update m volume.id (some volume)) fun _ => none

def apiVersion (symID : String) : PmaxProg Int := do
  match ← Pmax.getVersionDetails symID with
  | .error _ => return 0
  | .ok version => return if version = "" then 0 else (parseInt 10 version).1

def bulkVolumes (queue : DeletionQueue) (version : Int) :
    PmaxProg (String → Option VolumeEnhanced) := do
  if version ≥ apiVersion101 then
    let volDeletePrefix := deletionPrefix ++ csiPrefix ++ "-" ++ queue.clusterPrefix
    match ← Pmax.getVolumesByIdentifierMatch queue.symID volDeletePrefix with
    | .error _ => return fun _ => none
    | .ok volumes => return volumeMap volumes
  else return fun _ => none

/-- The identifier and the number of storage groups, from the bulk answer or the array. -/
def readDevice (symID : String) (version : Int) (bulk : String → Option VolumeEnhanced)
    (device : CsiDevice) : PmaxProg (CsiDevice × Except PmaxError (String × Nat)) := do
  match bulk device.symDeviceID.deviceID, decide (version ≥ apiVersion101) with
  | some volume, true =>
    return (device, .ok (volume.identifier, volume.storageGroups.length))
  | _, _ =>
    let (device, vol) ← device.getOrUpdateVolume symID
    return (device, vol.map fun vol => (vol.volumeIdentifier, vol.storageGroupIDList.length))

def mismatchMsg (device : CsiDevice) (volumeIdentifier : String) : String :=
  device.print ++ ": volume identifiers don't match(Orig: " ++ device.volumeIdentifier ++
    ", Req: " ++ volumeIdentifier ++ ")\n"

/-- The device with its new status, and its ID if it is to be deleted. -/
def checkDevice (symID : String) (version : Int) (bulk : String → Option VolumeEnhanced)
    (device : CsiDevice) : PmaxProg (CsiDevice × List SymDeviceID) := do
  if device.status.state = .deleteVol then
    match ← readDevice symID version bulk device with
    | (device, .error err) => return (device.updateStatus device.status.state err.text, [])
    | (device, .ok (volumeIdentifier, sgCount)) =>
      if sgCount ≠ 0 then return (device.updateStatus .disAssociateSG "", [])
      else if volumeIdentifier ≠ device.volumeIdentifier then
        return (device.updateStatus .skipDelete (mismatchMsg device volumeIdentifier), [])
      else return (device, [device.symDeviceID])
  else return (device, [])

def checkDevices (symID : String) (version : Int) (bulk : String → Option VolumeEnhanced) :
    List CsiDevice → PmaxProg (List CsiDevice × List SymDeviceID)
  | [] => return ([], [])
  | device :: rest => do
    let (device, ids) ← checkDevice symID version bulk device
    let (rest, restIDs) ← checkDevices symID version bulk rest
    return (device :: rest, ids ++ restIDs)

/-- The devices with their new status, and the IDs of those that are to be deleted. -/
def selectDevices (queue : DeletionQueue) : PmaxProg (List CsiDevice × List SymDeviceID) := do
  let version ← apiVersion queue.symID
  let bulk ← queue.bulkVolumes version
  checkDevices queue.symID version bulk queue.deviceList

/-- For each device in the order of the queue the first range that it is in; the last one stays. -/
def chooseRange (deviceIDs : List SymDeviceID) : DeviceRange :=
  let devRanges := getDeviceRanges (deviceIDs.insertionSort fun i j => i.intVal ≤ j.intVal)
  deviceIDs.foldl (fun chosen deviceID =>
    (devRanges.find? (·.isDeviceIDInRange deviceID)).getD chosen) .empty

def recordDeletion (outcome : Except PmaxError Unit) (volumeIDs : List String)
    (devices : List CsiDevice) : List CsiDevice :=
  volumeIDs.foldl (fun devices volumeID => devices.map fun dev =>
    if volumeID = dev.symDeviceID.deviceID then
      match outcome with
      | .error err => dev.updateStatus dev.status.state err.text
      | .ok () => dev.updateStatus .deleted ""
    else dev) devices

def deleteVolumes (queue : DeletionQueue) : PmaxProg (DeletionQueue × Bool) := do
  if queue.deviceList.length = 0 then return (queue, false)
  else
    let (devices, deviceIDs) ← queue.selectDevices
    if deviceIDs.length > 0 then
      let deviceRangeToBeDeleted := chooseRange deviceIDs
      let outcome ← Pmax.deleteVolume queue.symID deviceRangeToBeDeleted.get
      let devices := recordDeletion outcome deviceRangeToBeDeleted.getDeviceIDs devices
      return ({ queue with deviceList := devices }, true)
    else return ({ queue with deviceList := devices }, false)

end DeletionQueue

end PowerMaxCsi.Service
