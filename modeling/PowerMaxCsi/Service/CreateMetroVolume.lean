import PowerMaxCsi.Service.Replication

/-!
# Creating a Metro volume

`createMetroVolume` of `service/controller.go` and `deferOperation` of `service/service.go`.
Attributes of a response that are copied from the request, and the topology, are left out.
-/

namespace PowerMaxCsi.Service

open Strings

structure MetroConfig where
  clusterPrefix : String
  (enableBlock metroSiteFailureHandling : Bool)
  volumeJournal : Bool
  (driverName instanceUID : String)
deriving DecidableEq, Repr

inductive ContentSource where
  | volume (volumeID : String)
  | snapshot (snapshotID : String)
  | missing
deriving DecidableEq, Repr

structure MetroRequest where
  name : String
  contentSource : Option ContentSource
  /-- The capabilities, if there are any, are for block access. -/
  isBlock : Bool
  (storagePoolID symID storageGroupName serviceLevel thick remoteSymID localRDFGrpNo : String)
  (remoteRDFGrpNo remoteServiceLevel remoteSRPID ns applicationPrefix bias hostLimitName : String)
  hostLimits : HostIOLimits
deriving DecidableEq, Repr

structure CreatedVolume where
  volumeID : String
  capacityCYL : Nat
  (storageGroup remoteVolumeID : String)
deriving DecidableEq, Repr

abbrev CreateResponse := Except Failure CreatedVolume

def failedWith (code : Code) (desc : String) : Failure := .failed (.status ⟨code, desc⟩)

def truncateString (str : String) (maxLength : Nat) : String :=
  if len str > maxLength then
    let newLength := if maxLength % 2 ≠ 0 then len str - maxLength / 2 - 1
      else len str - maxLength / 2
    cut str (maxLength / 2) ++ String.ofList (str.toList.drop newLength)
  else str

def volumeIdentifier (cfg : MetroConfig) (req : MetroRequest) : String :=
  let maxLength := maxVolIdentifierLength - len cfg.clusterPrefix - len cfg.clusterPrefix -
    len csiVolumePrefix - 1
  csiVolumePrefix ++ cfg.clusterPrefix ++ "-" ++ truncateString req.name maxLength ++
    (if req.ns ≠ "" then "-" ++ req.ns else "")

def derivedStorageGroupName (cfg : MetroConfig) (req : MetroRequest)
    (serviceLevel srpID : String) : String :=
  let name :=
    if req.applicationPrefix = "" then
      csiPrefix ++ "-" ++ cfg.clusterPrefix ++ "-" ++ serviceLevel ++ "-" ++ srpID ++ "-SG"
    else csiPrefix ++ "-" ++ cfg.clusterPrefix ++ "-" ++ req.applicationPrefix ++ "-" ++
      serviceLevel ++ "-" ++ srpID ++ "-SG"
  if req.hostLimitName ≠ "" then name ++ "-" ++ req.hostLimitName else name

def localStorageGroupName (cfg : MetroConfig) (req : MetroRequest) : String :=
  if req.storageGroupName = "" then
    derivedStorageGroupName cfg req req.serviceLevel req.storagePoolID
  else req.storageGroupName

/-- The storage group on the remote array; it has no name if that of the local one is given. -/
def remoteStorageGroupName (cfg : MetroConfig) (req : MetroRequest) : String :=
  if req.storageGroupName = "" then
    derivedStorageGroupName cfg req req.remoteServiceLevel req.remoteSRPID
  else ""

namespace MetroRequest

def localProtectionGroupID (req : MetroRequest) : String :=
  buildProtectionGroupID req.ns req.localRDFGrpNo metro

def remoteProtectionGroupID (req : MetroRequest) : String :=
  buildProtectionGroupID req.ns req.remoteRDFGrpNo metro

end MetroRequest

def metroHandle (identifier symID remoteSymID devID remoteDevID : String) : String :=
  identifier ++ "-" ++ symID ++ ":" ++ remoteSymID ++ "-" ++ devID ++ ":" ++ remoteDevID

structure Source where
  (srcVolID srcSnapID snapID volContent : String)
  srcVol : Option SizedVolume
deriving DecidableEq, Repr

def Source.none : Source := ⟨"", "", "", "", .none⟩

def lookUpSource (req : MetroRequest) (requiredCylinders : Nat) (source : Source)
    (symmID srcDevID : String) : RepProg (Except Failure Source) := do
  match ← Prog.ask (RepCall.isSnapshotLicensed symmID) with
  | some err => return .error (.failed (.status err))
  | none =>
    if srcDevID ≠ "" ∧ symmID ≠ "" then
      if symmID ≠ req.symID then
        return .error (failedWith .invalidArgument
          "The volume content source is in different PowerMax array")
      else
        match ← Prog.ask (RepCall.getVolumeByID req.symID srcDevID) with
        | .error err => return .error (failedWith .invalidArgument
            ("Volume content source volume couldn't be found in the array: " ++ err.text))
        | .ok srcVol =>
          if requiredCylinders < srcVol.capacityCYL then
            return .error (failedWith .invalidArgument
              "Requested capacity is smaller than the source")
          else return .ok { source with srcVol := some srcVol }
    else return .ok source

def contentSource (req : MetroRequest) (requiredCylinders : Nat) :
    RepProg (Except Failure Source) :=
  match req.contentSource with
  | none => return .ok .none
  | some .missing => return .error (failedWith .invalidArgument
      "VolumeContentSource is missing volume and snapshot source")
  | some (.volume srcVolID) =>
    if srcVolID = "" then lookUpSource req requiredCylinders .none "" ""
    else
      match parseCsiID srcVolID with
      | .panics => return .error .panics
      | .malformed _ => return .error (failedWith .invalidArgument
          "Source volume identifier not in supported format")
      | .ok id => lookUpSource req requiredCylinders ⟨srcVolID, "", "", srcVolID, none⟩
          id.arrayID id.devID
  | some (.snapshot srcSnapID) =>
    if srcSnapID = "" then lookUpSource req requiredCylinders .none "" ""
    else
      match parseCsiID srcSnapID with
      | .panics => return .error .panics
      | .malformed _ => return .error (failedWith .invalidArgument
          "Snapshot identifier not in supported format")
      | .ok id => lookUpSource req requiredCylinders ⟨"", srcSnapID, id.volName, id.volName, none⟩
          id.arrayID id.devID

def linkVolume (req : MetroRequest) (srcVol vol : SizedVolume) : RepProg (Option String) := do
  if ← Prog.ask (RepCall.isV4OrAbove req.symID) then
    Prog.ask (RepCall.linkSRDFCloneVolume req.symID srcVol.volumeID vol.volumeID
      req.localProtectionGroupID req.localRDFGrpNo)
  else
    Prog.ask (RepCall.linkSRDFVolToVolume req.symID srcVol.volumeID vol.volumeID
      req.localProtectionGroupID req.localRDFGrpNo)

def linkSource (req : MetroRequest) (source : Source) (vol : SizedVolume) :
    RepProg (Except Failure Unit) := do
  if source.srcSnapID ≠ "" then
    match source.srcVol with
    | none => return .error .panics
    | some srcVol =>
      match ← Prog.ask (RepCall.linkSRDFVolToSnapshot req.symID srcVol.volumeID source.snapID
          req.localProtectionGroupID req.localRDFGrpNo vol.volumeID) with
      | some err => return .error (.failed (.status err))
      | none => return .ok ()
  else if source.srcVolID ≠ "" then
    match source.srcVol with
    | none => return .error .panics
    | some srcVol =>
      match ← linkVolume req srcVol vol with
      | some err => return .error (internal ("Failed to create SRDF volume from volume (" ++
          err ++ ")"))
      | none => return .ok ()
  else return .ok ()

structure Scan where
  storageGroupName : String
  /-- `vol`, the device that was read last. -/
  vol : Option SizedVolume
  (alreadyExists isLocalVolumePresent : Bool)
deriving DecidableEq, Repr

inductive Scanned where
  | done (response : CreateResponse)
  | next (scan : Scan)
deriving DecidableEq, Repr

/-- The name becomes the last storage group that contains it; `none` if there is none. -/
def matchStorageGroups (storageGroupName : String) (ids : List String) : Option String :=
  let step (found : Bool × String) (sgid : String) : Bool × String :=
    if contains sgid found.2 then (true, sgid) else found
  match ids.foldl step (false, storageGroupName) with
  | (true, name) => some name
  | (false, _) => none

/-- The remote device of a device that matches; `none` if it has none. -/
def remoteOf : Except PmaxError String → Except PmaxError (Option String)
  | .ok remoteVolumeID => .ok (if remoteVolumeID = "" then none else some remoteVolumeID)
  | .error err =>
    if contains err.text "The device must be an RDF device" then .ok none else .error err

def scanPair (cfg : MetroConfig) (req : MetroRequest) (source : Source) (scan : Scan)
    (vol : SizedVolume) (remoteVolumeID : String) : RepProg Scanned := do
  match ← Prog.ask (RepCall.getVolumeByID req.remoteSymID remoteVolumeID) with
  | .error err => return .done (.error (internal (
      "Error fetching remote volume for idempotence check: " ++ err.text)))
  | .ok remoteVol =>
    match ← Prog.ask (RepCall.syncRemoteVolumeIdentifier req.remoteSymID remoteVolumeID
        vol.volumeIdentifier) with
    | some err => return .done (.error (.failed (.status err)))
    | none =>
      if remoteVol.storageGroupIDList.length < 2 then
        return .next { scan with isLocalVolumePresent := true }
      else
        match ← (if source.volContent ≠ "" then linkSource req source vol
            else pure (.ok ())) with
        | .error failure => return .done (.error failure)
        | .ok () => return .done (.ok
            { volumeID := metroHandle (volumeIdentifier cfg req) req.symID req.remoteSymID
                vol.volumeID remoteVolumeID
              capacityCYL := vol.capacityCYL
              storageGroup := scan.storageGroupName
              remoteVolumeID := remoteVolumeID })

def scanVolume (cfg : MetroConfig) (req : MetroRequest) (source : Source)
    (requiredCylinders : Nat) (scan : Scan) (volumeID : String) : RepProg Scanned := do
  match ← Prog.ask (RepCall.getVolumeByID req.symID volumeID) with
  | .error err => return .done (.error (internal (
      "Error fetching volume for idempotence check: " ++ err.text)))
  | .ok vol =>
    if vol.storageGroupIDList.length < 1 then
      return .done (.error (internal ("Idempotence check: StorageGroupIDList is empty for (" ++
        volumeID ++ ")")))
    else
      match matchStorageGroups scan.storageGroupName vol.storageGroupIDList with
      | none => return .next { scan with vol := some vol }
      | some name =>
        let scan := { scan with storageGroupName := name, vol := some vol }
        if !volumeIdentifiersMatch (volumeIdentifier cfg req) vol.volumeIdentifier then
          return .next scan
        else if vol.capacityCYL ≠ requiredCylinders then
          return .next { scan with alreadyExists := true }
        else
          match remoteOf (← Prog.ask (RepCall.getRDFDevicePairInfo req.symID
              req.localRDFGrpNo vol.volumeID)) with
          | .error err => return .done (.error (internal (
              "Failed to fetch rdf pair information for (" ++ vol.volumeID ++ ") - Error (" ++
                err.text ++ ")")))
          | .ok none => return .next { scan with isLocalVolumePresent := true }
          | .ok (some remoteVolumeID) => scanPair cfg req source scan vol remoteVolumeID

def scanVolumes (cfg : MetroConfig) (req : MetroRequest) (source : Source)
    (requiredCylinders : Nat) : Scan → List String → RepProg Scanned
  | scan, [] => return .next scan
  | scan, volumeID :: rest => do
    match ← scanVolume cfg req source requiredCylinders scan volumeID with
    | .done response => return .done response
    | .next scan => scanVolumes cfg req source requiredCylinders scan rest

def errQueueFull : String := "deferred operation queue is full"

def deferPairing (cfg : MetroConfig) (op : MetroPairingOp) : RepProg (Except String String) := do
  if !cfg.volumeJournal then
    return .error "Metro site failure handling disabled: CRD journal unavailable"
  else
    let op :=
      { op with
        driverName := if op.driverName = "" then cfg.driverName else op.driverName
        instanceUID := if op.instanceUID = "" then cfg.instanceUID else op.instanceUID }
    let qs ← Prog.ask RepCall.getQueueStatus
    if qs.atLimit then
      Prog.ask (RepCall.emitMetroEvent "MetroQueueFull")
      return .error errQueueFull
    else if qs.atWarning then
      Prog.ask (RepCall.emitMetroEvent "MetroQueueDepthWarning")
      Prog.ask (RepCall.createDeferredOperation op)
    else Prog.ask (RepCall.createDeferredOperation op)

def pairingOp (cfg : MetroConfig) (req : MetroRequest) (vol : SizedVolume) : MetroPairingOp where
  volumeID := metroHandle (volumeIdentifier cfg req) req.symID req.remoteSymID vol.volumeID ""
  arrayID := req.remoteSymID
  rdfGroupNo := req.localRDFGrpNo
  remoteRDFGroupNo := req.remoteRDFGrpNo
  storageGroupName := req.localProtectionGroupID
  remoteStorageGroupName := req.remoteProtectionGroupID
  remoteSRP := req.remoteSRPID
  remoteServiceLevel := req.remoteServiceLevel
  requiredCylinders := vol.capacityCYL
  volumeName := req.name
  ns := req.ns
  replicationMode := metro
  localSymID := req.symID
  driverName := cfg.driverName
  instanceUID := cfg.instanceUID

def enterDegradedMode (cfg : MetroConfig) (req : MetroRequest) (storageGroupName : String)
    (vol : SizedVolume) : RepProg CreateResponse := do
  Prog.ask (RepCall.emitMetroEvent "MetroDegradedStateEntry")
  let _ ← Prog.ask (RepCall.removeVolumesFromStorageGroup req.symID req.localProtectionGroupID
    vol.volumeID)
  match ← deferPairing cfg (pairingOp cfg req vol) with
  | .error deferErr =>
    let _ ← Prog.ask (RepCall.deleteVolume req.symID vol.volumeID)
    return .error (internal ("Failed to queue Metro re-pairing operation: " ++ deferErr ++
      ". Local volume rolled back."))
  | .ok _ => return (.ok
      { volumeID := (pairingOp cfg req vol).volumeID
        capacityCYL := vol.capacityCYL
        storageGroup := storageGroupName
        remoteVolumeID := "" })

/-- The remote volume is put into its storage groups, and the response is made. -/
def completePair (cfg : MetroConfig) (req : MetroRequest) (source : Source)
    (storageGroupName : String) (vol : SizedVolume) : RepProg CreateResponse := do
  match ← Prog.ask (RepCall.getRDFDevicePairInfo req.symID req.localRDFGrpNo vol.volumeID) with
  | .error err => return .error (.failed (.plain err.text))
  | .ok remoteVolumeID =>
    match ← Prog.ask (RepCall.getStorageGroup req.remoteSymID req.remoteProtectionGroupID) with
    | .error err => return .error (internal ("Failed to fetch remote PSG details " ++ err.text))
    | .ok none => return .error .panics
    | .ok (some r2PSG) =>
      match ← (if r2PSG.srp ≠ "" ∧ r2PSG.srp ≠ "NONE" then
          Prog.ask (RepCall.updateStorageGroupS req.remoteSymID req.remoteProtectionGroupID "NONE")
        else pure (.ok ())) with
      | .error err => return .error (internal ("Failed to Update Remote SG SRP to NONE: " ++
          err.text))
      | .ok () =>
        match ← Prog.ask (RepCall.addVolumesToStorageGroupS req.remoteSymID
            (remoteStorageGroupName cfg req) remoteVolumeID) with
        | .error err => return .error (internal ("Could not add volume in SG on R2: " ++
            remoteVolumeID ++ ": " ++ err.text))
        | .ok () =>
          match ← Prog.ask (RepCall.syncRemoteVolumeIdentifier req.remoteSymID
              remoteVolumeID vol.volumeIdentifier) with
          | some err => return .error (.failed (.status err))
          | none =>
            match ← linkSource req source vol with
            | .error failure => return .error failure
            | .ok () => return (.ok
                { volumeID := metroHandle (volumeIdentifier cfg req) req.symID
                    req.remoteSymID vol.volumeID remoteVolumeID
                  capacityCYL := vol.capacityCYL
                  storageGroup := storageGroupName
                  remoteVolumeID := remoteVolumeID })

inductive Protection where
  | done (response : CreateResponse)
  | paired
  | degraded
deriving DecidableEq, Repr

def isRemoteUnreachable (cfg : MetroConfig) (req : MetroRequest) (err : DriverError) :
    RepProg Bool := do
  if !cfg.metroSiteFailureHandling then return false
  else if isConnectivityError err.text false then return true
  else return (← Prog.ask (RepCall.getState req.remoteSymID)) = .unreachable

/-- The storage group is protected, unless the remote array cannot be reached. -/
def protect (cfg : MetroConfig) (req : MetroRequest) (vol : SizedVolume) : RepProg Protection := do
  match ← protectStorageGroup req.symID req.remoteSymID req.localProtectionGroupID
      req.remoteProtectionGroupID "" req.localRDFGrpNo metro (req.bias = "true") with
  | .ok () => return .paired
  | .error .panics => return .done (.error .panics)
  | .error (.failed err) =>
    if ← isRemoteUnreachable cfg req err then return .degraded
    else
      let _ ← Prog.ask (RepCall.removeVolumesFromStorageGroup req.symID
        req.localProtectionGroupID vol.volumeID)
      return .done (.error (.failed err))

def preflight (cfg : MetroConfig) (req : MetroRequest) : RepProg (Except GrpcError Bool) := do
  if cfg.metroSiteFailureHandling then
    match ← Prog.ask (RepCall.logMetroStateCheck req.symID req.remoteSymID req.localRDFGrpNo
        req.remoteRDFGrpNo) with
    | some err => return .error err
    | none => return .ok ((← Prog.ask (RepCall.getState req.remoteSymID)) = .unreachable)
  else return .ok false

def protectVolume (cfg : MetroConfig) (req : MetroRequest) (source : Source)
    (isSGUnprotected : Bool) (storageGroupName : String) (vol : SizedVolume) :
    RepProg CreateResponse := do
  if isSGUnprotected then
    match ← preflight cfg req with
    | .error err => return .error (.failed (.status err))
    | .ok remoteUnreachable =>
      match ← (if remoteUnreachable then pure .degraded else protect cfg req vol) with
      | .done response => return response
      | .degraded => enterDegradedMode cfg req storageGroupName vol
      | .paired => completePair cfg req source storageGroupName vol
  else completePair cfg req source storageGroupName vol

def addProtected (cfg : MetroConfig) (req : MetroRequest) (source : Source)
    (isSGUnprotected : Bool) (storageGroupName : String) (vol : SizedVolume) :
    RepProg CreateResponse := do
  match ← (if getProtectedStorageGroupID vol.storageGroupIDList
        (req.localRDFGrpNo ++ "-" ++ metro) = "" then
      addVolumesToProtectedStorageGroup req.symID req.localProtectionGroupID req.remoteSymID
        req.remoteProtectionGroupID vol.volumeID
    else pure (.ok ())) with
  | .error failure => return .error failure
  | .ok () => protectVolume cfg req source isSGUnprotected storageGroupName vol

/-- The listed devices are scanned, and the device is created unless it is there. -/
def createDevice (cfg : MetroConfig) (req : MetroRequest) (source : Source)
    (requiredCylinders : Nat) (isSGUnprotected : Bool) : RepProg CreateResponse := do
  let identifier := volumeIdentifier cfg req
  match ← Prog.ask (RepCall.getVolumeIDList req.symID identifier) with
  | .error err => return .error (internal ("Error looking up volume for idempotence check: " ++
      err.text))
  | .ok volumeIDList =>
    match ← scanVolumes cfg req source requiredCylinders
        ⟨localStorageGroupName cfg req, none, false, false⟩ volumeIDList with
    | .done response => return response
    | .next scan =>
      if scan.alreadyExists then
        return .error (failedWith .alreadyExists ("A volume with the same name " ++ req.name ++
          " exists but has a different size than requested. Use a different name."))
      else if scan.isLocalVolumePresent then
        match scan.vol with
        | none => return .error .panics
        | some vol => addProtected cfg req source isSGUnprotected scan.storageGroupName vol
      else
        match ← Prog.ask (RepCall.createVolumeInStorageGroupS req.symID scan.storageGroupName
            identifier requiredCylinders) with
        | .error err => return .error (internal ("Could not create volume: " ++ req.name ++
            ": " ++ err.text))
        | .ok vol => addProtected cfg req source isSGUnprotected scan.storageGroupName vol

def ensureMetroStorageGroup (req : MetroRequest) (symID storageGroupName srpID serviceLevel : String) :
    RepProg (Option Failure) := do
  match ← Prog.ask (RepCall.getStorageGroup symID storageGroupName) with
  | .ok (some _) => return none
  | _ =>
    let limits := if req.hostLimits = ⟨"", "", ""⟩ then none else some req.hostLimits
    match ← Prog.ask (RepCall.createStorageGroup symID storageGroupName srpID serviceLevel
        (req.thick = "true") limits) with
    | .error err => return some (internal ("Error creating storage group: " ++ err.text))
    | .ok () => return none

def createInGroups (cfg : MetroConfig) (req : MetroRequest) (source : Source)
    (requiredCylinders : Nat) (isSGUnprotected : Bool) : RepProg CreateResponse := do
  match ← ensureMetroStorageGroup req req.symID (localStorageGroupName cfg req) req.storagePoolID
      req.serviceLevel with
  | some failure => return .error failure
  | none =>
    match ← ensureMetroStorageGroup req req.remoteSymID (remoteStorageGroupName cfg req)
        req.remoteSRPID req.remoteServiceLevel with
    | some failure => return .error failure
    | none => createDevice cfg req source requiredCylinders isSGUnprotected

def createProtected (cfg : MetroConfig) (req : MetroRequest) (source : Source)
    (requiredCylinders : Nat) : RepProg CreateResponse := do
  match ← getOrCreateProtectedStorageGroup req.symID req.localProtectionGroupID req.localRDFGrpNo
      metro with
  | .error .panics => return .error .panics
  | .error (.failed err) => return .error (internal (
      "Error in getOrCreateProtectedStorageGroup: (" ++ err.text ++ ")"))
  | .ok true =>
    match ← verifyProtectedGroupDirection req.symID req.localProtectionGroupID
        req.localRDFGrpNo with
    | .error failure => return .error failure
    | .ok () => createInGroups cfg req source requiredCylinders false
  | .ok false => createInGroups cfg req source requiredCylinders true

def createMetroVolume (cfg : MetroConfig) (req : MetroRequest) : RepProg CreateResponse := do
  match ← Prog.ask (RepCall.getPowerMaxClient req.symID req.remoteSymID) with
  | .error err => return .error (failedWith .notFound err)
  | .ok () =>
    match ← Prog.ask (RepCall.validateVolSize req.symID req.storagePoolID) with
    | .error err => return .error (.failed (.status err))
    | .ok requiredCylinders =>
      match ← Prog.ask (RepCall.validateVolSize req.remoteSymID req.remoteSRPID) with
      | .error err => return .error (.failed (.status err))
      | .ok _ =>
        match ← contentSource req requiredCylinders with
        | .error failure => return .error failure
        | .ok source =>
          if req.isBlock && !cfg.enableBlock then
            return .error (failedWith .invalidArgument "Block Volume Capability is not supported")
          else if req.name = "" then
            return .error (failedWith .invalidArgument "Name cannot be empty")
          else createProtected cfg req source requiredCylinders

end PowerMaxCsi.Service
