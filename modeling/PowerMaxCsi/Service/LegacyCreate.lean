import PowerMaxCsi.Service.CreateMetroVolume
import PowerMaxCsi.Service.DynamicSG
import PowerMaxCsi.Service.VolumeSize

/-!
# Creating a volume on an array before 10.4

`Create` of the legacy volume creator in `service/volume_creator.go`, from where the parameters are
resolved.  The links to a content source, the pool check, the choice of an RDF group and file
systems are calls.  Attributes that are formatted from a number or the time, and the topology, are
left out.
-/

namespace PowerMaxCsi.Service

open Strings

structure SizedVolumeEnhanced extends VolumeEnhanced where
  capCyl : Rat
deriving DecidableEq, Repr

inductive CreateCall where
  | rep (call : RepCall)
  | getPowerMaxClient (symID : String)
  | validateStoragePoolID (symID storagePoolID : String)
  | getOrCreateRDFGroup (symID remoteSymID repMode ns : String)
  | createFileSystem (symID storagePoolID serviceLevel volumeIdentifier : String)
  | getStorageGroupVolumeCounts (symID storageGroupMatch : String)
  | getVolumesByIdentifier (symID volumeIdentifier : String)
  | unlinkTargets (symID srcDevID : String)
  | linkVolumeToSnapshot (symID srcDevID tgtDevID snapID : String)
  | cloneVolumeFromVolume (symID sourceVolumeName targetVolumeName : String)
  | linkVolumeToVolume (symID srcDevID tgtDevID : String)
deriving DecidableEq, Repr

abbrev CreateAnswer : CreateCall → Type
  | .rep call => RepAnswer call
  | .getPowerMaxClient _ => Except String Unit
  | .validateStoragePoolID _ _ => Option String
  | .getOrCreateRDFGroup _ _ _ _ => Except String (String × String)
  | .createFileSystem _ _ _ _ => Except GrpcError String
  | .getStorageGroupVolumeCounts _ _ => Except PmaxError (List SGVolumeCount)
  | .getVolumesByIdentifier _ _ => Except PmaxError (List SizedVolumeEnhanced)
  | .unlinkTargets _ _ => Option String
  | .linkVolumeToSnapshot _ _ _ _ => Option String
  | .cloneVolumeFromVolume _ _ _ => Option String
  | .linkVolumeToVolume _ _ _ => Option String

abbrev CreateProg := Prog CreateCall CreateAnswer

def replicating {α : Type} (p : RepProg α) : CreateProg α := p.through CreateCall.rep fun _ r => r

structure LegacyConfig extends MetroConfig where
  (dynamicSGEnabled isVsphereEnabled : Bool)
  sgVolumeLimit : Int
deriving DecidableEq, Repr

structure LegacyRequest extends MetroRequest where
  apiVersion : Int
  replicationEnabled : Bool
  repMode : String
  useNFS : Bool
  symmIDFoundInAZ : Bool
  metroSiteLabels : Bool
deriving DecidableEq, Repr

namespace LegacyRequest

def localProtectionGroupID (req : LegacyRequest) : String :=
  buildProtectionGroupID req.ns req.localRDFGrpNo req.repMode

def remoteProtectionGroupID (req : LegacyRequest) : String :=
  buildProtectionGroupID req.ns req.remoteRDFGrpNo req.repMode

end LegacyRequest

structure ReplicationParams where
  (remoteSymID repMode remoteVolumeID localRDFGrpNo remoteRDFGrpNo : String)
deriving DecidableEq, Repr

structure VolumeContext where
  (serviceLevel storagePool symmetrixID contentSource storageGroup : String)
  zoneLabels : Bool
  replication : Option ReplicationParams
deriving DecidableEq, Repr

structure BlockVolume where
  volumeID : String
  capacityBytes : Int
  context : VolumeContext
deriving DecidableEq, Repr

inductive LegacyResponse where
  | block (vol : BlockVolume)
  | metro (vol : CreatedVolume)
  | fileSystem (volumeID : String)
deriving DecidableEq, Repr

def validSLO : List String :=
  ["Diamond", "Platinum", "Gold", "Silver", "Bronze", "Optimized", "None"]

/-- The parameters of the replication; the RDF groups are looked up unless one is given. -/
def resolveReplication (cfg : LegacyConfig) (req : LegacyRequest) :
    CreateProg (Except Failure LegacyRequest) := do
  if cfg.isVsphereEnabled then
    return .error (failedWith .unavailable "Replication on a vSphere volume is not supported")
  else if req.useNFS then
    return .error (failedWith .unavailable "Replication on a NFS volume is not supported")
  else if req.symmIDFoundInAZ ∧ req.repMode = metro ∧ ¬ req.metroSiteLabels then
    return .error (failedWith .invalidArgument
      "The use of Availability Zones with Metro volumes requires site labels on both arrays")
  else if req.localRDFGrpNo = "" ∧ req.remoteRDFGrpNo = "" then
    match ← Prog.ask (CreateCall.getOrCreateRDFGroup req.symID req.remoteSymID req.repMode
        req.ns) with
    | .error err => return .error (failedWith .notFound
        ("Received error get/create RDFG, err: " ++ err))
    | .ok (localRDFGrpNo, remoteRDFGrpNo) =>
      if localRDFGrpNo = "" ∨ remoteRDFGrpNo = "" then
        return .error (failedWith .unavailable
          "Can not fetch RDF Group for volume creation get/create RDFG")
      else
        let found := { req.toMetroRequest with localRDFGrpNo, remoteRDFGrpNo }
        return .ok { req with toMetroRequest := found }
  else return .ok req

def checkRequest (cfg : LegacyConfig) (req : LegacyRequest) :
    CreateProg (Except Failure LegacyRequest) := do
  match ← Prog.ask (CreateCall.validateStoragePoolID req.symID req.storagePoolID) with
  | some err => return .error (failedWith .invalidArgument err)
  | none =>
    if req.serviceLevel ∉ validSLO then
      return .error (failedWith .invalidArgument "An invalid Service Level parameter was specified")
    else if cfg.dynamicSGEnabled ∧ req.apiVersion < 101 then
      return .error (internal ("Dynamic SG is enabled, but not supported for array " ++
        req.symID ++ " with version " ++ toString req.apiVersion ++
        ". Minimum expected array version is 10.1"))
    else if req.isBlock ∧ ¬ cfg.enableBlock then
      return .error (failedWith .invalidArgument "Block Volume Capability is not supported")
    else if req.isBlock ∧ req.useNFS then
      return .error (failedWith .invalidArgument "NFS with Block is not supported")
    else if req.replicationEnabled then resolveReplication cfg req
    else return .ok req

def resolveVolume (req : LegacyRequest) : CreateProg (Except Failure (Nat × Source)) := do
  if req.replicationEnabled ∧ req.repMode ≠ async ∧ req.repMode ≠ sync then
    return .error (failedWith .invalidArgument ("Unsupported Replication Mode: (" ++ req.repMode ++
      ")"))
  else
    match ← Prog.ask (CreateCall.rep (.validateVolSize req.symID req.storagePoolID)) with
    | .error err => return .error (.failed (.status err))
    | .ok requiredCylinders =>
      if req.contentSource.isSome ∧ req.useNFS then
        return .error (failedWith .unavailable "Cloning on a NFS volume is not supported")
      else
        match ← replicating (contentSource req.toMetroRequest requiredCylinders) with
        | .error failure => return .error failure
        | .ok source =>
          if req.name = "" then
            return .error (failedWith .invalidArgument "Name cannot be empty")
          else return .ok (requiredCylinders, source)

def getDynamicSG (cfg : LegacyConfig) (arrayID baseSGName : String) :
    CreateProg (Except String (String × Bool)) := do
  match ← Prog.ask (CreateCall.getPowerMaxClient arrayID) with
  | .error err => return .error ("failed to get PowerMax client for array " ++ arrayID ++ ": " ++
      err)
  | .ok () =>
    match ← Prog.ask (CreateCall.getStorageGroupVolumeCounts arrayID baseSGName) with
    | .error err => return .error ("failed to get storage group volume counts for array " ++
        arrayID ++ ": " ++ err.text)
    | .ok storageGroups => return .ok (chooseSG cfg.sgVolumeLimit baseSGName storageGroups)

/-- **The choice of a storage group.**  `getDynamicSG` returns, and what it returns is right. -/
theorem getDynamicSG_chosen (cfg : LegacyConfig) (arrayID baseSGName : String)
    (hb : baseSGName ≠ "") (storageGroups : List SGVolumeCount) :
    ∃ chosen, Prog.Exec (getDynamicSG cfg arrayID baseSGName)
        [⟨.getPowerMaxClient arrayID, .ok ()⟩,
          ⟨.getStorageGroupVolumeCounts arrayID baseSGName, .ok storageGroups⟩] (.ok chosen) ∧
      chooseSGWithin (storageGroups.length + 1) cfg.sgVolumeLimit baseSGName storageGroups =
        some chosen ∧
      Chosen cfg.sgVolumeLimit baseSGName storageGroups chosen := by
  refine ⟨chooseSG cfg.sgVolumeLimit baseSGName storageGroups, ?_, ?_, ?_⟩
  · exact .call (.call .ret)
  · exact chooseSGWithin_eq _ _ _ (Nat.lt_succ_self _)
  · exact chosen_chooseSG hb storageGroups

/-- All groups are full, one of them with a suffix that is not written as a number is. -/
theorem getDynamicSG_chosen_full : "csi-SG" ≠ "" ∧ ∃ chosen,
    Prog.Exec (getDynamicSG ⟨⟨"ABC", true, false, false, "", ""⟩, true, false, 2⟩ "000197900046"
        "csi-SG")
      [⟨.getPowerMaxClient "000197900046", .ok ()⟩,
        ⟨.getStorageGroupVolumeCounts "000197900046" "csi-SG",
          .ok [⟨"csi-SG--007", 2⟩, ⟨"csi-SG", 3⟩, ⟨"csi-SG--1", 2⟩, ⟨"csi-SG-old", 0⟩]⟩]
      (.ok chosen) ∧
    chooseSGWithin 5 2 "csi-SG"
      [⟨"csi-SG--007", 2⟩, ⟨"csi-SG", 3⟩, ⟨"csi-SG--1", 2⟩, ⟨"csi-SG-old", 0⟩] = some chosen ∧
    Chosen 2 "csi-SG"
      [⟨"csi-SG--007", 2⟩, ⟨"csi-SG", 3⟩, ⟨"csi-SG--1", 2⟩, ⟨"csi-SG-old", 0⟩] chosen :=
  ⟨by decide, getDynamicSG_chosen ⟨⟨"ABC", true, false, false, "", ""⟩, true, false, 2⟩
    "000197900046" "csi-SG" (by decide)
    [⟨"csi-SG--007", 2⟩, ⟨"csi-SG", 3⟩, ⟨"csi-SG--1", 2⟩, ⟨"csi-SG-old", 0⟩]⟩

/-- The storage group of the volume, and whether it is known that it has to be created. -/
def chooseStorageGroup (cfg : LegacyConfig) (req : LegacyRequest) :
    CreateProg (Except Failure (String × Bool)) := do
  let storageGroupName := localStorageGroupName cfg.toMetroConfig req.toMetroRequest
  if cfg.dynamicSGEnabled then
    match ← getDynamicSG cfg req.symID storageGroupName with
    | .error err => return .error (internal err)
    | .ok chosen => return .ok chosen
  else return .ok (storageGroupName, false)

/-- The protected storage group is looked up; whether it is still unprotected. -/
def lookUpProtectedGroup (req : LegacyRequest) : CreateProg (Except Failure Bool) := do
  if ¬ req.replicationEnabled then return .ok false
  else
    match ← replicating (getOrCreateProtectedStorageGroup req.symID req.localProtectionGroupID
        req.localRDFGrpNo req.repMode) with
    | .error .panics => return .error .panics
    | .error (.failed err) => return .error (internal (
        "Error in getOrCreateProtectedStorageGroup: (" ++ err.text ++ ")"))
    | .ok true =>
      match ← replicating (verifyProtectedGroupDirection req.symID req.localProtectionGroupID
          req.localRDFGrpNo) with
      | .error failure => return .error failure
      | .ok () => return .ok false
    | .ok false => return .ok true

def storageGroupMissing (cfg : LegacyConfig) (req : LegacyRequest) (storageGroupName : String)
    (needCreation : Bool) : CreateProg Bool := do
  if cfg.dynamicSGEnabled then return needCreation
  else
    match ← Prog.ask (CreateCall.rep (.getStorageGroup req.symID storageGroupName)) with
    | .ok (some _) => return needCreation
    | _ => return true

def createMissingGroup (cfg : LegacyConfig) (req : LegacyRequest) (storageGroupName : String)
    (needCreation : Bool) : CreateProg (Option Failure) := do
  if ← storageGroupMissing cfg req storageGroupName needCreation then
    let limits := if req.hostLimits = ⟨"", "", ""⟩ then none else some req.hostLimits
    match ← Prog.ask (CreateCall.rep (.createStorageGroup req.symID storageGroupName
        req.storagePoolID req.serviceLevel (req.thick = "true") limits)) with
    | .error err => return some (internal ("Error creating storage group: " ++ err.text))
    | .ok () => return none
  else return none

structure Prepared where
  req : LegacyRequest
  volumeIdentifier : String
  requiredCylinders : Nat
  source : Source
  baseSGName : String
  storageGroupName : String
  (isSGUnprotected isV4 : Bool)
deriving DecidableEq, Repr

def prepareBlock (cfg : LegacyConfig) (req : LegacyRequest) (requiredCylinders : Nat)
    (source : Source) : CreateProg (Except Failure Prepared) := do
  match ← chooseStorageGroup cfg req with
  | .error failure => return .error failure
  | .ok (storageGroupName, needCreation) =>
    match ← lookUpProtectedGroup req with
    | .error failure => return .error failure
    | .ok isSGUnprotected =>
      match ← createMissingGroup cfg req storageGroupName needCreation with
      | some failure => return .error failure
      | none =>
        let isV4 ← Prog.ask (CreateCall.rep (.isV4OrAbove req.symID))
        return .ok
          { req, requiredCylinders, source, storageGroupName, isSGUnprotected, isV4
            volumeIdentifier := volumeIdentifier cfg.toMetroConfig req.toMetroRequest
            baseSGName := localStorageGroupName cfg.toMetroConfig req.toMetroRequest }

/-! ## Links to the content source -/

namespace Source

def parsed (source : Source) : ParsedID :=
  parseCsiID (if source.srcVolID ≠ "" then source.srcVolID else source.srcSnapID)

def symID (source : Source) : String :=
  match source.parsed with
  | .ok id => id.arrayID
  | _ => ""

def srcDevID (source : Source) : String :=
  match source.parsed with
  | .ok id => id.devID
  | _ => ""

end Source

namespace Prepared

def linkSRDFSnapshot (prep : Prepared) (vol : Option SizedVolume) :
    CreateProg (Except Failure Unit) := do
  match prep.source.srcVol, vol with
  | some srcVol, some vol =>
    match ← Prog.ask (CreateCall.rep (.linkSRDFVolToSnapshot prep.source.symID srcVol.volumeID
        prep.source.snapID prep.req.localProtectionGroupID prep.req.localRDFGrpNo
        vol.volumeID)) with
    | some err => return .error (.failed (.status err))
    | none => return .ok ()
  | _, _ => return .error .panics

/-- `LinkSRDFCloneVolume` checks its pointers, `LinkSRDFVolToVolume` does not. -/
def linkSRDFVolume (prep : Prepared) (isV4 : Bool) (vol : Option SizedVolume) :
    CreateProg (Except Failure Unit) := do
  let failed (err : String) : Failure :=
    internal ("Failed to create SRDF volume from volume (" ++ err ++ ")")
  match prep.source.srcVol, vol with
  | some srcVol, some vol =>
    match ← (if isV4 then
        Prog.ask (CreateCall.rep (.linkSRDFCloneVolume prep.source.symID srcVol.volumeID
          vol.volumeID prep.req.localProtectionGroupID prep.req.localRDFGrpNo))
      else
        Prog.ask (CreateCall.rep (.linkSRDFVolToVolume prep.source.symID srcVol.volumeID
          vol.volumeID prep.req.localProtectionGroupID prep.req.localRDFGrpNo))) with
    | some err => return .error (failed err)
    | none => return .ok ()
  | none, _ =>
    if isV4 then
      return .error (failed (GrpcError.text ⟨.invalidArgument, "Source volume is nil"⟩))
    else return .error .panics
  | some _, none =>
    if isV4 then
      return .error (failed (GrpcError.text ⟨.invalidArgument, "Target volume is nil"⟩))
    else return .error .panics

def linkSnapshot (prep : Prepared) (volumeID : String) : CreateProg (Except Failure Unit) := do
  match ← Prog.ask (CreateCall.unlinkTargets prep.source.symID prep.source.srcDevID) with
  | some err => return .error (internal ("Failed unlink existing target from snapshot (" ++ err ++
      ")"))
  | none =>
    match prep.source.srcVol with
    | none => return .error .panics
    | some srcVol =>
      match ← Prog.ask (CreateCall.linkVolumeToSnapshot prep.source.symID srcVol.volumeID
          volumeID prep.source.snapID) with
      | some err => return .error (internal ("Failed to create volume from snapshot (" ++
          err ++ ")"))
      | none => return .ok ()

def linkVolume (prep : Prepared) (volumeID : String) : CreateProg (Except Failure Unit) := do
  let isV4 ← Prog.ask (CreateCall.rep (.isV4OrAbove prep.source.symID))
  match prep.source.srcVol with
  | none => return .error .panics
  | some srcVol =>
    match ← (if isV4 then
        Prog.ask (CreateCall.cloneVolumeFromVolume prep.source.symID srcVol.volumeID volumeID)
      else
        Prog.ask (CreateCall.linkVolumeToVolume prep.source.symID srcVol.volumeID
          volumeID)) with
    | some err => return .error (internal ("Failed to create volume from volume (" ++ err ++
        ")"))
    | none => return .ok ()

end Prepared

/-! ## Devices of earlier requests -/

inductive Check where
  | noGroups
  /-- It is in another storage group, or has another identifier. -/
  | other
  | otherSize
  | passes
deriving DecidableEq, Repr

/-- The checks of a device against the name of a storage group, an identifier and a size. -/
def idempotenceCheck (sameIdentifier : String → Bool) (requiredCylinders : Rat)
    (storageGroupName : String) (vol : SizedVolumeEnhanced) : Check :=
  if vol.storageGroups.length < 1 then .noGroups
  else if (matchStorageGroups storageGroupName vol.storageGroups).isNone then .other
  else if !sameIdentifier vol.identifier then .other
  else if vol.capCyl ≠ requiredCylinders then .otherSize
  else .passes

def nameAfter (storageGroupName : String) (ids : List String) : String :=
  (matchStorageGroups storageGroupName ids).getD storageGroupName

inductive Verdict where
  | failed (failure : Failure)
  | existing (vol : SizedVolumeEnhanced) (response : BlockVolume)
  | next (scan : Scan)
deriving DecidableEq, Repr

def SizedVolume.listed (vol : SizedVolume) : SizedVolumeEnhanced where
  id := vol.volumeID
  identifier := vol.volumeIdentifier
  storageGroups := vol.storageGroupIDList
  capCyl := vol.capacityCYL

/-- The volume that is made of a listed device: its size in cylinders is not set. -/
def SizedVolumeEnhanced.toVolume (eachVol : SizedVolumeEnhanced) : SizedVolume where
  volumeID := eachVol.id
  volumeIdentifier := eachVol.identifier
  storageGroupIDList := eachVol.storageGroups.filter (· ≠ "")
  snapSource := false
  snapTarget := false
  numberOfFrontEndPaths := 0
  capacityCYL := 0

namespace Prepared

def sameIdentifier (prep : Prepared) (identifier : String) : Bool :=
  identifier = prep.volumeIdentifier || contains identifier prep.volumeIdentifier

def check (prep : Prepared) (storageGroupName : String) (vol : SizedVolumeEnhanced) : Check :=
  idempotenceCheck prep.sameIdentifier prep.requiredCylinders storageGroupName vol

def enhanced (prep : Prepared) : Bool := prep.req.apiVersion ≥ 103 && prep.isV4

/-- The remote device; `none` if the volume is replicated and there is none. -/
def remoteVolume (prep : Prepared) (volumeID : String) :
    CreateProg (Except Failure (Option String)) := do
  if ¬ prep.req.replicationEnabled then return .ok (some "")
  else
    match remoteOf (← Prog.ask (CreateCall.rep (.getRDFDevicePairInfo prep.req.symID
        prep.req.localRDFGrpNo volumeID))) with
    | .error err => return .error (internal ("Failed to fetch rdf pair information for (" ++
        volumeID ++ ") - Error (" ++ err.text ++ ")"))
    | .ok remote => return .ok remote

/-- A device that is there is linked.  The scans differ in the volume of a replicated link, and in a
device without an ID. -/
def linkExisting (prep : Prepared) (vol : Option SizedVolume) (volumeID : String) :
    CreateProg (Except Failure Unit) := do
  if prep.source.volContent = "" then return .ok ()
  else if prep.req.replicationEnabled then
    if prep.source.srcSnapID ≠ "" then prep.linkSRDFSnapshot vol
    else if prep.source.srcVolID ≠ "" then
      let isV4 ← (if prep.enhanced then
          Prog.ask (CreateCall.rep (.isV4OrAbove prep.source.symID)) else pure prep.isV4)
      prep.linkSRDFVolume isV4 vol
    else return .ok ()
  else if prep.source.srcSnapID ≠ "" then prep.linkSnapshot volumeID
  else if prep.source.srcVolID ≠ "" ∧ ¬ (prep.enhanced ∧ volumeID = "") then
    prep.linkVolume volumeID
  else return .ok ()

def context (prep : Prepared) (storageGroupName : String) (zoneLabels : Bool)
    (remoteVolumeID : String) : VolumeContext where
  serviceLevel := prep.req.serviceLevel
  storagePool := prep.req.storagePoolID
  symmetrixID := prep.req.symID
  contentSource := prep.source.volContent
  storageGroup := storageGroupName
  zoneLabels := zoneLabels
  replication :=
    if prep.req.replicationEnabled then
      some ⟨prep.req.remoteSymID, prep.req.repMode, remoteVolumeID, prep.req.localRDFGrpNo,
        prep.req.remoteRDFGrpNo⟩
    else none

def handle (prep : Prepared) (identifier volumeID : String) : String :=
  identifier ++ "-" ++ prep.req.symID ++ "-" ++ volumeID

def existingVolume (prep : Prepared) (vol : SizedVolumeEnhanced) (context : VolumeContext) :
    BlockVolume where
  volumeID := prep.handle vol.identifier vol.id
  capacityBytes := vol.capCyl.num.tdiv vol.capCyl.den * cylinderSizeInBytes
  context := context

/-- After a device was read: `present` is the state for one without a remote device, `target` the
volume of a replicated link. -/
def scanDevice (prep : Prepared) (scan : Scan) (listedID : String) (vol : SizedVolumeEnhanced)
    (present : Scan → Scan) (target : Option SizedVolume) (zoneLabels : Bool) :
    CreateProg Verdict := do
  let name := nameAfter scan.storageGroupName vol.storageGroups
  let scan' := { scan with storageGroupName := name }
  match prep.check scan.storageGroupName vol with
  | .noGroups => return .failed (internal (
      "Idempotence check: StorageGroupIDList is empty for (" ++ listedID ++ ")"))
  | .other => return .next scan'
  | .otherSize => return .next { scan' with alreadyExists := true }
  | .passes =>
    match ← prep.remoteVolume vol.id with
    | .error failure => return .failed failure
    | .ok none => return .next (present { scan' with isLocalVolumePresent := true })
    | .ok (some remoteVolumeID) =>
      match ← prep.linkExisting target vol.id with
      | .error failure => return .failed failure
      | .ok () =>
        let context := prep.context name zoneLabels remoteVolumeID
        return .existing vol (prep.existingVolume vol context)

def scanEnhanced (prep : Prepared) (scan : Scan) (eachVol : SizedVolumeEnhanced) :
    CreateProg Verdict :=
  prep.scanDevice scan eachVol.id eachVol (fun scan => { scan with vol := some eachVol.toVolume })
    scan.vol false

/-- The device becomes the volume of the request, whatever the checks say. -/
def scanByID (prep : Prepared) (scan : Scan) (volumeID : String) : CreateProg Verdict := do
  match ← Prog.ask (CreateCall.rep (.getVolumeByID prep.req.symID volumeID)) with
  | .error err => return .failed (internal ("Error fetching volume for idempotence check: " ++
      err.text))
  | .ok vol =>
    let scan := { scan with vol := some vol }
    prep.scanDevice scan volumeID vol.listed id (some vol) prep.req.symmIDFoundInAZ

end Prepared

def scanAll {β : Type} (step : Scan → β → CreateProg Verdict) : Scan → List β → CreateProg Verdict
  | scan, [] => return .next scan
  | scan, vol :: rest => do
    match ← step scan vol with
    | .next scan => scanAll step scan rest
    | verdict => return verdict

namespace Prepared

def start (prep : Prepared) : Scan := ⟨prep.storageGroupName, none, false, false⟩

def idempotencyScan (prep : Prepared) : CreateProg Verdict := do
  if prep.enhanced then
    match ← Prog.ask (CreateCall.getVolumesByIdentifier prep.req.symID prep.volumeIdentifier) with
    | .error err => return .failed (internal (
        "Error  getting the volumes for idempotence check: " ++ err.text))
    | .ok volumes => scanAll prep.scanEnhanced prep.start volumes
  else
    match ← Prog.ask (CreateCall.rep (.getVolumeIDList prep.req.symID prep.volumeIdentifier)) with
    | .error err => return .failed (internal (
        "Error looking up volume for idempotence check: " ++ err.text))
    | .ok volumeIDList => scanAll prep.scanByID prep.start volumeIDList

def protectNew (prep : Prepared) (vol : SizedVolume) : CreateProg (Except Failure Unit) := do
  let req := prep.req
  match ← replicating (protectStorageGroup req.symID req.remoteSymID req.localProtectionGroupID
      req.remoteProtectionGroupID "" req.localRDFGrpNo req.repMode false) with
  | .ok () => return .ok ()
  | .error failure =>
    let _ ← Prog.ask (CreateCall.rep (.removeVolumesFromStorageGroup req.symID
      req.localProtectionGroupID vol.volumeID))
    return .error failure

def replicate (prep : Prepared) (vol : SizedVolume) : CreateProg (Except Failure Unit) := do
  let req := prep.req
  if ¬ req.replicationEnabled then return .ok ()
  else
    match ← (if getProtectedStorageGroupID vol.storageGroupIDList
          (req.localRDFGrpNo ++ "-" ++ req.repMode) = "" then
        replicating (addVolumesToProtectedStorageGroup req.symID req.localProtectionGroupID
          req.remoteSymID req.remoteProtectionGroupID vol.volumeID)
      else pure (.ok ())) with
    | .error failure => return .error failure
    | .ok () => if prep.isSGUnprotected then prep.protectNew vol else return .ok ()

def linkNew (prep : Prepared) (vol : SizedVolume) : CreateProg (Except Failure Unit) := do
  if prep.req.contentSource.isNone then return .ok ()
  else if prep.source.srcVolID ≠ "" then
    if prep.req.replicationEnabled then
      prep.linkSRDFVolume (← Prog.ask (CreateCall.rep (.isV4OrAbove prep.source.symID))) (some vol)
    else prep.linkVolume vol.volumeID
  else if prep.source.srcSnapID ≠ "" then
    if prep.req.replicationEnabled then prep.linkSRDFSnapshot (some vol)
    else prep.linkSnapshot vol.volumeID
  else return .ok ()

def remoteOfNew (prep : Prepared) (vol : SizedVolume) : CreateProg (Except Failure String) := do
  if ¬ prep.req.replicationEnabled then return .ok ""
  else
    match ← Prog.ask (CreateCall.rep (.getRDFDevicePairInfo prep.req.symID prep.req.localRDFGrpNo
        vol.volumeID)) with
    | .error err => return .error (internal ("Failed to fetch rdf pair information for (" ++
        prep.handle vol.volumeIdentifier vol.volumeID ++ ") - Error (" ++ err.text ++ ")"))
    | .ok remoteVolumeID => return .ok remoteVolumeID

/-- The volume is there: it is replicated and linked, and the response is made. -/
def complete (prep : Prepared) (storageGroupName : String) (vol : SizedVolume) :
    CreateProg (Except Failure BlockVolume) := do
  match ← prep.replicate vol with
  | .error failure => return .error failure
  | .ok () =>
    match ← prep.linkNew vol with
    | .error failure => return .error failure
    | .ok () =>
      match ← prep.remoteOfNew vol with
      | .error failure => return .error failure
      | .ok remoteVolumeID => return (.ok
          { volumeID := prep.handle vol.volumeIdentifier vol.volumeID
            capacityBytes := vol.capacityCYL * cylinderSizeInBytes
            context := prep.context storageGroupName false remoteVolumeID })

def afterScan (prep : Prepared) (scan : Scan) : CreateProg (Except Failure BlockVolume) := do
  if scan.alreadyExists then
    return .error (failedWith .alreadyExists ("A volume with the same name " ++ prep.req.name ++
      " exists but has a different size than requested. Use a different name."))
  else if scan.isLocalVolumePresent then
    match scan.vol with
    | none => return .error .panics
    | some vol => prep.complete scan.storageGroupName vol
  else
    match ← Prog.ask (CreateCall.rep (.createVolumeInStorageGroupS prep.req.symID
        scan.storageGroupName prep.volumeIdentifier prep.requiredCylinders)) with
    | .error err => return .error (internal ("Could not create volume: " ++ prep.req.name ++ ": " ++
        err.text))
    | .ok vol => prep.complete scan.storageGroupName vol

def createBlock (prep : Prepared) : CreateProg (Except Failure BlockVolume) := do
  match ← prep.idempotencyScan with
  | .failed failure => return .error failure
  | .existing _ response => return .ok response
  | .next scan => prep.afterScan scan

end Prepared

def createVolume (cfg : LegacyConfig) (req : LegacyRequest) :
    CreateProg (Except Failure LegacyResponse) := do
  match ← resolveVolume req with
  | .error failure => return .error failure
  | .ok (requiredCylinders, source) =>
    if req.useNFS then
      match ← Prog.ask (CreateCall.createFileSystem req.symID req.storagePoolID req.serviceLevel
          (volumeIdentifier cfg.toMetroConfig req.toMetroRequest)) with
      | .error err => return .error (.failed (.status err))
      | .ok volumeID => return .ok (.fileSystem volumeID)
    else
      match ← prepareBlock cfg req requiredCylinders source with
      | .error failure => return .error failure
      | .ok prep => return (← prep.createBlock).map .block

def legacyCreate (cfg : LegacyConfig) (req : LegacyRequest) :
    CreateProg (Except Failure LegacyResponse) := do
  match ← checkRequest cfg req with
  | .error failure => return .error failure
  | .ok req =>
    if req.replicationEnabled ∧ req.repMode = metro then
      return (← replicating (createMetroVolume cfg.toMetroConfig req.toMetroRequest)).map .metro
    else createVolume cfg req

end PowerMaxCsi.Service
