import PowerMaxCsi.Addons.Helpers

/-!
# Changing and deleting volume groups

`DeleteVolumeGroup` and `ModifyVolumeGroupMembership` of `service/csiaddons_volumegroup.go`.  A loop
over the map of desired devices visits them in the order of the request.
-/

namespace PowerMaxCsi.Addons

open Service

/-- The volumes are removed from the protected storage group, which breaks their pairs. -/
def breakPairs (id : VolumeGroupID) (remoteSymID : String) :
    AddonsProg (Except Failure Unit) := do
  match ← getVolumeIDListInStorageGroup id.symID id.sgName with
  | .ok (devID :: devIDs) =>
    match ← Prog.ask (AddonsCall.removeVolumesFromProtectedStorageGroup id.symID id.sgName
        remoteSymID id.sgName (devID :: devIDs)) with
    | .error err => return .error (internal (
        "DeleteVolumeGroup: failed to remove protected volumes from " ++ quoted id.sgName ++
          ": " ++ err.text))
    | .ok () => return .ok ()
  | _ => return .ok ()

def suspendSession (id : VolumeGroupID) (rdfGrpNo state : String) :
    AddonsProg (Except Failure Unit) := do
  if state ≠ suspended ∧ state ≠ splitState then
    match ← executeReplicationActionOnSG id.symID "Suspend" id.sgName rdfGrpNo true false
        false with
    | .error err => return .error (internal ("DeleteVolumeGroup: failed to suspend SRDF on SG " ++
        quoted id.sgName ++ ": " ++ err.text))
    | .ok () => return .ok ()
  else return .ok ()

def tearDown (id : VolumeGroupID) (rdfGrpNo state remoteSymID : String) :
    AddonsProg (Except Failure Unit) := do
  match ← suspendSession id rdfGrpNo state with
  | .error failure => return .error failure
  | .ok () =>
    match ← breakPairs id remoteSymID with
    | .error failure => return .error failure
    | .ok () =>
      match ← Prog.ask (AddonsCall.rep (.deleteStorageGroup id.symID id.sgName)) with
      | .error err => return .error (internal (
          "DeleteVolumeGroup: failed to delete local SG " ++ quoted id.sgName ++ ": " ++ err.text))
      | .ok () =>
        let _ ← Prog.ask (AddonsCall.rep (.deleteStorageGroup remoteSymID id.sgName))
        return .ok ()

def deleteSourceGroup (id : VolumeGroupID) (rdfGrpNo state : String) :
    AddonsProg (Except Failure Unit) := do
  match ← getRDFGroupByID id.symID rdfGrpNo with
  | .error err => return .error (internal ("DeleteVolumeGroup: failed to get RDF group " ++
      rdfGrpNo ++ " info: " ++ err.text))
  | .ok rdfInfo =>
    match ← getPowerMaxClient [id.symID, rdfInfo.remoteSymmetrix] with
    | .error err => return .error (internal (
        "DeleteVolumeGroup: failed to get PowerMax client for both arrays: " ++ err))
    | .ok () => tearDown id rdfGrpNo state rdfInfo.remoteSymmetrix

def deleteProtectedVolumeGroup (id : VolumeGroupID) (psg : RDFStorageGroup) :
    AddonsProg (Except Failure Unit) := do
  match resolveEffectiveRDFGroup id.rdfGrpNo psg with
  | .error err => return .error (.failed (.status err))
  | .ok rdfGrpNo =>
    match ← getStorageGroupRDFInfo id.symID id.sgName rdfGrpNo with
    | .ok (some sgRDF) =>
      let personality := csiAddonsSRDFPersonality sgRDF
      if personality.isR1 then deleteSourceGroup id rdfGrpNo personality.state
      else return .ok ()
    | _ => deleteSourceGroup id rdfGrpNo ""

def deleteLocalSG (id : VolumeGroupID) : AddonsProg (Except Failure Unit) := do
  match ← Prog.ask (AddonsCall.rep (.deleteStorageGroup id.symID id.sgName)) with
  | .error err => return .error (internal ("DeleteVolumeGroup: failed to delete SG " ++
      quoted id.sgName ++ ": " ++ err.text))
  | .ok () => return .ok ()

def deleteUnprotectedSG (id : VolumeGroupID) : AddonsProg (Except Failure Unit) := do
  match ← getVolumeIDListInStorageGroup id.symID id.sgName with
  | .ok (devID :: devIDs) =>
    match ← Prog.ask (AddonsCall.removeVolumesFromStorageGroup id.symID id.sgName
        (devID :: devIDs)) with
    | .error err => return .error (internal ("DeleteVolumeGroup: failed to remove volumes from " ++
        quoted id.sgName ++ ": " ++ err.text))
    | .ok () => deleteLocalSG id
  | _ => deleteLocalSG id

def deleteGroup (id : VolumeGroupID) : AddonsProg (Except Failure Unit) := do
  match ← Prog.ask (AddonsCall.rep (.getStorageGroup id.symID id.sgName)) with
  | .ok (some _) =>
    match ← getProtectedStorageGroup id.symID id.sgName with
    | .ok (some psg) =>
      if psg.rdf then deleteProtectedVolumeGroup id psg else deleteUnprotectedSG id
    | _ => deleteUnprotectedSG id
  | _ => return .ok ()

def deleteVolumeGroup (volumeGroupID : String) : AddonsProg (Except Failure Unit) :=
  match decodeVolumeGroupID volumeGroupID with
  | .error err => return .error (.failed (.status err))
  | .ok id => withClient "DeleteVolumeGroup: " [id.symID] (withSGLock id (deleteGroup id))

structure VolumeGroup where
  (volumeGroupID storageGroup sourceArrayID rdfGroupNumber replicationMode remoteSystem : String)
  volumes : List String
deriving DecidableEq, Repr

/-- `buildVolumeGroupResponse`; the mode and the remote array are empty if they are not known. -/
def buildVolumeGroupResponse (id : VolumeGroupID) (replicationMode remoteSymID : String)
    (preferredVolumeIDs : List String) : AddonsProg VolumeGroup := do
  let parsed := (parseCSIAddonsSGName id.sgName).getD ("", "")
  let rdfGrpNo := if id.rdfGrpNo = "" then parsed.1 else id.rdfGrpNo
  let volumes ← getVolumeIDListInStorageGroup id.symID id.sgName
  return (
    { volumeGroupID := encodeVolumeGroupID { id with rdfGrpNo }
      storageGroup := id.sgName
      sourceArrayID := id.symID
      rdfGroupNumber := rdfGrpNo
      replicationMode := if replicationMode = "" then parsed.2 else replicationMode
      remoteSystem := remoteSymID
      volumes :=
        match volumes with
        | .ok devIDs => devIDs.map fun devID => id.symID ++ "-" ++ devID
        | .error _ => preferredVolumeIDs })

def desiredDevIDs : List String → Except Failure (List String)
  | [] => .ok []
  | volumeID :: rest =>
    match extractDevIDFromVolumeID volumeID with
    | .error failure => .error failure
    | .ok devID =>
      match desiredDevIDs rest with
      | .error failure => .error failure
      | .ok devIDs => .ok (devID :: devIDs)

def resolveRemote (id : VolumeGroupID) : AddonsProg (Except Failure (Option String)) := do
  match ← getRDFGroupByID id.symID id.rdfGrpNo with
  | .error _ => return .ok none
  | .ok rdfInfo =>
    let _ ← getPowerMaxClient [id.symID, rdfInfo.remoteSymmetrix]
    return .ok (some rdfInfo.remoteSymmetrix)

/-- The remote array of a protected storage group; an error on the side of the target. -/
def resolveProtection (id : VolumeGroupID) : AddonsProg (Except Failure (Option String)) := do
  match ← getProtectedStorageGroup id.symID id.sgName with
  | .ok (some psg) =>
    if psg.rdf ∧ id.rdfGrpNo ≠ "" then
      match ← getStorageGroupRDFInfo id.symID id.sgName id.rdfGrpNo with
      | .ok (some sgRDF) =>
        if !(csiAddonsSRDFPersonality sgRDF).isR1 then
          return .error (failedWith .failedPrecondition (
            "ModifyVolumeGroupMembership: cannot modify membership on R2 side; " ++
              "perform changes on R1 (source) cluster"))
        else resolveRemote id
      | _ => resolveRemote id
    else return .ok none
  | _ => return .ok none

def addMembers (id : VolumeGroupID) (remoteSymID : Option String) (toAdd : List String) :
    AddonsProg (Except Failure Unit) := do
  if toAdd = [] then return .ok ()
  else
    match remoteSymID with
    | some remoteSymID =>
      match ← Prog.ask (AddonsCall.addVolumesToProtectedStorageGroup id.symID id.sgName
          remoteSymID id.sgName toAdd) with
      | .error err => return .error (internal (
          "ModifyVolumeGroupMembership: failed to add protected volumes " ++ listText toAdd ++
            " to " ++ quoted id.sgName ++ ": " ++ err.text))
      | .ok () => return .ok ()
    | none =>
      match ← Prog.ask (AddonsCall.addVolumesToStorageGroup id.symID id.sgName toAdd) with
      | .error err => return .error (internal ("ModifyVolumeGroupMembership: failed to add " ++
          listText toAdd ++ " to " ++ quoted id.sgName ++ ": " ++ err.text))
      | .ok () => return .ok ()

def removeMembers (id : VolumeGroupID) (remoteSymID : Option String) (toRemove : List String) :
    AddonsProg (Except Failure Unit) := do
  if toRemove = [] then return .ok ()
  else
    match remoteSymID with
    | some remoteSymID =>
      match ← Prog.ask (AddonsCall.removeVolumesFromProtectedStorageGroup id.symID id.sgName
          remoteSymID id.sgName toRemove) with
      | .error err => return .error (internal (
          "ModifyVolumeGroupMembership: failed to remove protected volumes " ++
            listText toRemove ++ " from " ++ quoted id.sgName ++ ": " ++ err.text))
      | .ok () => return .ok ()
    | none =>
      match ← Prog.ask (AddonsCall.removeVolumesFromStorageGroup id.symID id.sgName
          toRemove) with
      | .error err => return .error (internal ("ModifyVolumeGroupMembership: failed to remove " ++
          listText toRemove ++ " from " ++ quoted id.sgName ++ ": " ++ err.text))
      | .ok () => return .ok ()

def changeMembers (id : VolumeGroupID) (remoteSymID : Option String) (desired : List String) :
    AddonsProg (Except Failure Unit) := do
  match ← getVolumeIDListInStorageGroup id.symID id.sgName with
  | .error err => return .error (internal (
      "ModifyVolumeGroupMembership: failed to list current members of " ++ quoted id.sgName ++
        ": " ++ err.text))
  | .ok current =>
    match ← addMembers id remoteSymID (desired.dedup.filter (· ∉ current)) with
    | .error failure => return .error failure
    | .ok () => removeMembers id remoteSymID (current.dedup.filter (· ∉ desired))

def modifyGroup (id : VolumeGroupID) (volumeIDs : List String) :
    AddonsProg (Except Failure VolumeGroup) := do
  match ← resolveProtection id with
  | .error failure => return .error failure
  | .ok remoteSymID =>
    match desiredDevIDs volumeIDs with
    | .error failure => return .error failure
    | .ok desired =>
      match ← changeMembers id remoteSymID desired with
      | .error failure => return .error failure
      | .ok () => return .ok (← buildVolumeGroupResponse id "" "" volumeIDs)

def modifyVolumeGroupMembership (volumeGroupID : String) (volumeIDs : List String) :
    AddonsProg (Except Failure VolumeGroup) :=
  match decodeVolumeGroupID volumeGroupID with
  | .error err => return .error (.failed (.status err))
  | .ok id => withClient "ModifyVolumeGroupMembership: " [id.symID]
      (withSGLock id (modifyGroup id volumeIDs))

end PowerMaxCsi.Addons
