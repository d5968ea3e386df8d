import PowerMaxCsi.Addons.Helpers

/-!
# Replication of volume groups

`service/csiaddons_replication.go`.  `loadSRDFContext` reads the SRDF state before the lock of the
storage group is taken.
-/

namespace PowerMaxCsi.Addons

open Service

inductive ReplicationSource where
  | volumegroup (volumeGroupID : String)
  | volume (volumeID : String)
  | missing
deriving DecidableEq, Repr

/-- `resolveVGFromSource`; `none` for a nil pointer. -/
def resolveVGFromSource : Option ReplicationSource → Except GrpcError String
  | none => .error ⟨.invalidArgument, "replication_source is required"⟩
  | some (.volumegroup volumeGroupID) =>
    if volumeGroupID ≠ "" then .ok volumeGroupID
    else .error ⟨.invalidArgument, "replication_source.volumegroup is required"⟩
  | some (.volume volumeID) =>
    if volumeID ≠ "" then .error ⟨.invalidArgument,
      "volume-level replication is not supported; use volume group replication"⟩
    else .error ⟨.invalidArgument, "replication_source.volumegroup is required"⟩
  | some .missing => .error ⟨.invalidArgument, "replication_source.volumegroup is required"⟩

def volumeGroupOf (source : Option ReplicationSource) : Except GrpcError VolumeGroupID :=
  match resolveVGFromSource source with
  | .error err => .error err
  | .ok volumeGroupID => decodeVolumeGroupID volumeGroupID

def enableRequest (source : Option ReplicationSource) (parameters : Option (GoMap String String)) :
    Except GrpcError (VolumeGroupID × CsiAddonsReplicationParams) :=
  match resolveVGFromSource source with
  | .error err => .error err
  | .ok volumeGroupID =>
    match parseCSIAddonsReplicationParams parameters with
    | .error err => .error err
    | .ok params =>
      match decodeVolumeGroupID volumeGroupID with
      | .error err => .error err
      | .ok id =>
        if id.rdfGrpNo = "" then
          .error ⟨.invalidArgument, "EnableVolumeReplication: rdfGroupNumber must be " ++
            "encoded in the volume_group_id (set by CreateVolumeGroup)"⟩
        else .ok (id, params)

def enableVolumeReplication (source : Option ReplicationSource)
    (parameters : Option (GoMap String String)) : AddonsProg (Except Failure Unit) :=
  match enableRequest source parameters with
  | .error err => return .error (.failed (.status err))
  | .ok (id, params) =>
    withClient "EnableVolumeReplication: " [id.symID, params.remoteSymID] (withSGLock id do
      match ← protectStorageGroupCSIAddons id params.remoteSymID params.replicationMode with
      | .error failure => return .error failure
      | .ok () => syncRemoteVolumeIdentifiers id params.remoteSymID)

def suspendGroup (id : VolumeGroupID) (rdfGrpNo : String) : AddonsProg (Except Failure Unit) := do
  match ← executeReplicationActionOnSG id.symID "Suspend" id.sgName rdfGrpNo true false false with
  | .error err => return .error (internal ("DisableVolumeReplication: failed to suspend SG " ++
      quoted id.sgName ++ ": " ++ err.text))
  | .ok () => return .ok ()

def disableGroup (id : VolumeGroupID) : AddonsProg (Except Failure Unit) := do
  match ← getProtectedStorageGroup id.symID id.sgName with
  | .ok (some psg) =>
    if !psg.rdf then return .ok ()
    else
      match resolveEffectiveRDFGroup id.rdfGrpNo psg with
      | .error err => return .error (.failed (.status err))
      | .ok rdfGrpNo =>
        match ← getStorageGroupRDFInfo id.symID id.sgName rdfGrpNo with
        | .ok (some sgRDF) =>
          if (csiAddonsSRDFPersonality sgRDF).state = suspended then return .ok ()
          else suspendGroup id rdfGrpNo
        | _ => suspendGroup id rdfGrpNo
  | _ => return .ok ()

def disableVolumeReplication (source : Option ReplicationSource) :
    AddonsProg (Except Failure Unit) :=
  match volumeGroupOf source with
  | .error err => return .error (.failed (.status err))
  | .ok id =>
    if !isCSIAddonsManagedSG id.sgName then
      return .error (failedWith .invalidArgument ("DisableVolumeReplication: storage group " ++
        quoted id.sgName ++ " is not managed by CSI-Addons; refusing to operate on it"))
    else withClient "DisableVolumeReplication: " [id.symID] (withSGLock id (disableGroup id))

def actionRequest (source : Option ReplicationSource) : Except GrpcError VolumeGroupID :=
  match volumeGroupOf source with
  | .error err => .error err
  | .ok id =>
    if id.rdfGrpNo = "" then
      .error ⟨.invalidArgument, "rdfGroupNumber must be encoded in the volume_group_id"⟩
    else .ok id

def withSRDFContext {α : Type} (source : Option ReplicationSource)
    (body : VolumeGroupID → SGRDFInfo → AddonsProg (Except Failure α)) :
    AddonsProg (Except Failure α) :=
  match actionRequest source with
  | .error err => return .error (.failed (.status err))
  | .ok id => withClient "" [id.symID] do
    let notFound (text : String) : Failure := failedWith .notFound ("SG " ++ quoted id.sgName ++
      " on " ++ quoted id.symID ++ " (rdfg=" ++ id.rdfGrpNo ++ "): " ++ text)
    match ← getStorageGroupRDFInfo id.symID id.sgName id.rdfGrpNo with
    | .error err => return .error (notFound err.text)
    | .ok none => return .error (notFound "<nil>")
    | .ok (some sgRDF) => withSGLock id (body id sgRDF)

def act (id : VolumeGroupID) (action : String) (force exemptConsistency : Bool)
    (failed : String → String) : AddonsProg (Except Failure Unit) := do
  match ← executeReplicationActionOnSG id.symID action id.sgName id.rdfGrpNo force
      exemptConsistency false with
  | .error err => return .error (internal (failed err.text))
  | .ok () => return .ok ()

def promoteGroup (force : Bool) (id : VolumeGroupID) (sgRDF : SGRDFInfo) :
    AddonsProg (Except Failure Unit) := do
  let personality := csiAddonsSRDFPersonality sgRDF
  let sg := "PromoteVolume: SG " ++ quoted id.sgName
  if personality.mixedPersonalities then
    return .error (failedWith .failedPrecondition (sg ++ " has mixed SRDF personalities (" ++
      listText sgRDF.volumeRdfTypes ++ "); cannot operate at SG level"))
  else if personality.mixedStates ∧ ¬ force then
    return .error (failedWith .failedPrecondition (sg ++ " has mixed SRDF states (" ++
      listText sgRDF.states ++ "); use force=true for unplanned failover"))
  else if personality.isR1 ∧ personality.state ≠ failedOver then return .ok ()
  else if ¬ personality.isR1 ∧ personality.state = failedOver then return .ok ()
  else if personality.isR1 ∧ personality.state = failedOver then
    act id "Failback" force true fun err =>
      "PromoteVolume: failback on SG " ++ quoted id.sgName ++ " failed: " ++ err
  else
    match ← act id "Failover" force true fun err =>
        "PromoteVolume: failover on SG " ++ quoted id.sgName ++ " failed: " ++ err with
    | .error failure => return .error failure
    | .ok () =>
      if ¬ force then
        let _ ← executeReplicationActionOnSG id.symID "Swap" id.sgName id.rdfGrpNo false false false
      return .ok ()

def promoteVolume (source : Option ReplicationSource) (force : Bool) :
    AddonsProg (Except Failure Unit) :=
  withSRDFContext source (promoteGroup force)

def demoteGroup (force : Bool) (id : VolumeGroupID) (sgRDF : SGRDFInfo) :
    AddonsProg (Except Failure Unit) := do
  let personality := csiAddonsSRDFPersonality sgRDF
  let sg := "DemoteVolume: SG " ++ quoted id.sgName
  if personality.mixedPersonalities then
    return .error (failedWith .failedPrecondition (sg ++ " has mixed SRDF personalities (" ++
      listText sgRDF.volumeRdfTypes ++ "); cannot operate at SG level"))
  else if personality.mixedStates then
    return .error (failedWith .failedPrecondition (sg ++ " has mixed SRDF states (" ++
      listText sgRDF.states ++ "); cannot perform a planned failover at SG level"))
  else if ¬ personality.isR1 ∨ personality.state = failedOver then return .ok ()
  else
    act id "Failover" force true fun err =>
      "DemoteVolume: failover on SG " ++ quoted id.sgName ++ " failed: " ++ err

def demoteVolume (source : Option ReplicationSource) (force : Bool) :
    AddonsProg (Except Failure Unit) :=
  withSRDFContext source (demoteGroup force)

def resyncAction (state : String) : Option String :=
  if state = suspended ∨ state = partitioned then some "Resume"
  else if state = splitState then some "Establish"
  else if state = failedOver then some "Swap"
  else none

def resyncGroup (force : Bool) (id : VolumeGroupID) (sgRDF : SGRDFInfo) :
    AddonsProg (Except Failure Bool) := do
  let personality := csiAddonsSRDFPersonality sgRDF
  let state := personality.state
  if personality.mixedPersonalities then
    return .error (failedWith .failedPrecondition ("ResyncVolume: SG " ++ quoted id.sgName ++
      " has mixed SRDF personalities (" ++ listText sgRDF.volumeRdfTypes ++
      "); cannot operate at SG level"))
  else if state = consistent ∨ state = synchronized ∨ state = activeBias then return .ok true
  else if state = syncInProgress then return .ok false
  else
    match resyncAction state with
    | none => return .ok false
    | some action =>
      match ← act id action force (action = "Resume") fun err =>
          "ResyncVolume: " ++ action ++ " on SG " ++ quoted id.sgName ++ " failed: " ++ err with
      | .error failure => return .error failure
      | .ok () => return .ok false

def resyncVolume (source : Option ReplicationSource) (force : Bool) :
    AddonsProg (Except Failure Bool) :=
  withSRDFContext source (resyncGroup force)

end PowerMaxCsi.Addons
