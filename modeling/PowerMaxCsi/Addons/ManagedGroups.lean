import PowerMaxCsi.Addons.Replication
import PowerMaxCsi.Addons.VolumeGroup
import PowerMaxCsi.Lib.World

/-!
# The storage groups that CSI-Addons changes

All changes of a request are to the storage group that it names (`Within`), but of the seven
requests only `DisableVolumeReplication` looks at its prefix.
-/

namespace PowerMaxCsi.Addons

open Service Prog List

def repChangedGroups : RepCall → List String
  | .createStorageGroup _ sg _ _ _ _ => [sg]
  | .deleteStorageGroup _ sg => [sg]
  | .updateStorageGroupS _ sg _ => [sg]
  | .createVolumeInStorageGroupS _ sg _ _ => [sg]
  | .addVolumesToStorageGroupS _ sg _ => [sg]
  | .removeVolumesFromStorageGroup _ sg _ => [sg]
  | .addVolumesToProtectedStorageGroup _ sg _ remoteSG _ => [sg, remoteSG]
  | .createSGReplica _ _ _ _ sg remoteSG _ _ => [sg, remoteSG]
  | .executeReplicationActionOnSG _ _ sg _ _ => [sg]
  | _ => []

/-- The storage groups whose membership, protection, state or existence a call changes. -/
def changedGroups : AddonsCall → List String
  | .rep c => repChangedGroups c
  | .addVolumesToStorageGroup _ sg _ => [sg]
  | .removeVolumesFromStorageGroup _ sg _ => [sg]
  | .addVolumesToProtectedStorageGroup _ sg _ remoteSG _ => [sg, remoteSG]
  | .removeVolumesFromProtectedStorageGroup _ sg _ remoteSG _ => [sg, remoteSG]
  | .executeReplicationActionOnSG _ _ sg _ _ _ _ => [sg]
  | _ => []

inductive AddonsRequest where
  | deleteVolumeGroup (volumeGroupID : String)
  | modifyVolumeGroupMembership (volumeGroupID : String) (volumeIDs : List String)
  | enableVolumeReplication (source : Option ReplicationSource)
      (parameters : Option (GoMap String String))
  | disableVolumeReplication (source : Option ReplicationSource)
  | promoteVolume (source : Option ReplicationSource) (force : Bool)
  | demoteVolume (source : Option ReplicationSource) (force : Bool)
  | resyncVolume (source : Option ReplicationSource) (force : Bool)

namespace AddonsRequest

def serve : AddonsRequest → AddonsProg Unit
  | .deleteVolumeGroup vgID => do let _ ← Addons.deleteVolumeGroup vgID
  | .modifyVolumeGroupMembership vgID volumeIDs => do
    let _ ← Addons.modifyVolumeGroupMembership vgID volumeIDs
  | .enableVolumeReplication source parameters => do
    let _ ← Addons.enableVolumeReplication source parameters
  | .disableVolumeReplication source => do let _ ← Addons.disableVolumeReplication source
  | .promoteVolume source force => do let _ ← Addons.promoteVolume source force
  | .demoteVolume source force => do let _ ← Addons.demoteVolume source force
  | .resyncVolume source force => do let _ ← Addons.resyncVolume source force

/-- The volume group of a request, unless the request is rejected for what it contains. -/
def target : AddonsRequest → Option VolumeGroupID
  | .deleteVolumeGroup vgID => (decodeVolumeGroupID vgID).toOption
  | .modifyVolumeGroupMembership vgID volumeIDs =>
    match desiredDevIDs volumeIDs with
    | .ok _ => (decodeVolumeGroupID vgID).toOption
    | .error _ => none
  | .enableVolumeReplication source parameters => (enableRequest source parameters).toOption.map (·.1)
  | .disableVolumeReplication source => (volumeGroupOf source).toOption
  | .promoteVolume source _ => (actionRequest source).toOption
  | .demoteVolume source _ => (actionRequest source).toOption
  | .resyncVolume source _ => (actionRequest source).toOption

/-- Only `DisableVolumeReplication` looks at the prefix. -/
def checksPrefix : AddonsRequest → Bool
  | .disableVolumeReplication _ => true
  | _ => false

/-- Every storage group that the request changes belongs to CSI-Addons. -/
def ChangesManaged (req : AddonsRequest) : Prop :=
  ∀ h c, Issues req.serve h c → ∀ sg ∈ changedGroups c, isCSIAddonsManagedSG sg = true

end AddonsRequest

/-! ## The changes of a request -/

def Reads (c : AddonsCall) : Prop := changedGroups c = []

def Within (sgName : String) (c : AddonsCall) : Prop := ∀ sg ∈ changedGroups c, sg = sgName

variable {sgName : String} {c : AddonsCall}

theorem within_of_eq (n : Nat) (h : changedGroups c = List.replicate n sgName) :
    Within sgName c := by
  intro sg hsg
  rw [h] at hsg
  exact eq_of_mem_replicate hsg

theorem reads_within {α : Type} {p : AddonsProg α} (hp : Calls Reads p) : Calls (Within sgName) p :=
  hp.mono fun _ hc => within_of_eq 0 hc

section

variable {α : Type} {id : VolumeGroupID} {sgName rdfMode : String} {volumeIDs desired : List String}
  {body : AddonsProg (Except Failure α)}

theorem withClient_within {rpc : String} {symIDs : List String} (hb : Calls (Within sgName) body) :
    Calls (Within sgName) (withClient rpc symIDs body) := by
  refine ⟨within_of_eq 0 rfl, ?_⟩
  rintro (err | _)
  · trivial
  · exact hb

theorem withSGLock_within (hb : Calls (Within sgName) body) :
    Calls (Within sgName) (withSGLock id body) := by
  refine ⟨within_of_eq 0 rfl, ?_⟩
  rintro (err | lockNum)
  · trivial
  · exact hb.bind fun _ => ⟨within_of_eq 0 rfl, fun _ => trivial⟩

variable {rdfGrpNo : String}

theorem suspendSession_within {state : String} :
    Calls (Within id.sgName) (suspendSession id rdfGrpNo state) := by
  refine Calls.ite ⟨within_of_eq 1 rfl, ?_⟩ trivial
  rintro (err | _) <;> trivial

variable {remoteSymID : String}

theorem breakPairs_within : Calls (Within id.sgName) (breakPairs id remoteSymID) := by
  refine ⟨within_of_eq 0 rfl, ?_⟩
  rintro (err | (_ | ⟨devID, devIDs⟩))
  · trivial
  · trivial
  · refine ⟨within_of_eq 2 rfl, ?_⟩
    rintro (err | _) <;> trivial

theorem deleteSourceGroup_within {state : String} :
    Calls (Within id.sgName) (deleteSourceGroup id rdfGrpNo state) := by
  refine ⟨within_of_eq 0 rfl, ?_⟩
  rintro (err | rdfInfo)
  · trivial
  refine ⟨within_of_eq 0 rfl, ?_⟩
  rintro (err | _)
  · trivial
  refine suspendSession_within.bind ?_
  rintro (failure | _)
  · trivial
  refine breakPairs_within.bind ?_
  rintro (failure | _)
  · trivial
  refine ⟨within_of_eq 1 rfl, ?_⟩
  rintro (err | _)
  · trivial
  · exact ⟨within_of_eq 1 rfl, fun _ => trivial⟩

theorem deleteProtectedVolumeGroup_within {psg : RDFStorageGroup} :
    Calls (Within id.sgName) (deleteProtectedVolumeGroup id psg) := by
  unfold deleteProtectedVolumeGroup
  split
  · trivial
  · refine ⟨within_of_eq 0 rfl, ?_⟩
    rintro (err | (_ | sgRDF))
    · exact deleteSourceGroup_within
    · exact deleteSourceGroup_within
    · exact Calls.ite deleteSourceGroup_within trivial

theorem deleteLocalSG_within : Calls (Within id.sgName) (deleteLocalSG id) := by
  refine ⟨within_of_eq 1 rfl, ?_⟩
  rintro (err | _) <;> trivial

theorem deleteUnprotectedSG_within : Calls (Within id.sgName) (deleteUnprotectedSG id) := by
  refine ⟨within_of_eq 0 rfl, ?_⟩
  rintro (err | (_ | ⟨devID, devIDs⟩))
  · exact deleteLocalSG_within
  · exact deleteLocalSG_within
  · refine ⟨within_of_eq 1 rfl, ?_⟩
    rintro (err | _)
    · trivial
    · exact deleteLocalSG_within

theorem deleteGroup_within : Calls (Within id.sgName) (deleteGroup id) := by
  refine ⟨within_of_eq 0 rfl, ?_⟩
  rintro (err | (_ | sg))
  · trivial
  · trivial
  · refine ⟨within_of_eq 0 rfl, ?_⟩
    rintro (err | (_ | psg))
    · exact deleteUnprotectedSG_within
    · exact deleteUnprotectedSG_within
    · exact Calls.ite deleteProtectedVolumeGroup_within deleteUnprotectedSG_within

theorem resolveRemote_reads : Calls Reads (resolveRemote id) := by
  refine ⟨rfl, ?_⟩
  rintro (err | rdfInfo)
  · trivial
  · exact ⟨rfl, fun _ => trivial⟩

theorem resolveProtection_reads : Calls Reads (resolveProtection id) := by
  refine ⟨rfl, ?_⟩
  rintro (err | (_ | psg))
  · trivial
  · trivial
  · refine Calls.ite ⟨rfl, ?_⟩ trivial
    rintro (err | (_ | sgRDF))
    · exact resolveRemote_reads
    · exact resolveRemote_reads
    · exact Calls.ite trivial resolveRemote_reads

theorem changeMembers_calls {P : AddonsCall → Prop} {remoteSymID : Option String}
    (hl : P (.getVolumeIDListInStorageGroup id.symID id.sgName))
    (hn : remoteSymID = none → ∀ devIDs,
      P (.addVolumesToStorageGroup id.symID id.sgName devIDs) ∧
        P (.removeVolumesFromStorageGroup id.symID id.sgName devIDs))
    (hs : ∀ remote, remoteSymID = some remote → ∀ devIDs,
      P (.addVolumesToProtectedStorageGroup id.symID id.sgName remote id.sgName devIDs) ∧
        P (.removeVolumesFromProtectedStorageGroup id.symID id.sgName remote id.sgName devIDs)) :
    Calls P (changeMembers id remoteSymID desired) := by
  have ha (toAdd : List String) : Calls P (addMembers id remoteSymID toAdd) := by
    refine Calls.ite trivial ?_
    cases remoteSymID with
    | none =>
      refine ⟨(hn rfl toAdd).1, ?_⟩
      rintro (err | _) <;> trivial
    | some remote =>
      refine ⟨(hs remote rfl toAdd).1, ?_⟩
      rintro (err | _) <;> trivial
  have hr (toRemove : List String) : Calls P (removeMembers id remoteSymID toRemove) := by
    refine Calls.ite trivial ?_
    cases remoteSymID with
    | none =>
      refine ⟨(hn rfl toRemove).2, ?_⟩
      rintro (err | _) <;> trivial
    | some remote =>
      refine ⟨(hs remote rfl toRemove).2, ?_⟩
      rintro (err | _) <;> trivial
  refine ⟨hl, ?_⟩
  rintro (err | current)
  · trivial
  · refine (ha _).bind ?_
    rintro (failure | _)
    · trivial
    · exact hr _

theorem changeMembers_within {remoteSymID : Option String} :
    Calls (Within id.sgName) (changeMembers id remoteSymID desired) :=
  changeMembers_calls (within_of_eq 0 rfl)
    (fun _ _ => ⟨within_of_eq 1 rfl, within_of_eq 1 rfl⟩)
    (fun _ _ _ => ⟨within_of_eq 2 rfl, within_of_eq 2 rfl⟩)

theorem modifyGroup_within : Calls (Within id.sgName) (modifyGroup id volumeIDs) := by
  refine (reads_within resolveProtection_reads).bind ?_
  rintro (failure | remoteSymID)
  · trivial
  dsimp only
  split
  · trivial
  · refine changeMembers_within.bind ?_
    rintro (failure | _)
    · trivial
    · exact ⟨within_of_eq 0 rfl, fun _ => trivial⟩

theorem verifyAndDeleteRemoteStorageGroup_within :
    Calls (Within sgName) (replicating (verifyAndDeleteRemoteStorageGroup remoteSymID sgName)) := by
  refine ⟨within_of_eq 0 rfl, ?_⟩
  rintro (err | (_ | sg))
  · trivial
  · trivial
  · show Calls _ (replicating (ite ..))
    split
    · trivial
    · refine ⟨within_of_eq 1 rfl, ?_⟩
      rintro (err | _) <;> trivial

theorem createReplicaCSIAddons_within :
    Calls (Within id.sgName) (createReplicaCSIAddons id remoteSymID rdfMode) := by
  refine ⟨within_of_eq 0 rfl, ?_⟩
  rintro (err | rdfg)
  · trivial
  refine Calls.ite trivial (verifyAndDeleteRemoteStorageGroup_within.bind ?_)
  rintro (_ | err)
  · refine ⟨within_of_eq 2 rfl, ?_⟩
    rintro (err | _) <;> trivial
  · trivial

theorem protectStorageGroupCSIAddons_within :
    Calls (Within id.sgName) (protectStorageGroupCSIAddons id remoteSymID rdfMode) := by
  refine ⟨within_of_eq 0 rfl, ?_⟩
  rintro (err | (_ | sg))
  · exact createReplicaCSIAddons_within
  · exact createReplicaCSIAddons_within
  · exact Calls.ite trivial createReplicaCSIAddons_within

variable {symID : String}

theorem useBulkGet_reads : Calls Reads (useBulkGet symID) := by
  refine ⟨rfl, ?_⟩
  rintro (err | version)
  · trivial
  simp only [ret_bind]
  split <;> trivial

variable {sg : String} {sgRDF : SGRDFInfo} {source : Option ReplicationSource}

theorem localVolumesPerVolume_reads : Calls Reads (localVolumesPerVolume symID sg) := by
  refine ⟨rfl, ?_⟩
  rintro (err | devIDs) <;> trivial

theorem localVolumes_reads {bulk : Bool} : Calls Reads (localVolumes symID sg bulk) := by
  refine Calls.ite ⟨rfl, ?_⟩ localVolumesPerVolume_reads
  rintro (err | volumes)
  · exact localVolumesPerVolume_reads
  · trivial

theorem remoteIdentifiers_reads {bulk : Bool} : Calls Reads (remoteIdentifiers symID sg bulk) := by
  refine Calls.ite ⟨rfl, ?_⟩ trivial
  rintro (err | volumes) <;> trivial

theorem identifierOf_reads {devID : String} {known : Option String} :
    Calls Reads (identifierOf symID devID known) := by
  cases known with
  | some identifier => trivial
  | none =>
    refine ⟨rfl, ?_⟩
    rintro (err | vol) <;> trivial

theorem gatherRename_reads {remote : List (String × String)} {localVol : String × Option String} :
    Calls Reads (gatherRename id remoteSymID remote localVol) := by
  refine identifierOf_reads.bind ?_
  rintro (err | localIdentifier)
  · trivial
  refine Calls.ite trivial ⟨rfl, ?_⟩
  rintro (err | remoteDevID)
  · trivial
  refine identifierOf_reads.bind ?_
  rintro (err | remoteIdentifier)
  · trivial
  · exact Calls.ite trivial trivial

theorem gatherRenames_reads {remote : List (String × String)}
    {localVols : List (String × Option String)} :
    Calls Reads (gatherRenames id remoteSymID remote localVols) := by
  induction localVols with
  | nil => trivial
  | cons localVol rest ih =>
    refine gatherRename_reads.bind fun gathered => ih.bind ?_
    rintro ⟨pending, gatherErr⟩
    cases gathered <;> trivial

theorem perVolumeRename_reads {pending : List PendingRename} :
    Calls Reads (perVolumeRename symID pending) := by
  induction pending with
  | nil => trivial
  | cons rename rest ih =>
    refine ⟨rfl, fun renamed => ih.bind fun errs => ?_⟩
    cases renamed <;> trivial

theorem syncRemoteVolumeIdentifiers_reads :
    Calls Reads (syncRemoteVolumeIdentifiers id remoteSymID) := by
  refine useBulkGet_reads.bind fun bulk => localVolumes_reads.bind ?_
  rintro (failure | ⟨_ | ⟨localVol, localVols⟩, bulk⟩)
  · trivial
  · trivial
  refine remoteIdentifiers_reads.bind fun remote => gatherRenames_reads.bind ?_
  rintro ⟨pending, gatherErr⟩
  refine Calls.ite ?_ (perVolumeRename_reads.bind fun renameErrs => ?_)
  · cases gatherErr <;> trivial
  · split <;> trivial

variable {force : Bool}

theorem act_within {action : String} {exemptConsistency : Bool} {failed : String → String} :
    Calls (Within id.sgName) (act id action force exemptConsistency failed) := by
  refine ⟨within_of_eq 1 rfl, ?_⟩
  rintro (err | _) <;> trivial

theorem suspendGroup_within : Calls (Within id.sgName) (suspendGroup id rdfGrpNo) := by
  refine ⟨within_of_eq 1 rfl, ?_⟩
  rintro (err | _) <;> trivial

theorem disableGroup_within : Calls (Within id.sgName) (disableGroup id) := by
  refine ⟨within_of_eq 0 rfl, ?_⟩
  rintro (err | (_ | psg))
  · trivial
  · trivial
  refine Calls.ite trivial ?_
  split
  · trivial
  · refine ⟨within_of_eq 0 rfl, ?_⟩
    rintro (err | (_ | sgRDF))
    · exact suspendGroup_within
    · exact suspendGroup_within
    · exact Calls.ite trivial suspendGroup_within

theorem promoteGroup_within : Calls (Within id.sgName) (promoteGroup force id sgRDF) := by
  refine Calls.ite trivial (Calls.ite trivial (Calls.ite trivial (Calls.ite trivial
    (Calls.ite act_within (act_within.bind ?_)))))
  rintro (failure | _)
  · trivial
  · exact Calls.ite ⟨within_of_eq 1 rfl, fun _ => trivial⟩ trivial

theorem demoteGroup_within : Calls (Within id.sgName) (demoteGroup force id sgRDF) :=
  Calls.ite trivial (Calls.ite trivial (Calls.ite trivial act_within))

theorem resyncGroup_within : Calls (Within id.sgName) (resyncGroup force id sgRDF) := by
  refine Calls.ite trivial (Calls.ite trivial (Calls.ite trivial ?_))
  split
  · trivial
  · refine act_within.bind ?_
    rintro (failure | _) <;> trivial

theorem deleteVolumeGroup_within {vgID : String}
    (h : ∀ id, (decodeVolumeGroupID vgID).toOption = some id → id.sgName = sgName) :
    Calls (Within sgName) (deleteVolumeGroup vgID) := by
  unfold deleteVolumeGroup
  split
  case h_1 => trivial
  case h_2 id hd =>
    obtain rfl := h id (by rw [hd]; rfl)
    exact withClient_within (withSGLock_within deleteGroup_within)

theorem modifyVolumeGroupMembership_within {vgID : String}
    (h : ∀ id, (AddonsRequest.modifyVolumeGroupMembership vgID volumeIDs).target = some id →
      id.sgName = sgName) : Calls (Within sgName) (modifyVolumeGroupMembership vgID volumeIDs) := by
  unfold modifyVolumeGroupMembership
  split
  case h_1 => trivial
  case h_2 id hde =>
    refine withClient_within (withSGLock_within ?_)
    rcases hd : desiredDevIDs volumeIDs with failure | desired
    · refine (reads_within resolveProtection_reads).bind ?_
      rintro (failure | remoteSymID)
      · trivial
      · simp only [hd]
        trivial
    · obtain rfl := h id (by simp [AddonsRequest.target, hd, hde, Except.toOption])
      exact modifyGroup_within

theorem enableVolumeReplication_within {parameters : Option (GoMap String String)}
    (h : ∀ id, (enableRequest source parameters).toOption.map (·.1) = some id →
      id.sgName = sgName) : Calls (Within sgName) (enableVolumeReplication source parameters) := by
  unfold enableVolumeReplication
  split
  case h_1 => trivial
  case h_2 id params hr =>
    obtain rfl := h id (by rw [hr]; rfl)
    refine withClient_within (withSGLock_within (protectStorageGroupCSIAddons_within.bind ?_))
    rintro (failure | _)
    · trivial
    · exact reads_within syncRemoteVolumeIdentifiers_reads

theorem disableVolumeReplication_within
    (h : ∀ id, (volumeGroupOf source).toOption = some id → isCSIAddonsManagedSG id.sgName = true →
      id.sgName = sgName) : Calls (Within sgName) (disableVolumeReplication source) := by
  unfold disableVolumeReplication
  split
  case h_1 => trivial
  case h_2 id hr =>
    split
    case isTrue => trivial
    case isFalse hm =>
      obtain rfl := h id (by rw [hr]; rfl) (by simpa using hm)
      exact withClient_within (withSGLock_within disableGroup_within)

theorem withSRDFContext_within {body : VolumeGroupID → SGRDFInfo → AddonsProg (Except Failure α)}
    (h : ∀ id, (actionRequest source).toOption = some id → id.sgName = sgName)
    (hb : ∀ id sgRDF, Calls (Within id.sgName) (body id sgRDF)) :
    Calls (Within sgName) (withSRDFContext source body) := by
  unfold withSRDFContext
  split
  case h_1 => trivial
  case h_2 id hr =>
    obtain rfl := h id (by rw [hr]; rfl)
    refine withClient_within ⟨within_of_eq 0 rfl, ?_⟩
    rintro (err | (_ | sgRDF))
    · trivial
    · trivial
    · exact withSGLock_within (hb id sgRDF)

end

namespace AddonsRequest

theorem serve_within {req : AddonsRequest} {sgName : String} (h : ∀ id, req.target = some id →
      (req.checksPrefix = true → isCSIAddonsManagedSG id.sgName = true) → id.sgName = sgName) :
    Calls (Within sgName) req.serve := by
  have hu (hg : req.checksPrefix = false) (id : VolumeGroupID)
      (ht : req.target = some id) : id.sgName = sgName :=
    h id ht fun hc => absurd (hg.symm.trans hc) Bool.false_ne_true
  cases req with
  | deleteVolumeGroup vgID =>
    exact (deleteVolumeGroup_within (hu rfl)).bind fun _ => trivial
  | modifyVolumeGroupMembership vgID volumeIDs =>
    exact (modifyVolumeGroupMembership_within (hu rfl)).bind fun _ => trivial
  | enableVolumeReplication source parameters =>
    exact (enableVolumeReplication_within (hu rfl)).bind fun _ => trivial
  | disableVolumeReplication source =>
    refine (disableVolumeReplication_within fun id ht hm => ?_).bind fun _ => trivial
    exact h id ht fun _ => hm
  | promoteVolume source force =>
    exact (withSRDFContext_within (hu rfl) fun _ _ => promoteGroup_within).bind fun _ => trivial
  | demoteVolume source force =>
    exact (withSRDFContext_within (hu rfl) fun _ _ => demoteGroup_within).bind fun _ => trivial
  | resyncVolume source force =>
    exact (withSRDFContext_within (hu rfl) fun _ _ => resyncGroup_within).bind fun _ => trivial

end AddonsRequest

/-! ## Requests that are not rejected change their storage group -/

def Changes {α : Type} (sgName : String) (p : AddonsProg α) : Prop :=
  ∃ c, CanIssue (fun (_ : Unit) _ _ _ => True) () p () c ∧ sgName ∈ changedGroups c

section

variable {α β : Type} {id : VolumeGroupID} {sgName : String} {body : AddonsProg (Except Failure α)}

theorem changes_call_self {k : AddonsAnswer c → AddonsProg α}
    (h : sgName ∈ changedGroups c) : Changes sgName (.call c k) :=
  ⟨c, canIssue_call_self, h⟩

theorem changes_call {k : AddonsAnswer c → AddonsProg α} (r : AddonsAnswer c)
    (h : Changes sgName (k r)) : Changes sgName (.call c k) := by
  obtain ⟨c', hc', hmem⟩ := h
  exact ⟨c', canIssue_call (r := r) trivial hc', hmem⟩

theorem Changes.bind {p : AddonsProg α} (h : Changes sgName p) (f : α → AddonsProg β) :
    Changes sgName (p.bind f) := by
  obtain ⟨c, hc, hmem⟩ := h
  exact ⟨c, hc.bind f, hmem⟩

theorem eq_ok_of_toOption {ε : Type} {x : Except ε α} {a : α} (h : x.toOption = some a) :
    x = .ok a := by
  cases x with
  | error err => cases h
  | ok b => exact congrArg Except.ok (Option.some.inj h)

theorem withClient_changes {rpc : String} {symIDs : List String} (h : Changes sgName body) :
    Changes sgName (withClient rpc symIDs body) :=
  changes_call (.ok ()) h

theorem withSGLock_changes (h : Changes sgName body) : Changes sgName (withSGLock id body) :=
  changes_call (.ok 0) (h.bind _)

theorem deleteGroup_changes : Changes id.sgName (deleteGroup id) := by
  refine changes_call (.ok (some ⟨id.sgName, "", 0, 0, []⟩)) (changes_call (.ok none) ?_)
  exact changes_call (.ok []) (changes_call_self (mem_singleton_self _))

theorem addMembers_changes {toAdd : List String} (h : toAdd ≠ []) :
    Changes id.sgName (addMembers id none toAdd) := by
  unfold addMembers
  rw [if_neg h]
  exact changes_call_self (mem_singleton_self _)

theorem changeMembers_changes (desired : List String) :
    Changes id.sgName (changeMembers id none desired) := by
  cases desired with
  | nil => exact changes_call (.ok ["00001"]) (changes_call_self (mem_singleton_self _))
  | cons devID devIDs =>
    have ha : Changes id.sgName
        (addMembers id none ((devID :: devIDs).dedup.filter (· ∉ ([] : List String)))) := by
      refine addMembers_changes fun hnil => ?_
      have hmem : devID ∈ (devID :: devIDs).dedup.filter (· ∉ ([] : List String)) := by simp
      rw [hnil] at hmem
      cases hmem
    exact changes_call (.ok []) (ha.bind _)

theorem modifyGroup_changes {volumeIDs desired : List String}
    (hd : desiredDevIDs volumeIDs = .ok desired) :
    Changes id.sgName (modifyGroup id volumeIDs) := by
  refine changes_call (.ok none) ?_
  simp only [hd]
  exact (changeMembers_changes desired).bind _

theorem protectStorageGroupCSIAddons_changes {remoteSymID rdfMode : String} :
    Changes id.sgName (protectStorageGroupCSIAddons id remoteSymID rdfMode) := by
  refine changes_call (.ok none) (changes_call (.ok ⟨⟨false, 0⟩, remoteSymID⟩) ?_)
  refine changes_call (.ok none) ?_
  exact changes_call_self (mem_cons_self ..)

theorem withSRDFContext_changes {source : Option ReplicationSource} {sgRDF : SGRDFInfo}
    {body : VolumeGroupID → SGRDFInfo → AddonsProg (Except Failure α)}
    (hr : (actionRequest source).toOption = some id) (hb : Changes sgName (body id sgRDF)) :
    Changes sgName (withSRDFContext source body) := by
  unfold withSRDFContext
  rw [eq_ok_of_toOption hr]
  exact withClient_changes (changes_call (.ok (some sgRDF)) (withSGLock_changes hb))

theorem promoteGroup_changes (force : Bool) :
    Changes id.sgName (promoteGroup force id ⟨[synchronized], ["R2"]⟩) :=
  Changes.bind (changes_call_self (mem_singleton_self _)) _

theorem demoteGroup_changes (force : Bool) :
    Changes id.sgName (demoteGroup force id ⟨[synchronized], ["R1"]⟩) :=
  changes_call_self (mem_singleton_self _)

theorem resyncGroup_changes (force : Bool) :
    Changes id.sgName (resyncGroup force id ⟨[suspended], ["R1"]⟩) :=
  changes_call_self (mem_singleton_self _)

end

namespace AddonsRequest

variable {req : AddonsRequest} {id : VolumeGroupID}

theorem serve_changes (h : req.target = some id) (hg : req.checksPrefix = false) :
    Changes id.sgName req.serve := by
  cases req with
  | deleteVolumeGroup vgID =>
    refine Changes.bind ?_ _
    rw [Addons.deleteVolumeGroup, eq_ok_of_toOption h]
    exact withClient_changes (withSGLock_changes deleteGroup_changes)
  | modifyVolumeGroupMembership vgID volumeIDs =>
    refine Changes.bind ?_ _
    simp only [target] at h
    split at h
    case h_1 desired hd =>
      rw [Addons.modifyVolumeGroupMembership, eq_ok_of_toOption h]
      exact withClient_changes (withSGLock_changes (modifyGroup_changes hd))
    case h_2 => cases h
  | enableVolumeReplication source parameters =>
    obtain ⟨⟨id, params⟩, hr, rfl⟩ := Option.map_eq_some_iff.mp h
    refine Changes.bind ?_ _
    rw [Addons.enableVolumeReplication, eq_ok_of_toOption hr]
    exact withClient_changes (withSGLock_changes (protectStorageGroupCSIAddons_changes.bind _))
  | disableVolumeReplication source => cases hg
  | promoteVolume source force =>
    exact (withSRDFContext_changes h (promoteGroup_changes force)).bind _
  | demoteVolume source force => exact (withSRDFContext_changes h (demoteGroup_changes force)).bind _
  | resyncVolume source force => exact (withSRDFContext_changes h (resyncGroup_changes force)).bind _

theorem changesManaged_of_within {sgName : String} (hm : isCSIAddonsManagedSG sgName = true)
    (hw : Calls (Within sgName) req.serve) : req.ChangesManaged := by
  intro h c hc sg hsg
  rw [hw.issues hc sg hsg]
  exact hm

/-- A request changes storage groups of CSI-Addons only, exactly if it is rejected, or is
`DisableVolumeReplication`, or its ID names such a group. -/
theorem changesManaged_iff (req : AddonsRequest) :
    req.ChangesManaged ↔ ∀ id, req.target = some id →
      req.checksPrefix = true ∨ isCSIAddonsManagedSG id.sgName = true := by
  constructor
  · intro hr id ht
    rcases hg : req.checksPrefix with _ | _
    · obtain ⟨c, ⟨h, -, hc⟩, hmem⟩ := serve_changes ht hg
      exact .inr (hr h c hc id.sgName hmem)
    · exact .inl rfl
  · intro hr
    by_cases hs : ∃ id, req.target = some id ∧ isCSIAddonsManagedSG id.sgName = true
    · obtain ⟨id, ht, hm⟩ := hs
      refine changesManaged_of_within hm (serve_within fun id₁ ht₁ _ => ?_)
      rw [ht] at ht₁
      cases ht₁
      rfl
    · -- the request changes nothing, so that any name will do
      have hm : isCSIAddonsManagedSG csiAddonsManagedSGPrefix = true := by decide
      refine changesManaged_of_within hm (serve_within fun id ht hch => ?_)
      exfalso
      rcases hr id ht with hg | hsg
      · exact hs ⟨id, ht, hch hg⟩
      · exact hs ⟨id, ht, hsg⟩

end AddonsRequest

namespace ReplicatedNamespace

def protectedSG : String := "csi-rep-sg-demo-13-ASYNC"

def sourceSide : AddonsHistory :=
  [⟨.getPowerMaxClient ["000197900046"], .ok ()⟩,
   ⟨.rep (.requestLock (protectedSG ++ "000197900046")), .ok 1⟩,
   ⟨.rep (.getStorageGroup "000197900046" protectedSG), .ok (some ⟨protectedSG, "SRP_1", 2, 0, []⟩)⟩,
   ⟨.getProtectedStorageGroup "000197900046" protectedSG, .ok (some ⟨true, [13]⟩)⟩,
   ⟨.getStorageGroupRDFInfo "000197900046" protectedSG "13", .ok (some ⟨["Consistent"], ["R1"]⟩)⟩,
   ⟨.getRDFGroupByID "000197900046" "13", .ok ⟨⟨true, 2⟩, "000197900047"⟩⟩,
   ⟨.getPowerMaxClient ["000197900046", "000197900047"], .ok ()⟩]

/-- `DeleteVolumeGroup` suspends the replication of the namespace. -/
theorem suspended_by_delete : ¬ ∀ req : AddonsRequest, req.ChangesManaged := by
  intro hm
  have hs : Issues (AddonsRequest.deleteVolumeGroup
      "000197900046:csi-rep-sg-demo-13-ASYNC:13").serve sourceSide
      (.executeReplicationActionOnSG "000197900046" "Suspend" protectedSG "13" true false false) :=
    issues_of_follow (by decide +kernel)
  have hsg := hm _ _ _ hs protectedSG (mem_singleton_self _)
  revert hsg
  decide

end ReplicatedNamespace

end PowerMaxCsi.Addons
