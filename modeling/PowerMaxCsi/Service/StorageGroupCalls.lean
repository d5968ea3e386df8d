import PowerMaxCsi.Service.StorageGroupSvc

/-!
# What the functions of the storage group service call

The functions that work on the storage group of a batch stay with it, take and answer no request,
and dereference nil only without a client or a storage group.
-/

namespace PowerMaxCsi.Service

open Prog

/-- The client of a request is found, and a storage group that is read is there. -/
def WellAnswered : (c : SgCall) → SgAnswer c → Prop
  | .getPowerMaxClient _, .error _ => False
  | .pmax (.getStorageGroup _ _), .ok none => False
  | _, _ => True

/-- The calls that neither take nor answer a request, and do not end the run. -/
def SgCall.quiet : SgCall → Bool
  | .receiveAdd _ | .receiveRemove _ | .respondAdd _ _ | .respondRemove _ _ | .releaseToken _
  | .nilDereference | .loops => false
  | _ => true

/-- Calls for which the token of the storage group is enough, and which keep it. -/
def Within (key : String) : SgCall → Prop
  | .pmax (.addVolumesToStorageGroup symID sgID _) => getKey symID sgID = key
  | .pmax (.addVolumesToStorageGroupS symID sgID _) => getKey symID sgID = key
  | .pmax (.deleteMaskingView _ _) => False
  | .processing _ => False
  | .releaseToken _ => False
  | _ => True

/-- The kind includes the calls of the functions below, if the answers are good. -/
structure Includes (key : String) (good : (c : SgCall) → SgAnswer c → Prop) (P : SgCall → Prop) :
    Prop where
  quiet : ∀ c, c.quiet = true → Within key c → P c
  nil : ∀ symID sgID, good (.pmax (.getStorageGroup symID sgID)) (.ok none) → P .nilDereference

theorem includes_within (key : String) : Includes key (fun _ _ => True) (Within key) :=
  ⟨fun _ _ hw => hw, fun _ _ _ => trivial⟩

theorem includes_quiet (key : String) : Includes key WellAnswered fun c => c.quiet = true :=
  ⟨fun _ hq _ => hq, fun _ _ h => h.elim⟩

variable {key : String} {good : (c : SgCall) → SgAnswer c → Prop} {P : SgCall → Prop}

theorem nilDereference_calls {α : Type} (h : P .nilDereference) :
    CallsIf good P (Sg.nilDereference : SgProg α) :=
  ⟨h, fun r => r.elim⟩

variable (hP : Includes key good P)
include hP

theorem getMaskingViewAndSGDetailsFrom_calls (symID : String) (maskingViewIDs : List String)
    (storageGroups : List StorageGroup) (sgIDs : List String) :
    CallsIf good P (getMaskingViewAndSGDetailsFrom symID maskingViewIDs storageGroups sgIDs) := by
  induction sgIDs generalizing maskingViewIDs storageGroups with
  | nil => trivial
  | cons sgID sgIDs ih =>
    refine ⟨hP.quiet _ rfl trivial, ?_⟩
    rintro (err | _ | sg) hg
    · trivial
    · exact nilDereference_calls (hP.nil _ _ hg)
    · exact ih _ _

theorem removeFromGroup_calls (batch : Batch) (maskingViewDeleted : Bool) :
    CallsIf good P (removeFromGroup batch maskingViewDeleted) := by
  refine ⟨hP.quiet _ rfl trivial, ?_⟩
  rintro (err | _) -
  · trivial
  · exact CallsIf.ite ⟨hP.quiet _ rfl trivial, fun _ _ => trivial⟩ trivial

theorem addVolumeToSGMVVolumeCheck_calls (req : AddRequest) :
    CallsIf good P (addVolumeToSGMVVolumeCheck req) := by
  refine ⟨hP.quiet _ rfl trivial, ?_⟩
  rintro (err | _) -
  · trivial
  refine ⟨hP.quiet _ rfl trivial, ?_⟩
  rintro (err | vol) -
  · trivial
  refine (getMaskingViewAndSGDetailsFrom_calls hP _ _ _ _).bind ?_
  rintro (err | ⟨maskingViewIDs, storageGroups⟩)
  · trivial
  · exact CallsIf.ite trivial (CallsIf.ite trivial trivial)

theorem selectOrCreatePortGroup_calls (cfg : SgConfig) (symID : String) (host : Host) :
    CallsIf good P (selectOrCreatePortGroup cfg symID host) := by
  refine CallsIf.ite trivial (CallsIf.ite ?_ ?_)
  · exact ⟨hP.quiet _ rfl trivial, fun _ _ => trivial⟩
  · exact ⟨hP.quiet _ rfl trivial, fun _ _ => trivial⟩

theorem findHostGroup_calls (symID hostID : String) (hostGroupIDs : List String) :
    CallsIf good P (findHostGroup symID hostID hostGroupIDs) := by
  induction hostGroupIDs with
  | nil => trivial
  | cons hostGroupID hostGroupIDs ih =>
    refine ⟨hP.quiet _ rfl trivial, ?_⟩
    rintro (err | hostGroup) -
    · exact ih
    · exact CallsIf.ite trivial ih

theorem resolveMaskingViewTarget_calls (symID : String) (host : Host) :
    CallsIf good P (resolveMaskingViewTarget symID host) := by
  refine CallsIf.ite trivial (CallsIf.bind (p := findHostGroupForHost _ _) ⟨?_, ?_⟩ ?_)
  · exact hP.quiet _ rfl trivial
  · rintro (err | _ | hostGroupIDs) -
    · trivial
    · trivial
    · exact (findHostGroup_calls hP _ _ hostGroupIDs).bind fun _ => trivial
  · rintro (err | hostGroupID)
    · trivial
    · exact CallsIf.ite trivial trivial

theorem fetchHost_calls (cfg : SgConfig) (symID hostID : String) :
    CallsIf good P (fetchHost cfg symID hostID) := by
  refine ⟨hP.quiet _ rfl trivial, ?_⟩
  rintro (err | host) -
  · refine CallsIf.ite ⟨hP.quiet _ rfl trivial, ?_⟩ trivial
    rintro (err | hostg) - <;> trivial
  · trivial

theorem ensureStorageGroup_calls (symID sgID : String) :
    CallsIf good P (ensureStorageGroup symID sgID) := by
  refine ⟨hP.quiet _ rfl trivial, ?_⟩
  rintro (err | _ | sg) hg
  · refine ⟨hP.quiet _ rfl trivial, ?_⟩
    rintro (err | _) - <;> trivial
  · exact nilDereference_calls (hP.nil _ _ hg)
  · exact CallsIf.ite trivial trivial

theorem addToNewGroup_calls {symID sgID : String} (hk : getKey symID sgID = key)
    (devIDs : List String) : CallsIf good P (addToNewGroup symID sgID devIDs) := by
  cases devIDs with
  | nil => trivial
  | cons devID rest =>
    refine ⟨hP.quiet _ rfl trivial, ?_⟩
    rintro (err | vol) -
    · trivial
    · refine CallsIf.ite trivial ⟨hP.quiet _ rfl hk, ?_⟩
      rintro (err | _) - <;> trivial

theorem createMaskingViewFor_calls {symID sgID : String} (hk : getKey symID sgID = key)
    (cfg : SgConfig) (maskingViewID hostID : String) (devIDs : List String) :
    CallsIf good P (createMaskingViewFor cfg symID sgID maskingViewID hostID devIDs) := by
  refine (fetchHost_calls hP cfg symID hostID).bind ?_
  rintro (err | host)
  · trivial
  refine (selectOrCreatePortGroup_calls hP cfg symID host).bind ?_
  rintro (err | portGroupID)
  · trivial
  refine (ensureStorageGroup_calls hP symID sgID).bind ?_
  rintro (_ | err)
  case some => trivial
  refine (addToNewGroup_calls hP hk devIDs).bind ?_
  rintro (_ | err)
  case some => trivial
  refine (resolveMaskingViewTarget_calls hP symID host).bind ?_
  rintro (err | ⟨mvTargetID, mvTargetIsHost⟩)
  · trivial
  refine ⟨hP.quiet _ rfl trivial, ?_⟩
  rintro (err | _) - <;> trivial

theorem addVolumesToSGMV_calls {req : AddRequest} (hk : req.key = key) (cfg : SgConfig)
    (hasClient : Bool) (hc : hasClient = false → P .nilDereference) (devIDs : List String) :
    CallsIf good P (addVolumesToSGMV cfg hasClient req devIDs) := by
  refine ⟨hP.quiet _ rfl trivial, fun boot _ => CallsIf.ite trivial ?_⟩
  cases hasClient with
  | false => exact nilDereference_calls (hc rfl)
  | true =>
    refine ⟨hP.quiet _ rfl trivial, ?_⟩
    rintro (err | view) -
    · exact createMaskingViewFor_calls hP hk cfg _ _ devIDs
    · refine CallsIf.ite (CallsIf.ite trivial ⟨hP.quiet _ rfl hk, ?_⟩) trivial
      rintro (err | _) - <;> trivial

theorem readConnections_calls (req : AddRequest) : CallsIf good P (readConnections req) := by
  refine ⟨hP.quiet _ rfl trivial, ?_⟩
  rintro (err | lockNum) -
  · trivial
  · exact ⟨hP.quiet _ rfl trivial, fun _ _ => ⟨hP.quiet _ rfl trivial, fun _ _ => trivial⟩⟩

end PowerMaxCsi.Service
