import PowerMaxCsi.Service.DeleteVolumeCalls
import PowerMaxCsi.Service.Replication

/-!
# The cleanup of a device that was put off

`reconcileDeviceCleanup` of `service/service.go`.  If the handle names no remote device, the local
one is deleted, on the other array.
-/

namespace PowerMaxCsi.Service

open Strings Prog

def notFound : String := "not found"

inductive CleanupResult where
  | done
  | failed (err : String)
  | panics
deriving DecidableEq, Repr

def cleanupTarget (op : Journal.OpKey) (csiID : CsiID) : String × String :=
  if op.arrayID = csiID.remoteSymID ∧ csiID.remoteVolID ≠ "" then
    (csiID.remoteSymID, csiID.remoteVolID)
  else (csiID.arrayID, csiID.devID)

def reconcileDeviceCleanup (cfg : ServiceConfig) (op : Journal.OpKey) : CtrlProg CleanupResult := do
  match parseCsiID op.volumeID with
  | .panics => return .panics
  | .malformed text =>
    return .failed ("reconcileDeviceCleanup: parseCsiID(" ++ op.volumeID ++ "): " ++ text)
  | .ok csiID =>
    let (targetSymID, targetDevID) := cleanupTarget op csiID
    match ← Ctrl.getPowerMaxClient targetSymID "" with
    | .error err =>
      return .failed ("reconcileDeviceCleanup: GetPowerMaxClient(" ++ targetSymID ++ "): " ++ err)
    | .ok () =>
      match ← deleteVolume cfg targetSymID csiID.volName targetDevID with
      | none => return .done
      | some err =>
        if contains err.text notFound || contains err.text errorNotFound then return .done
        else return .failed err.text

section

variable {cfg : ServiceConfig} {op : Journal.OpKey} {csiID : CsiID}

theorem reconcileDeviceCleanup_within (hid : parseCsiID op.volumeID = .ok csiID) :
    Calls (CtrlCall.Within (cleanupTarget op csiID).1) (reconcileDeviceCleanup cfg op) := by
  simp only [reconcileDeviceCleanup, hid]
  refine ⟨⟨nofun, rfl⟩, ?_⟩
  rintro (err | _)
  · trivial
  refine deleteVolume_within.bind ?_
  rintro (_ | err)
  · trivial
  · exact Calls.ite trivial trivial

theorem reconcileDeviceCleanup_issues (hid : parseCsiID op.volumeID = .ok csiID) :
    Issues (reconcileDeviceCleanup cfg op)
      [⟨.getPowerMaxClient (cleanupTarget op csiID).1 "", .ok ()⟩]
      (.pmax (.getVolumeByID (cleanupTarget op csiID).1 (cleanupTarget op csiID).2)) := by
  simp only [reconcileDeviceCleanup, hid]
  exact .there .here

theorem cleanupTarget_onArray_iff (op : Journal.OpKey) (hop : op.arrayID = csiID.remoteSymID) :
    (cleanupTarget op csiID).1 = op.arrayID ↔
      csiID.remoteVolID ≠ "" ∨ csiID.arrayID = csiID.remoteSymID := by
  unfold cleanupTarget
  split
  case isTrue hr => exact iff_of_true hop.symm (.inl hr.2)
  case isFalse hl =>
    have he : ¬ csiID.remoteVolID ≠ "" := fun hne => hl ⟨hop, hne⟩
    rw [hop, or_iff_right he]

end

/-- The cleanup stays on the array of the operation if and only if the handle names a remote device,
or both its arrays are one. -/
theorem cleanup_onArray_iff (cfg cfg' : ServiceConfig) (id : String) (csiID : CsiID)
    (hid : parseCsiID id = .ok csiID) (h : History CtrlCall CtrlAnswer) (op : Journal.OpKey)
    (hd : Issues (deleteVolumeRequest cfg id) h
      (.deferOperation op.operationType op.volumeID op.arrayID op.rdfGroupNo)) :
    (∀ h' c, Issues (reconcileDeviceCleanup cfg' op) h' c → ∀ sym, c.array = some sym →
      sym = op.arrayID) ↔ csiID.remoteVolID ≠ "" ∨ csiID.arrayID = csiID.remoteSymID := by
  obtain rfl : op = ⟨id, .deviceCleanup, csiID.remoteSymID, ""⟩ :=
    (deleteVolumeRequest_cleans hid).issues hd op rfl
  rw [← cleanupTarget_onArray_iff ⟨id, .deviceCleanup, csiID.remoteSymID, ""⟩ rfl]
  constructor
  · intro hs
    exact hs _ _ (reconcileDeviceCleanup_issues hid) _ rfl
  · intro ht h' c hi sym hsy
    have hw := (reconcileDeviceCleanup_within hid).issues hi
    exact (hw.1 sym hsy).trans ht

section

def cleanupService : ServiceConfig := ⟨["000120000548"], true⟩

def fullHandle : String := "csi-ABC-pmax-1111111111-ns1-000120000548:000120000549-011AB:022CD"

def degradedHandle : String := "csi-ABC-pmax-1111111111-ns1-000120000548:000120000549-011AB:"

def cleanupVolume (identifier : String) : Volume := ⟨"011AB", identifier, [], false, false, 0⟩

def unreachableDelete (id remoteVolID : String) : History CtrlCall CtrlAnswer :=
  [⟨.getPowerMaxClient "000120000548" "000120000549", .ok ()⟩,
    ⟨.checkAndUpdatePendingState id, .ok ()⟩,
    ⟨.requireProbe, .ok ()⟩,
    ⟨.pmax (.getVolumeByID "000120000548" "011AB"),
      .ok (cleanupVolume "csi-ABC-pmax-1111111111-ns1")⟩,
    ⟨.pmax (.getVolumeByID "000120000548" "011AB"),
      .ok (cleanupVolume "csi-ABC-pmax-1111111111-ns1")⟩,
    ⟨.pmax (.renameVolume "000120000548" "011AB" "_DELcsi-ABC-pmax-1111111111-ns1"),
      .ok (some (cleanupVolume "_DELcsi-ABC-pmax-1111111111-ns1"))⟩,
    ⟨.deletionRequestChanHasRoom, true⟩,
    ⟨.getPowerMaxClient "000120000548" "", .ok ()⟩,
    ⟨.pmax (.getVolumeByID "000120000548" "011AB"),
      .ok (cleanupVolume "_DELcsi-ABC-pmax-1111111111-ns1")⟩,
    ⟨.deletionQueueChan "000120000548" "011AB" "_DELcsi-ABC-pmax-1111111111-ns1", ()⟩,
    ⟨.pmax (.renameVolume "000120000549" remoteVolID "csi-ABC-pmax-1111111111-ns1"),
      .error ⟨"dial tcp: connection refused", false⟩⟩]

def localCleanup : History CtrlCall CtrlAnswer :=
  [⟨.getPowerMaxClient "000120000548" "", .ok ()⟩,
    ⟨.pmax (.getVolumeByID "000120000548" "011AB"),
      .ok (cleanupVolume "_DELcsi-ABC-pmax-1111111111-ns1")⟩,
    ⟨.deletionRequestChanHasRoom, true⟩,
    ⟨.getPowerMaxClient "000120000548" "", .ok ()⟩,
    ⟨.pmax (.getVolumeByID "000120000548" "011AB"),
      .ok (cleanupVolume "_DELcsi-ABC-pmax-1111111111-ns1")⟩]

/-- A full handle: the cleanup stays on the remote array. -/
theorem fullHandle_onArray :
    Issues (deleteVolumeRequest cleanupService fullHandle) (unreachableDelete fullHandle "022CD")
      (.deferOperation .deviceCleanup fullHandle "000120000549" "") ∧
    ∀ h' c, Issues (reconcileDeviceCleanup cleanupService
      ⟨fullHandle, .deviceCleanup, "000120000549", ""⟩) h' c → ∀ sym, c.array = some sym →
        sym = "000120000549" := by
  have hd : Issues (deleteVolumeRequest cleanupService fullHandle)
      (unreachableDelete fullHandle "022CD")
      (.deferOperation .deviceCleanup fullHandle "000120000549" "") :=
    issues_of_follow (by decide +kernel)
  refine ⟨hd, ?_⟩
  exact (cleanup_onArray_iff cleanupService cleanupService fullHandle
    ⟨"csi-ABC-pmax-1111111111-ns1", "000120000548", "011AB", "000120000549", "022CD"⟩ (by decide)
    (unreachableDelete fullHandle "022CD") ⟨fullHandle, .deviceCleanup, "000120000549", ""⟩
    hd).mpr (.inl (by decide))

/-- The cleanup of a degraded handle queues the local device for deletion. -/
theorem degradedHandle_strays :
    ¬ ∀ (cfg cfg' : ServiceConfig) (id : String) (h : History CtrlCall CtrlAnswer)
      (op : Journal.OpKey),
      Issues (deleteVolumeRequest cfg id) h
        (.deferOperation op.operationType op.volumeID op.arrayID op.rdfGroupNo) →
      ∀ h' c, Issues (reconcileDeviceCleanup cfg' op) h' c → ∀ sym, c.array = some sym →
        sym = op.arrayID := by
  intro hc
  have hd : Issues (deleteVolumeRequest cleanupService degradedHandle)
      (unreachableDelete degradedHandle "")
      (.deferOperation .deviceCleanup degradedHandle "000120000549" "") :=
    issues_of_follow (by decide +kernel)
  have hq : Issues (reconcileDeviceCleanup cleanupService
      ⟨degradedHandle, .deviceCleanup, "000120000549", ""⟩) localCleanup
      (.deletionQueueChan "000120000548" "011AB" "_DELcsi-ABC-pmax-1111111111-ns1") :=
    issues_of_follow (by decide +kernel)
  have hs := hc cleanupService cleanupService degradedHandle _
    ⟨degradedHandle, .deviceCleanup, "000120000549", ""⟩ hd _ _ hq _ rfl
  revert hs
  decide

end

end PowerMaxCsi.Service
