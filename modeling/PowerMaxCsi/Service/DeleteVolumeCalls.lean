import PowerMaxCsi.Service.DeleteVolume

/-!
# What the calls of `DeleteVolume` are about

`deleteVolume` stays on its array and defers nothing, and `DeleteVolume` defers at most the cleanup
of its remote leg.  The names that they give to volumes are made of the name in the handle, or of
that on the array.
-/

namespace PowerMaxCsi.Service

open Prog

def PmaxCall.symID : PmaxCall → String
  | .getVersionDetails symID
  | .getVolumesByIdentifierMatch symID _
  | .getVolumeByID symID _
  | .getStorageGroup symID _
  | .renameVolume symID _ _
  | .deleteVolume symID _
  | .getFileSystemByID symID _
  | .getNFSExportList symID _
  | .deleteFileSystem symID _
  | .getMaskingViewByID symID _
  | .addVolumesToStorageGroup symID _ _
  | .addVolumesToStorageGroupS symID _ _
  | .removeVolumesFromStorageGroup symID _ _
  | .createStorageGroup symID _
  | .deleteStorageGroup symID _
  | .createMaskingView symID _ _ _ _ _
  | .deleteMaskingView symID _
  | .getMaskingViewConnections symID _
  | .getHostByID symID _
  | .getHostGroupList symID
  | .getHostGroupByID symID _ => symID

/-- The array that a call of the controller reads, changes or has the deletion worker
change. -/
def CtrlCall.array : CtrlCall → Option String
  | .pmax c => some c.symID
  | .deletionQueueChan symID _ _ => some symID
  | _ => none

def CtrlCall.deferred : CtrlCall → Option Journal.OpKey
  | .deferOperation operationType volumeID arrayID rdfGroupNo =>
    some ⟨volumeID, operationType, arrayID, rdfGroupNo⟩
  | _ => none

/-- The call stays on the array, and defers nothing. -/
def CtrlCall.Within (symID : String) (c : CtrlCall) : Prop :=
  (∀ sym, c.array = some sym → sym = symID) ∧ c.deferred = none

/-- The call stays on the array, and changes no name either. -/
def CtrlCall.Reads (symID : String) (c : CtrlCall) : Prop :=
  c.Within symID ∧ ∀ sym dev newName, c ≠ .pmax (.renameVolume sym dev newName)

def CtrlCall.Idle (symID : String) (c : CtrlCall) : Prop :=
  c.Reads symID ∧ ∀ sym dev, c ≠ .pmax (.getVolumeByID sym dev)

/-- The call gives no volume a name, but the one in the handle, with the tag of a source of
snapshots or without it, or one that marks the volume for deletion. -/
def CtrlCall.RenamesAfter (volName : String) (c : CtrlCall) : Prop :=
  ∀ sym dev newName, c = .pmax (.renameVolume sym dev newName) →
    newName = volName ∨ newName = sourceName volName ∨ ∃ old, newName = deletionName old

/-- The call defers nothing, or the cleanup of this handle on this array. -/
def CtrlCall.Cleans (id remoteSymID : String) (c : CtrlCall) : Prop :=
  ∀ key, c.deferred = some key → key = ⟨id, .deviceCleanup, remoteSymID, ""⟩

theorem CtrlCall.Within.cleans {symID id remoteSymID : String} {c : CtrlCall}
    (hc : c.Within symID) : c.Cleans id remoteSymID := by
  intro key hk
  rw [hc.2] at hk
  cases hk

section

variable {cfg : ServiceConfig} {symID volName devID : String}

theorem within_pmax {c : PmaxCall} (hc : c.symID = symID) : (CtrlCall.pmax c).Within symID := by
  refine ⟨?_, rfl⟩
  rintro _ ⟨⟩
  exact hc

theorem reads_pmax {c : PmaxCall} (hc : c.symID = symID)
    (hr : ∀ sym dev newName, c ≠ .renameVolume sym dev newName) : (CtrlCall.pmax c).Reads symID :=
  ⟨within_pmax hc, fun sym dev newName heq => hr sym dev newName (CtrlCall.pmax.inj heq)⟩

theorem reads_getVolumeByID (symID devID : String) :
    (CtrlCall.pmax (.getVolumeByID symID devID)).Reads symID := reads_pmax rfl nofun

theorem idle_of_array_none {c : CtrlCall} (symID : String) (ha : c.array = none)
    (hd : c.deferred = none) : c.Idle symID := by
  refine ⟨⟨⟨fun sym hs => ?_, hd⟩, ?_⟩, ?_⟩
  · rw [ha] at hs
    cases hs
  · rintro sym dev newName rfl
    cases ha
  · rintro sym dev rfl
    cases ha

theorem queueDeviceForDeletion_reads {volumeIdentifier : String} :
    Calls (CtrlCall.Reads symID) (queueDeviceForDeletion cfg devID volumeIdentifier symID) := by
  refine ⟨⟨⟨nofun, rfl⟩, nofun⟩, ?_⟩
  rintro (_ | _)
  · trivial
  refine Calls.ite trivial ⟨⟨⟨nofun, rfl⟩, nofun⟩, ?_⟩
  rintro (err | _)
  · trivial
  refine ⟨reads_pmax rfl nofun, ?_⟩
  rintro (err | vol)
  · trivial
  cases deletionRequestError devID volumeIdentifier symID with
  | some err => trivial
  | none =>
    cases getDeviceID devID with
    | error err => trivial
    | ok d =>
      refine ⟨⟨⟨?_, rfl⟩, nofun⟩, fun _ => trivial⟩
      rintro _ ⟨⟩
      rfl

theorem markVolumeForDeletion_within {vol : Volume} :
    Calls (CtrlCall.Within symID) (markVolumeForDeletion cfg symID vol) := by
  refine ⟨within_pmax rfl, ?_⟩
  rintro (err | _ | renamed)
  · trivial
  · trivial
  · exact queueDeviceForDeletion_reads.mono fun _ hc => hc.1

theorem checkMaskingViews_reads (sgids : List String) :
    Calls (CtrlCall.Reads symID) (checkMaskingViews symID sgids) := by
  induction sgids with
  | nil => trivial
  | cons sgid rest ih =>
    refine ⟨reads_pmax rfl nofun, ?_⟩
    rintro (err | _ | sg)
    · trivial
    · trivial
    · exact Calls.ite trivial ih

theorem deleteVolume_within :
    Calls (CtrlCall.Within symID) (deleteVolume cfg symID volName devID) := by
  refine ⟨within_pmax rfl, ?_⟩
  rintro (err | vol)
  · exact Calls.ite trivial trivial
  refine Calls.ite (((checkMaskingViews_reads _).mono fun _ hc => hc.1).bind ?_)
    (Calls.ite ((queueDeviceForDeletion_reads.mono fun _ hc => hc.1).bind fun _ => trivial) trivial)
  rintro (_ | err)
  · refine Calls.ite ⟨within_pmax rfl, ?_⟩ (markVolumeForDeletion_within.bind fun _ => trivial)
    rintro (err | _ | renamed) <;> trivial
  · trivial

theorem CtrlCall.Reads.renamesAfter {c : CtrlCall} (hc : c.Reads symID) : c.RenamesAfter volName :=
  fun sym dev newName heq => absurd heq (hc.2 sym dev newName)

theorem deleteVolume_renamesAfter :
    Calls (CtrlCall.RenamesAfter volName) (deleteVolume cfg symID volName devID) := by
  have hq {dev volumeIdentifier : String} : Calls (CtrlCall.RenamesAfter volName)
      (queueDeviceForDeletion cfg dev volumeIdentifier symID) :=
    queueDeviceForDeletion_reads.mono fun _ hc => hc.renamesAfter
  refine ⟨nofun, ?_⟩
  rintro (err | vol)
  · exact Calls.ite trivial trivial
  refine Calls.ite (((checkMaskingViews_reads _).mono fun _ hc => hc.renamesAfter).bind ?_)
    (Calls.ite (hq.bind fun _ => trivial) trivial)
  rintro (_ | err)
  case some => trivial
  refine Calls.ite ⟨?_, ?_⟩ (Calls.bind ⟨?_, ?_⟩ fun _ => trivial)
  · rintro _ _ _ ⟨⟩
    exact .inr (.inl rfl)
  · rintro (err | _ | renamed) <;> trivial
  · rintro _ _ _ ⟨⟩
    exact .inr (.inr ⟨_, rfl⟩)
  · rintro (err | _ | renamed)
    · trivial
    · trivial
    · exact hq

theorem deleteFileSystem_idle {fsName fsID : String} :
    Calls (CtrlCall.Idle symID) (deleteFileSystem symID fsName fsID) := by
  refine ⟨⟨reads_pmax rfl nofun, nofun⟩, ?_⟩
  rintro (err | name)
  · exact Calls.ite trivial trivial
  refine Calls.ite trivial ⟨⟨reads_pmax rfl nofun, nofun⟩, ?_⟩
  rintro (_ | _ | _)
  · trivial
  · refine ⟨⟨reads_pmax rfl nofun, nofun⟩, ?_⟩
    rintro (_ | _) <;> trivial
  · trivial

end

section

variable {cfg : ServiceConfig} {id : String} {csiID : CsiID}

theorem deleteRemote_calls {P : CtrlCall → Prop}
    (hr : P (.pmax (.renameVolume csiID.remoteSymID csiID.remoteVolID csiID.volName)))
    (hv : Calls P (deleteVolume cfg csiID.remoteSymID csiID.volName csiID.remoteVolID))
    (hd : P (.deferOperation .deviceCleanup id csiID.remoteSymID "")) :
    Calls P (deleteRemote cfg id csiID) := by
  have hc : Calls P (deferCleanup id csiID.remoteSymID) := by
    refine ⟨hd, ?_⟩
    rintro (err | token) <;> trivial
  refine ⟨hr, ?_⟩
  rintro (err | vol)
  · exact Calls.ite trivial (Calls.ite hc trivial)
  · refine hv.bind ?_
    rintro (_ | err)
    · trivial
    · exact Calls.ite hc trivial

/-- Before the legs are deleted, the request only reads. -/
theorem deleteVolumeRequest_calls {P : CtrlCall → Prop} (hid : parseCsiID id = .ok csiID)
    (hi : ∀ c, c.Reads csiID.arrayID → P c)
    (hv : Calls P (deleteVolume cfg csiID.arrayID csiID.volName csiID.devID))
    (hr : Calls P (deleteRemote cfg id csiID)) : Calls P (deleteVolumeRequest cfg id) := by
  have hn {c : CtrlCall} (ha : c.array = none) (hd : c.deferred = none) : P c :=
    hi c (idle_of_array_none _ ha hd).1
  simp only [deleteVolumeRequest, hid]
  refine ⟨hn rfl rfl, ?_⟩
  rintro (_ | _)
  · trivial
  refine ⟨hn rfl rfl, ?_⟩
  rintro (_ | _)
  · trivial
  refine ⟨hn rfl rfl, ?_⟩
  rintro (_ | _)
  · trivial
  refine ⟨hi _ (reads_getVolumeByID ..), ?_⟩
  rintro (_ | vol)
  · exact deleteFileSystem_idle.mono fun c hc => hi c hc.1
  refine hv.bind ?_
  rintro (_ | err)
  · exact Calls.ite hr trivial
  · trivial

theorem deleteVolumeRequest_renamesAfter (hid : parseCsiID id = .ok csiID) :
    Calls (CtrlCall.RenamesAfter csiID.volName) (deleteVolumeRequest cfg id) := by
  refine deleteVolumeRequest_calls hid (fun _ hc => hc.renamesAfter) deleteVolume_renamesAfter ?_
  refine deleteRemote_calls ?_ deleteVolume_renamesAfter nofun
  rintro _ _ _ ⟨⟩
  exact .inl rfl

theorem deleteVolumeRequest_cleans (hid : parseCsiID id = .ok csiID) :
    Calls (CtrlCall.Cleans id csiID.remoteSymID) (deleteVolumeRequest cfg id) := by
  have hc {symID volName devID : String} : Calls (CtrlCall.Cleans id csiID.remoteSymID)
      (deleteVolume cfg symID volName devID) :=
    deleteVolume_within.mono fun _ => CtrlCall.Within.cleans
  refine deleteVolumeRequest_calls hid (fun _ hc => hc.1.cleans) hc ?_
  refine deleteRemote_calls nofun hc ?_
  rintro _ ⟨⟩
  rfl

theorem deleteVolumeRequest_defers (cfg : ServiceConfig) (id : String) :
    Calls (fun c => ∀ key, c.deferred = some key → key.operationType = .deviceCleanup)
      (deleteVolumeRequest cfg id) := by
  cases hid : parseCsiID id with
  | ok csiID =>
    refine (deleteVolumeRequest_cleans hid).mono fun c hc key hk => ?_
    rw [hc key hk]
  | malformed text =>
    simp only [deleteVolumeRequest, hid]
    trivial
  | panics =>
    simp only [deleteVolumeRequest, hid]
    trivial

end

end PowerMaxCsi.Service
