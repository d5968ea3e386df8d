import PowerMaxCsi.Service.DeletionQueue

/-!
# A deletion step deletes only what was queued and checked

All devices that a range covers were queued in state `deleteVolume` and read in the same step,
clean; a successful deletion moves exactly their entries to state `deleted`.
-/

namespace PowerMaxCsi.Service

open Prog List DeletionQueue

/-- The device IDs are five upper-case hexadecimal digits, with their numbers, and
distinct. -/
structure DeletionQueue.WellFormed (queue : DeletionQueue) : Prop where
  valid : ∀ d ∈ queue.deviceList, d.symDeviceID.Valid
  distinct : (queue.deviceList.map fun d => d.symDeviceID.deviceID).Nodup

/-- The volume was read, in bulk or on its own, with the identifier and the storage groups. -/
def ReadAs (h : PmaxHistory) (symID volumeID identifier : String)
    (storageGroups : List String) : Prop :=
  (∃ volumeIDPrefix volumes volume,
    (⟨.getVolumesByIdentifierMatch symID volumeIDPrefix, .ok volumes⟩ : Entry _ _) ∈ h ∧
    DeletionQueue.volumeMap volumes volumeID = some volume ∧
    volume.identifier = identifier ∧ volume.storageGroups = storageGroups) ∨
  ∃ volume : Volume, (⟨.getVolumeByID symID volumeID, .ok volume⟩ : Entry _ _) ∈ h ∧
    volume.volumeIdentifier = identifier ∧ volume.storageGroupIDList = storageGroups

def ReadClean (h : PmaxHistory) (symID : String) (d : CsiDevice) : Prop :=
  ReadAs h symID d.symDeviceID.deviceID d.volumeIdentifier []

variable {symID : String} {h : PmaxHistory} {d d' : CsiDevice}

theorem ReadAs.mono {h' : PmaxHistory} {volumeID identifier : String}
    {storageGroups : List String} (hr : ReadAs h symID volumeID identifier storageGroups)
    (hh : h <+: h') : ReadAs h' symID volumeID identifier storageGroups := by
  rcases hr with ⟨p, volumes, volume, hmem, hre⟩ | ⟨volume, hmem, hre⟩
  · exact .inl ⟨p, volumes, volume, hh.subset hmem, hre⟩
  · exact .inr ⟨volume, hh.subset hmem, hre⟩

/-- The numbers from `lo` to `hi` are of devices in state `deleteVolume` that were read clean. -/
def Checked (queue : DeletionQueue) (h : PmaxHistory) (lo hi : Int) : Prop :=
  ∀ n, lo ≤ n → n ≤ hi → ∃ d ∈ queue.deviceList, d.symDeviceID.intVal = n ∧
    d.status.state = .deleteVol ∧ ReadClean h queue.symID d

def Covers (queue : DeletionQueue) (h : PmaxHistory) (range : String) : Prop :=
  ∃ lo hi, rangeNumbers range = some (lo, hi) ∧ lo ≤ hi ∧ Checked queue h lo hi

/-- The history holds a successful deletion of a range that covers the number. -/
def DeletedIn (h : PmaxHistory) (symID : String) (n : Int) : Prop :=
  ∃ range lo hi, (⟨.deleteVolume symID range, .ok ()⟩ : Entry PmaxCall PmaxAnswer) ∈ h ∧
    rangeNumbers range = some (lo, hi) ∧ lo ≤ n ∧ n ≤ hi

/-- Anything that deletes nothing, and deletions that cover checked devices only. -/
def AllowedCall (queue : DeletionQueue) (h : PmaxHistory) : PmaxCall → Prop
  | .deleteVolume symID range => symID = queue.symID ∧ Covers queue h range
  | _ => True

def ReadOnly (_ : PmaxHistory) : PmaxCall → Prop
  | .renameVolume _ _ _ | .deleteVolume _ _ | .deleteFileSystem _ _ => False
  | _ => True

variable {queue : DeletionQueue}

theorem ReadOnly.allowed (h : PmaxHistory) (c : PmaxCall) (hc : ReadOnly h c) :
    AllowedCall queue h c := by
  cases c with
  | deleteVolume symID range => exact hc.elim
  | _ => trivial

@[simp] theorem CsiDevice.updateStatus_symDeviceID (d : CsiDevice) (state : DeletionState)
    (msg : String) : (d.updateStatus state msg).symDeviceID = d.symDeviceID := by
  unfold updateStatus
  split
  · rfl
  · dsimp only
    split <;> rfl

theorem CsiDevice.updateStatus_state (d : CsiDevice) (state : DeletionState) (msg : String) :
    (d.updateStatus state msg).status.state = state ∨
      (d.updateStatus state msg).status.state = .maxedOut := by
  unfold updateStatus
  split
  · exact .inl rfl
  · dsimp only
    split
    · exact .inr rfl
    · exact .inl rfl

@[simp] theorem CsiDevice.updateStatus_state_noError (d : CsiDevice) (state : DeletionState) :
    (d.updateStatus state "").status.state = state := rfl

def Kept (d d' : CsiDevice) : Prop :=
  d'.symDeviceID = d.symDeviceID ∧ (d'.status.state = .deleted → d.status.state = .deleted)

theorem Kept.refl (d : CsiDevice) : Kept d d := ⟨rfl, id⟩

theorem kept_updateStatus (h : Kept d d') {state : DeletionState}
    (hst : state = .deleted → d.status.state = .deleted) (msg : String) :
    Kept d (d'.updateStatus state msg) := by
  refine ⟨(d'.updateStatus_symDeviceID state msg).trans h.1, fun hd => ?_⟩
  rcases d'.updateStatus_state state msg with hs | hs
  · exact hst (hs.symm.trans hd)
  · rw [hs] at hd
    simp at hd

section

variable {symID : String} {version : Int} {bulk : String → Option VolumeEnhanced}

def BulkRead (h : PmaxHistory) (symID : String) (bulk : String → Option VolumeEnhanced) : Prop :=
  ∀ volumeID volume, bulk volumeID = some volume →
    ReadAs h symID volumeID volume.identifier volume.storageGroups

theorem apiVersion_safe (h : PmaxHistory) :
    Safe ReadOnly (fun _ _ => True) h (apiVersion symID) := by
  refine ⟨trivial, fun r => ?_⟩
  cases r <;> exact trivial

theorem bulkVolumes_safe (queue : DeletionQueue) (h : PmaxHistory) :
    Safe ReadOnly (fun h' bulk => BulkRead h' queue.symID bulk) h
      (queue.bulkVolumes version) := by
  unfold bulkVolumes
  split
  · refine ⟨trivial, fun r => ?_⟩
    cases r with
    | error err => exact fun _ _ hn => by simp at hn
    | ok volumes =>
      exact fun volumeID volume hv =>
        .inl ⟨_, volumes, volume, mem_concat_self, hv,
          rfl, rfl⟩
  · exact fun _ _ hn => by simp at hn

variable {h : PmaxHistory} (hb : BulkRead h symID bulk)

include hb

theorem readDevice_safe (d : CsiDevice) :
    Safe ReadOnly
      (fun h' r => (∃ cache, r.1 = { d with symVolumeCache := cache }) ∧
        ∀ identifier sgCount, r.2 = .ok (identifier, sgCount) →
          ∃ sgs : List String, sgs.length = sgCount ∧
            ReadAs h' symID d.symDeviceID.deviceID identifier sgs)
      h (readDevice symID version bulk d) := by
  unfold readDevice
  split
  case h_1 volume hv _ =>
    refine ⟨⟨d.symVolumeCache, rfl⟩, fun identifier sgCount hok => ?_⟩
    cases hok
    exact ⟨volume.storageGroups, rfl, hb _ _ hv⟩
  case h_2 =>
    refine ⟨trivial, fun r => ?_⟩
    cases r with
    | error err => exact ⟨⟨none, rfl⟩, fun identifier sgCount hok => by cases hok⟩
    | ok volume =>
      refine ⟨⟨some volume, rfl⟩, fun identifier sgCount hok => ?_⟩
      cases hok
      exact ⟨volume.storageGroupIDList, rfl, .inr ⟨volume, by simp, rfl, rfl⟩⟩

theorem checkDevice_safe (d : CsiDevice) :
    Safe ReadOnly
      (fun h' r => Kept d r.1 ∧ ∀ id ∈ r.2, id = d.symDeviceID ∧
        d.status.state = .deleteVol ∧ ReadClean h' symID d)
      h (checkDevice symID version bulk d) := by
  unfold checkDevice
  split
  case isFalse => exact ⟨Kept.refl d, by simp⟩
  case isTrue hs =>
    refine Safe.bind (readDevice_safe hb d) ?_
    rintro h' ⟨d', r⟩ hh ⟨⟨cache, rfl⟩, hr⟩
    have hk : Kept d { d with symVolumeCache := cache } := ⟨rfl, id⟩
    cases r with
    | error err => exact ⟨kept_updateStatus hk id err.text, by simp⟩
    | ok read =>
      obtain ⟨identifier, sgCount⟩ := read
      dsimp only
      split
      case isTrue => exact ⟨kept_updateStatus hk (by simp) "", by simp⟩
      case isFalse hc =>
        split
        case isTrue => exact ⟨kept_updateStatus hk (by simp) _, by simp⟩
        case isFalse hi =>
          rw [not_not] at hc hi
          subst hc hi
          refine ⟨hk, fun id hid => ?_⟩
          obtain ⟨sgs, hsg, hr⟩ := hr d.volumeIdentifier 0 rfl
          rw [length_eq_zero_iff] at hsg
          subst hsg
          exact ⟨mem_singleton.mp hid, hs, hr⟩

/-- Entries are kept, and the devices that are to be deleted have been read clean. -/
theorem checkDevices_safe (devices : List CsiDevice) :
    Safe ReadOnly
      (fun h' r => List.Forall₂ Kept devices r.1 ∧ ∀ id ∈ r.2, ∃ d ∈ devices,
        id = d.symDeviceID ∧ d.status.state = .deleteVol ∧ ReadClean h' symID d)
      h (checkDevices symID version bulk devices) := by
  induction devices generalizing h with
  | nil => exact ⟨.nil, by simp⟩
  | cons d devices ih =>
    refine Safe.bind (checkDevice_safe hb d) ?_
    rintro h₁ ⟨d', ids⟩ hh₁ ⟨hke, hi⟩
    have hb₁ : BulkRead h₁ symID bulk := fun volumeID volume hv =>
      (hb volumeID volume hv).mono hh₁
    refine Safe.bind (ih hb₁) ?_
    rintro h₂ ⟨devices', restIDs⟩ hh₂ ⟨hk, hr⟩
    refine ⟨.cons hke hk, fun id hid => ?_⟩
    rcases mem_append.mp hid with hid | hid
    · obtain ⟨hid, hs, hre⟩ := hi id hid
      exact ⟨d, by simp, hid, hs, hre.mono hh₂⟩
    · obtain ⟨d₂, hd₂, hr⟩ := hr id hid
      exact ⟨d₂, by simp [hd₂], hr⟩

omit hb

/-- Entries are kept, nothing is deleted, and devices to be deleted have been read clean. -/
theorem selectDevices_safe (queue : DeletionQueue) :
    Safe ReadOnly
      (fun h r => (List.Forall₂ Kept queue.deviceList r.1 ∧ ∀ id ∈ r.2, ∃ d ∈ queue.deviceList,
        id = d.symDeviceID ∧ d.status.state = .deleteVol ∧ ReadClean h queue.symID d) ∧
        ∀ e ∈ h, e ∈ [] ∨ ReadOnly [] e.1)
      [] queue.selectDevices := by
  refine Safe.entries (Safe.bind (apiVersion_safe []) fun h₁ version _ _ =>
    Safe.bind (bulkVolumes_safe queue h₁) fun h₂ bulk _ hb =>
      checkDevices_safe hb queue.deviceList) fun _ c hc => ?_
  cases c <;> exact hc

end

theorem foldl_find_mem {ranges : List DeviceRange} (ids : List SymDeviceID) {chosen : DeviceRange}
    (hi : ∀ id ∈ ids, ∃ r ∈ ranges, r.isDeviceIDInRange id = true)
    (hc : chosen ∈ ranges ∨ ids ≠ []) :
    ids.foldl (fun chosen id => (ranges.find? (·.isDeviceIDInRange id)).getD chosen) chosen ∈
      ranges := by
  induction ids generalizing chosen with
  | nil => simpa using hc
  | cons id ids ih =>
    refine ih (fun id' hid' => hi id' (by simp [hid'])) (.inl ?_)
    dsimp only
    cases hf : ranges.find? (·.isDeviceIDInRange id) with
    | some r => exact mem_of_find?_eq_some hf
    | none =>
      obtain ⟨r, hr, hin⟩ := hi id (by simp)
      exact absurd hin (List.find?_eq_none.mp hf r hr)

theorem DeviceRange.Within.mono {r : DeviceRange} {devices devices' : List SymDeviceID}
    (h : r.Within devices) (hs : ∀ d ∈ devices, d ∈ devices') : r.Within devices' where
  start_mem := hs _ h.start_mem
  stop_mem := hs _ h.stop_mem
  le := h.le
  filled n hlo hhi := by
    obtain ⟨d, hd, hn⟩ := h.filled n hlo hhi
    exact ⟨d, hs d hd, hn⟩

theorem chooseRange_within {ids : List SymDeviceID} (hne : ids ≠ []) :
    (chooseRange ids).Within ids := by
  have hp := perm_insertionSort (fun i j : SymDeviceID => i.intVal ≤ j.intVal) ids
  refine (within_of_mem_getDeviceRanges (foldl_find_mem ids (fun id hid => ?_)
    (.inr hne))).mono fun d hd => hp.mem_iff.mp hd
  exact exists_mem_getDeviceRanges (hp.mem_iff.mpr hid)

def recordDevice (outcome : Except PmaxError Unit) (volumeIDs : List String) (d : CsiDevice) :
    CsiDevice :=
  volumeIDs.foldl (fun dev volumeID =>
    if volumeID = dev.symDeviceID.deviceID then
      match outcome with
      | .error err => dev.updateStatus dev.status.state err.text
      | .ok () => dev.updateStatus .deleted ""
    else dev) d

theorem recordDeletion_eq_map (outcome : Except PmaxError Unit) (volumeIDs : List String)
    (devices : List CsiDevice) :
    recordDeletion outcome volumeIDs devices =
      devices.map (recordDevice outcome volumeIDs) := by
  induction volumeIDs generalizing devices with
  | nil => exact (map_id' devices).symm
  | cons volumeID volumeIDs ih =>
    refine (ih _).trans ?_
    rw [map_map]
    rfl

theorem recordDevice_error {d₀ : CsiDevice} (h : Kept d₀ d) (err : PmaxError)
    (volumeIDs : List String) : Kept d₀ (recordDevice (.error err) volumeIDs d) := by
  induction volumeIDs generalizing d with
  | nil => exact h
  | cons volumeID volumeIDs ih =>
    refine ih ?_
    dsimp only
    split
    · exact kept_updateStatus h h.2 err.text
    · exact h

theorem recordDevice_ok (d : CsiDevice) (volumeIDs : List String) :
    (recordDevice (.ok ()) volumeIDs d).symDeviceID = d.symDeviceID ∧
      (recordDevice (.ok ()) volumeIDs d).status.state =
        if d.symDeviceID.deviceID ∈ volumeIDs then .deleted else d.status.state := by
  induction volumeIDs generalizing d with
  | nil => exact ⟨rfl, by simp [recordDevice]⟩
  | cons volumeID volumeIDs ih =>
    by_cases hid : volumeID = d.symDeviceID.deviceID
    · obtain ⟨hsy, hst⟩ := ih (d.updateStatus .deleted "")
      have hs : recordDevice (.ok ()) (volumeID :: volumeIDs) d =
          recordDevice (.ok ()) volumeIDs (d.updateStatus .deleted "") := by
        simp [recordDevice, hid]
      rw [hs, hsy, hst]
      simp [hid]
    · have hs : recordDevice (.ok ()) (volumeID :: volumeIDs) d =
          recordDevice (.ok ()) volumeIDs d := by
        simp [recordDevice, hid]
      rw [hs, (ih d).1, (ih d).2]
      simp [Ne.symm hid]

/-- An entry is moved to `deleted` exactly if a successful deletion covers its number. -/
def Moves (h : PmaxHistory) (symID : String) (d d' : CsiDevice) : Prop :=
  d'.symDeviceID = d.symDeviceID ∧
    (d.status.state ≠ .deleted ∧ d'.status.state = .deleted ↔
      DeletedIn h symID d.symDeviceID.intVal)

theorem Kept.moves (hk : Kept d d') (hn : ∀ n, ¬ DeletedIn h symID n) : Moves h symID d d' :=
  ⟨hk.1, fun hm => absurd (hk.2 hm.2) hm.1, fun hd => absurd hd (hn _)⟩

theorem not_deletedIn (hro : ∀ e ∈ h, ReadOnly [] e.1) (n : Int) : ¬ DeletedIn h symID n := by
  rintro ⟨range, lo, hi, hmem, -⟩
  exact hro _ hmem

theorem deletedIn_append {range : String} {lo hi : Int}
    (hro : ∀ e ∈ h, ReadOnly [] e.1) (hr : rangeNumbers range = some (lo, hi))
    (outcome : Except PmaxError Unit) (n : Int) :
    DeletedIn (h ++ [⟨.deleteVolume symID range, outcome⟩]) symID n ↔
      outcome = .ok () ∧ lo ≤ n ∧ n ≤ hi := by
  constructor
  · rintro ⟨range', lo', hi', hmem, hr', hlo, hhi⟩
    rcases mem_append.mp hmem with hmem | hmem
    · exact (hro _ hmem).elim
    · rw [mem_singleton] at hmem
      cases hmem
      cases hr.symm.trans hr'
      exact ⟨rfl, hlo, hhi⟩
  · rintro ⟨rfl, hlo, hhi⟩
    exact ⟨range, lo, hi, by simp, hr, hlo, hhi⟩

variable (hq : queue.WellFormed)

include hq

/-- A device that is queued already is refused. -/
theorem DeletionQueue.WellFormed.queueDeviceForDeletion {queue' : DeletionQueue}
    {device : CsiDevice} (hde : device.symDeviceID.Valid)
    (h : queue.queueDeviceForDeletion device = .ok queue') : queue'.WellFormed := by
  unfold DeletionQueue.queueDeviceForDeletion at h
  split at h
  case h_1 => simp at h
  case h_2 hn =>
    cases h
    refine ⟨?_, ?_⟩
    · exact forall_mem_append.mpr ⟨hq.valid, forall_mem_singleton.mpr hde⟩
    · rw [map_append]
      refine hq.distinct.append (nodup_singleton _) ?_
      rw [map_cons, map_nil, disjoint_singleton, mem_map]
      rintro ⟨d, hd, hid⟩
      have hne := List.find?_eq_none.mp hn d hd
      simp [CsiDevice.equals, hid] at hne

theorem DeletionQueue.WellFormed.eq_of_intVal_eq (hd : d ∈ queue.deviceList)
    (hd' : d' ∈ queue.deviceList) (hn : d.symDeviceID.intVal = d'.symDeviceID.intVal) : d = d' := by
  have hid := (hq.valid d hd).eq_of_intVal_eq (hq.valid d' hd') hn
  exact inj_on_of_nodup_map hq.distinct hd hd' (congrArg SymDeviceID.deviceID hid)

theorem moves_recordDevice (hro : ∀ e ∈ h, ReadOnly [] e.1) {r : DeviceRange} (hst : r.start.Valid)
    (hr : rangeNumbers r.get = some (r.start.intVal, r.stop.intVal))
    (hc : Checked queue h r.start.intVal r.stop.intVal) (hd : d ∈ queue.deviceList) (hk : Kept d d')
    (outcome : Except PmaxError Unit) :
    Moves (h ++ [⟨.deleteVolume queue.symID r.get, outcome⟩]) queue.symID d
      (recordDevice outcome r.getDeviceIDs d') := by
  cases outcome with
  | error err =>
    refine (recordDevice_error hk err _).moves fun n hde => ?_
    exact absurd ((deletedIn_append hro hr _ n).mp hde).1 (by simp)
  | ok u =>
    obtain ⟨hsy, hs⟩ := recordDevice_ok d' r.getDeviceIDs
    refine ⟨hsy.trans hk.1, ?_⟩
    rw [deletedIn_append hro hr, hs, hk.1]
    simp only [mem_getDeviceIDs hst (hq.valid d hd)]
    constructor
    · rintro ⟨hno, hde⟩
      refine ⟨trivial, ?_⟩
      by_contra ho
      rw [if_neg ho] at hde
      exact hno (hk.2 hde)
    · rintro ⟨-, hin⟩
      obtain ⟨d₂, hd₂, hn, hs₂, -⟩ := hc _ hin.1 hin.2
      obtain rfl := hq.eq_of_intVal_eq hd₂ hd hn
      rw [if_pos hin, hs₂]
      exact ⟨by simp, rfl⟩

/-- **A deletion step** asks for checked devices only, and moves exactly the covered entries. -/
theorem deleteVolumes_safe :
    Safe (AllowedCall queue)
      (fun h r => List.Forall₂ (Moves h queue.symID) queue.deviceList r.1.deviceList)
      [] queue.deleteVolumes := by
  unfold deleteVolumes
  split
  case isTrue hem =>
    rw [length_eq_zero_iff] at hem
    simp [hem]
  case isFalse =>
    refine Safe.bind ((selectDevices_safe queue).weaken ReadOnly.allowed) ?_
    rintro h ⟨devices, ids⟩ - ⟨⟨hk, hi⟩, hen⟩
    have hro : ∀ e ∈ h, ReadOnly [] e.1 := fun e he => (hen e he).resolve_left (by simp)
    dsimp only at hk hi ⊢
    split
    case isFalse => exact hk.imp fun d d' hke => hke.moves (not_deletedIn hro)
    case isTrue hp =>
      have hw := chooseRange_within (length_pos_iff.mp hp)
      generalize chooseRange ids = r at hw ⊢
      have hv : ∀ id ∈ ids, id.Valid := by
        intro id hid
        obtain ⟨d, hd, rfl, -⟩ := hi id hid
        exact hq.valid d hd
      have hs := hv _ hw.start_mem
      have hr := rangeNumbers_get hs (hv _ hw.stop_mem)
      have hc : Checked queue h r.start.intVal r.stop.intVal := by
        intro n hlo hhi
        obtain ⟨id, hid, rfl⟩ := hw.filled n hlo hhi
        obtain ⟨d, hd, rfl, hst, hre⟩ := hi id hid
        exact ⟨d, hd, rfl, hst, hre⟩
      refine ⟨⟨rfl, _, _, hr, hw.le, hc⟩, fun outcome => ?_⟩
      change Forall₂ _ _ (recordDeletion outcome r.getDeviceIDs devices)
      rw [recordDeletion_eq_map, forall₂_map_right_iff]
      have hmem := (forall₂_and_left (p := (· ∈ queue.deviceList)) _ _).mpr ⟨fun _ hd => hd, hk⟩
      exact hmem.imp fun d d' ⟨hd, hke⟩ =>
        moves_recordDevice hq hro hs hr hc hd hke outcome

omit hq

/-- **Only checked devices are deleted**, and the entries moved to `deleted` are exactly those
covered by a successful call. -/
theorem deleteVolumes_deletes_checked (queue : DeletionQueue) (hq : queue.WellFormed) :
    (∀ h symID range, Issues queue.deleteVolumes h (.deleteVolume symID range) →
      symID = queue.symID ∧ Covers queue h range) ∧
    ∀ h queue' updated, Exec queue.deleteVolumes h (queue', updated) →
      List.Forall₂ (Moves h queue.symID) queue.deviceList queue'.deviceList :=
  ⟨fun _ _ _ hi => (deleteVolumes_safe hq).issues hi,
    fun _ _ _ he => (deleteVolumes_safe hq).exec he⟩

namespace RangeDeleted

def volume (deviceID : String) : Volume := ⟨deviceID, "_DELcsi-abc-pvc", [], false, false, 0⟩

def device (deviceID : String) (intVal : Int) (cache : Option Volume) (state : DeletionState) :
    CsiDevice :=
  ⟨⟨deviceID, intVal⟩, "000000000001", cache, "_DELcsi-abc-pvc", ⟨0, [], state⟩⟩

def queued : DeletionQueue where
  deviceList := [device "0001B" 27 none .deleteVol, device "0001A" 26 none .deleteVol]
  symID := "000000000001"
  clusterPrefix := "abc"

def readings : PmaxHistory :=
  [⟨.getVersionDetails "000000000001", .ok "100"⟩,
    ⟨.getVolumeByID "000000000001" "0001B", .ok (volume "0001B")⟩,
    ⟨.getVolumeByID "000000000001" "0001A", .ok (volume "0001A")⟩]

def deletion : PmaxHistory := readings ++ [⟨.deleteVolume "000000000001" "0001A-0001B", .ok ()⟩]

def deleted : DeletionQueue :=
  { queued with deviceList := [device "0001B" 27 (some (volume "0001B")) .deleted,
      device "0001A" 26 (some (volume "0001A")) .deleted] }

theorem deletion_exec : Exec queued.deleteVolumes deletion (deleted, true) :=
  exec_of_follow (by decide +kernel)

/-- Both devices are read, and one call deletes the range of the two. -/
theorem deleteVolumes_range : Covers queued readings "0001A-0001B" ∧
    List.Forall₂ (Moves deletion queued.symID) queued.deviceList deleted.deviceList := by
  have hq : queued.WellFormed := by
    refine ⟨?_, by decide⟩
    exact forall_mem_cons.mpr ⟨⟨by decide, rfl⟩, forall_mem_singleton.mpr ⟨by decide, rfl⟩⟩
  have hi : Issues queued.deleteVolumes readings (.deleteVolume "000000000001" "0001A-0001B") :=
    issues_of_follow (by decide +kernel)
  obtain ⟨hc, hm⟩ := deleteVolumes_deletes_checked queued hq
  exact ⟨(hc _ _ _ hi).2, hm _ _ _ deletion_exec⟩

end RangeDeleted

end PowerMaxCsi.Service
