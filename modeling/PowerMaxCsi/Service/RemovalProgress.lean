import PowerMaxCsi.Lib.WaitingList
import PowerMaxCsi.Lib.World
import PowerMaxCsi.Service.StorageGroupRemoval

/-!
# Progress of the removal from storage groups

Some ways of `removeVolumesFromStorageGroup` neither remove or move a device nor count an error, and
then the next step takes the same way.  `Regular` arrays keep to the other ways.

A device whose removal is answered without an error is read again.  What such a read may list is a
`Listing`: with one that leaves out the groups that the device was taken out of, the device has one
group less (`FirstDone`).
-/

namespace PowerMaxCsi.Service

open Strings Prog WaitingList List Bool CsiDevice

/-! ## Devices move on -/

namespace CsiDevice

def waits (device : CsiDevice) : Bool := device.status.state = .disAssociateSG

/-- The storage groups of the cached volume. -/
def groups (device : CsiDevice) : List String :=
  device.symVolumeCache.elim [] Volume.storageGroupIDList

variable (K : String → String → Prop)

/-- A device does not start to wait, errors are added, and with too many it waits no more.  Groups
come into the cache from reads only, which list what `K` allows. -/
structure Onward (d d' : CsiDevice) : Prop where
  deviceID_eq : d'.deviceID = d.deviceID
  waits : d'.waits = true → d.waits = true
  errors_le : d'.waits = true → d.status.nErrors ≤ d'.status.nErrors
  errors_lt : d'.waits = true → d.status.nErrors < d'.status.nErrors →
    d'.status.nErrors < maxErrorCount
  groups_of : ∀ sgID ∈ d'.groups, sgID ∈ d.groups ∨ K d.deviceID sgID

def Advances (d d' : CsiDevice) : Prop :=
  d.Onward K d' ∧ (d'.waits = true → d.status.nErrors < d'.status.nErrors)

variable {K} {K' : String → String → Prop} {d d' d'' : CsiDevice}

theorem Onward.of_status_eq (hid : d'.deviceID = d.deviceID) (h : d'.status = d.status)
    (hg : ∀ sgID ∈ d'.groups, sgID ∈ d.groups ∨ K d.deviceID sgID) : d.Onward K d' := by
  refine ⟨hid, fun hw => ?_, fun _ => h ▸ le_rfl, fun _ hlt => ?_, hg⟩
  · simpa only [CsiDevice.waits, h] using hw
  · rw [h] at hlt
    exact absurd hlt (lt_irrefl _)

theorem Onward.refl (d : CsiDevice) : d.Onward K d := .of_status_eq rfl rfl fun _ => .inl

theorem Onward.mono (hK : ∀ deviceID sgID, K deviceID sgID → K' deviceID sgID)
    (h : d.Onward K d') : d.Onward K' d' :=
  { h with groups_of := fun sgID hg => (h.groups_of sgID hg).imp_right (hK _ _) }

theorem Advances.mono (hK : ∀ deviceID sgID, K deviceID sgID → K' deviceID sgID)
    (h : d.Advances K d') : d.Advances K' d' :=
  ⟨h.1.mono hK, h.2⟩

theorem Onward.trans (h : d.Onward K d') (h' : d'.Onward K d'') : d.Onward K d'' := by
  refine ⟨h'.deviceID_eq.trans h.deviceID_eq, fun hw => h.waits (h'.waits hw),
    fun hw => (h.errors_le (h'.waits hw)).trans (h'.errors_le hw), fun hw hlt => ?_,
    fun sgID hg => ?_⟩
  · have hle := h'.errors_le hw
    by_cases heq : d'.status.nErrors = d''.status.nErrors
    · have hlt' := h.errors_lt (h'.waits hw) (heq ▸ hlt)
      rwa [heq] at hlt'
    · exact h'.errors_lt hw (lt_of_le_of_ne hle heq)
  · rcases h'.groups_of sgID hg with hg' | hk
    · exact h.groups_of sgID hg'
    · exact .inr (h.deviceID_eq ▸ hk)

theorem Advances.trans_onward (h : d.Advances K d') (h' : d'.Onward K d'') : d.Advances K d'' :=
  ⟨h.1.trans h', fun hw => (h.2 (h'.waits hw)).trans_le (h'.errors_le hw)⟩

theorem Onward.trans_advances (h : d.Onward K d') (h' : d'.Advances K d'') : d.Advances K d'' :=
  ⟨h.trans h'.1, fun hw => (h.errors_le (h'.1.waits hw)).trans_lt (h'.2 hw)⟩

theorem advances_of_not_waits (hid : d'.deviceID = d.deviceID) (hw : d'.waits = false)
    (hg : d'.groups = d.groups) : d.Advances K d' := by
  have hno : ¬ d'.waits = true := eq_false_iff.mp hw
  exact ⟨⟨hid, fun h => absurd h hno, fun h => absurd h hno, fun h => absurd h hno,
    fun _ h => .inl (hg ▸ h)⟩, fun h => absurd h hno⟩

theorem updateStatus_deviceID (state : DeletionState) (msg : String) :
    (d.updateStatus state msg).deviceID = d.deviceID := by
  unfold updateStatus
  split
  · rfl
  · dsimp only
    split <;> rfl

theorem updateStatus_groups (state : DeletionState) (msg : String) :
    (d.updateStatus state msg).groups = d.groups := by
  unfold updateStatus
  split
  · rfl
  · dsimp only
    split <;> rfl

theorem updateStatus_empty_onward : d.Onward K (d.updateStatus d.status.state "") :=
  .of_status_eq rfl (by simp [updateStatus]) fun _ h => .inl (updateStatus_groups _ _ ▸ h)

theorem updateStatus_advances {msg : String} (hm : msg ≠ "") :
    d.Advances K (d.updateStatus d.status.state msg) := by
  by_cases hma : maxErrorCount ≤ d.status.nErrors + 1
  · refine advances_of_not_waits (updateStatus_deviceID ..) ?_ (updateStatus_groups ..)
    simp [updateStatus, hm, hma, waits]
  · have hs : (d.updateStatus d.status.state msg).status.nErrors = d.status.nErrors + 1 ∧
        (d.updateStatus d.status.state msg).status.state = d.status.state := by
      simp [updateStatus, hm, hma]
    refine ⟨⟨updateStatus_deviceID .., fun hw => ?_, fun _ => ?_, fun _ _ => ?_,
      fun _ h => .inl (updateStatus_groups _ _ ▸ h)⟩, fun _ => ?_⟩
    · simpa only [waits, hs.2] using hw
    · omega
    · omega
    · omega

theorem updateStatus_onward (msg : String) : d.Onward K (d.updateStatus d.status.state msg) := by
  by_cases hm : msg = ""
  · subst hm
    exact updateStatus_empty_onward
  · exact (updateStatus_advances hm).1

theorem updateStatus_advances_of_ne {state : DeletionState} (hs : state ≠ .disAssociateSG)
    (msg : String) : d.Advances K (d.updateStatus state msg) := by
  refine advances_of_not_waits (updateStatus_deviceID ..) ?_ (updateStatus_groups ..)
  unfold updateStatus
  split
  · simp [waits, hs]
  · dsimp only
    split <;> simp [waits, hs]

theorem leaveGroups_advances (symVol : Volume) (msg : String) :
    d.Advances K (d.leaveGroups symVol msg) := by
  unfold leaveGroups
  split
  · exact updateStatus_advances_of_ne (by decide) msg
  · exact updateStatus_advances_of_ne (by decide) msg

end CsiDevice

/-! ## Regular answers -/

abbrev WorkerEntry := Prog.Entry WorkerCall WorkerAnswer

def showsFree (symID storageGroupID : String) : WorkerEntry → Bool
  | ⟨.pmax (.getStorageGroup sym sgID), r⟩ =>
    match r with
    | .ok (some sg) => sym = symID ∧ sgID = storageGroupID ∧ sg.numOfMaskingViews = 0
    | _ => false
  | _ => false

/-- The devices and the group of a removal, and its error. -/
def removalOf : WorkerEntry → Option (Removal × String)
  | ⟨.pmax (.removeVolumesFromStorageGroup _ sgID volumeIDs), r⟩
  | ⟨.removeVolumesFromProtectedStorageGroup _ sgID _ _ volumeIDs, r⟩ =>
    some (⟨sgID, volumeIDs⟩, errorMsg r)
  | _ => none

def requests (deviceID sgID : String) (e : WorkerEntry) : Bool :=
  (removalOf e).any fun r => r.1.sgID = sgID ∧ deviceID ∈ r.1.volumeIDs

def succeeds (sgID : String) (e : WorkerEntry) : Bool :=
  (removalOf e).any fun r => r.1.sgID = sgID ∧ r.2 = ""

/-- The removal of the device was asked for, and one from the group was answered without an error.
A request that names devices which the group does not contain is repeated without them. -/
def takenOut (deviceID sgID : String) (h : WorkerHistory) : Bool :=
  h.any (requests deviceID sgID) && h.any (succeeds sgID)

theorem any_mono {w w' : WorkerHistory} {p : WorkerEntry → Bool} (hs : w ⊆ w')
    (h : w.any p = true) : w'.any p = true := by
  rw [any_eq_true] at h ⊢
  obtain ⟨e, he, hp⟩ := h
  exact ⟨e, hs he, hp⟩

theorem takenOut_mono {deviceID sgID : String} {h h' : WorkerHistory} (hs : h ⊆ h')
    (ht : takenOut deviceID sgID h = true) : takenOut deviceID sgID h' = true := by
  rw [takenOut, Bool.and_eq_true] at ht ⊢
  exact ⟨any_mono hs ht.1, any_mono hs ht.2⟩

def HasText {α : Type} : Except PmaxError α → Prop
  | .ok _ => True
  | .error err => err.text ≠ ""

instance {α : Type} (r : Except PmaxError α) : Decidable (HasText r) :=
  match r with
  | .ok _ => isTrue trivial
  | .error err => inferInstanceAs (Decidable (err.text ≠ ""))

/-- Errors have a text, a group without a masking view does not get one, and what is asked of a
protected group is answered, on the R1 side. -/
def Regular (before : WorkerHistory) : (c : WorkerCall) → WorkerAnswer c → Prop
  | .pmax (.getVolumeByID _ _), r => HasText r
  | .pmax (.getStorageGroup symID storageGroupID), r =>
    match r with
    | .error err => err.text ≠ ""
    | .ok none => False
    | .ok (some sg) => storageGroupID ≠ "" ∧
        (before.any (showsFree symID storageGroupID) → sg.numOfMaskingViews = 0)
  | .pmax (.removeVolumesFromStorageGroup _ _ _), r => HasText r
  | .removeVolumesFromProtectedStorageGroup _ _ _ _ _, r => HasText r
  | .getStorageGroupRDFInfo _ _ _, r =>
    match r with
    | .error _ => False
    | .ok psg => psg.volumeRdfTypes.head? = some "R1" ∧ psg.states ≠ []
  | .getRDFGroupByID _ _, r => r.isOk
  | .executeReplicationActionOnSG _ _ _ _ _ _ _, r => r.isOk
  | _, _ => True

def RegularHistory : WorkerHistory → WorkerHistory → Prop
  | _, [] => True
  | before, e :: h => Regular before e.1 e.2 ∧ RegularHistory (before ++ [e]) h

/-- What a volume read may list for a device, after the calls that were answered. -/
structure Listing where
  shows : WorkerHistory → String → String → Prop
  anti : ∀ {w w' : WorkerHistory} {deviceID sgID : String}, w ⊆ w' → shows w' deviceID sgID →
    shows w deviceID sgID

namespace Listing

def Admits (L : Listing) (before : WorkerHistory) : (c : WorkerCall) → WorkerAnswer c → Prop
  | .pmax (.getVolumeByID _ deviceID), .ok symVol =>
    ∀ sgID ∈ symVol.storageGroupIDList, L.shows before deviceID sgID
  | _, _ => True

def AdmitsAll (L : Listing) : WorkerHistory → WorkerHistory → Prop
  | _, [] => True
  | before, e :: h => L.Admits before e.1 e.2 ∧ L.AdmitsAll (before ++ [e]) h

def any : Listing := ⟨fun _ _ _ => True, fun _ _ => trivial⟩

theorem any_admitsAll (w h : WorkerHistory) : any.AdmitsAll w h := by
  induction h generalizing w with
  | nil => trivial
  | cons e h ih =>
    refine ⟨?_, ih _⟩
    unfold Admits
    split <;> simp [any]

end Listing

/-- The array answers regularly; the state is what was answered before. -/
def Answers (L : Listing) (w : WorkerHistory) (c : WorkerCall) (r : WorkerAnswer c)
    (w' : WorkerHistory) : Prop :=
  (Regular w c r ∧ L.Admits w c r) ∧ w' = w ++ [⟨c, r⟩]

theorem RegularHistory.consistent {L : Listing} {w h : WorkerHistory} (hh : RegularHistory w h)
    (hl : L.AdmitsAll w h) : Consistent (Answers L) w h (w ++ h) := by
  induction h generalizing w with
  | nil =>
    rw [append_nil]
    exact .nil
  | cons e h ih =>
    have hr := ih hh.2 hl.2
    rw [append_assoc] at hr
    exact .cons ⟨⟨hh.1, hl.1⟩, rfl⟩ hr

/-! ## The step brings the first device forward -/

/-- What holds after a part of the step if the answers are regular. -/
abbrev Run (L : Listing) {α : Type} (post : WorkerHistory → α → Prop) (w : WorkerHistory)
    (p : WorkerProg α) : Prop :=
  SafeIn (Answers L) (fun _ _ => True) post w p

section

variable {α β : Type} {L : Listing} {w w' : WorkerHistory} {symID : String} {d d' : CsiDevice}

theorem Run.bind {mid : WorkerHistory → α → Prop} {post : WorkerHistory → β → Prop}
    {p : WorkerProg α} {f : α → WorkerProg β} (hp : Run L mid w p)
    (hf : ∀ w' a, w ⊆ w' → mid w' a → Run L post w' (f a)) : Run L post w (p.bind f) := by
  induction p generalizing w with
  | ret a => exact hf w a (Subset.refl w) hp
  | call c k ih =>
    refine ⟨trivial, ?_⟩
    rintro r w₁ ⟨hr, rfl⟩
    refine ih r (hp.2 r _ ⟨hr, rfl⟩) fun w' a hs hm => hf w' a ?_ hm
    exact fun e he => hs (mem_append_left _ he)

/-- A volume was read for the device, or is in the cache. -/
structure ReadOf (L : Listing) (w : WorkerHistory) (d : CsiDevice)
    (r : CsiDevice × Except PmaxError Volume) : Prop where
  deviceID_eq : r.1.deviceID = d.deviceID
  status_eq : r.1.status = d.status
  text : HasText r.2
  listed : ∀ symVol, r.2 = .ok symVol → symVol.storageGroupIDList = r.1.groups
  groups_of : ∀ sgID ∈ r.1.groups, sgID ∈ d.groups ∨ L.shows w d.deviceID sgID

theorem ReadOf.onward {r : CsiDevice × Except PmaxError Volume} (hr : ReadOf L w d r)
    (hw : w' ⊆ w) : d.Onward (L.shows w') r.1 :=
  .of_status_eq hr.deviceID_eq hr.status_eq fun sgID hg =>
    (hr.groups_of sgID hg).imp_right (L.anti hw)

theorem readVolume_run :
    Run L (fun _ r => ReadOf L w d r ∧ ∀ sgID ∈ r.1.groups, L.shows w d.deviceID sgID) w
      (d.readVolume symID) := by
  refine ⟨trivial, ?_⟩
  rintro (err | volume) w₁ ⟨⟨hr, hl⟩, rfl⟩
  · exact ⟨⟨rfl, rfl, hr, nofun, nofun⟩, nofun⟩
  · refine ⟨⟨rfl, rfl, trivial, ?_, fun sgID hg => .inr (hl sgID hg)⟩, hl⟩
    rintro symVol ⟨⟩
    rfl

theorem cachedVolume_run :
    Run L (fun _ r => ∃ w' , w ⊆ w' ∧ ReadOf L w' d r) w (d.cachedVolume symID) := by
  unfold cachedVolume
  cases hc : d.symVolumeCache with
  | none => exact SafeIn.mono readVolume_run fun _ _ h => ⟨w, Subset.refl w, h.1⟩
  | some volume =>
    refine ⟨trivial, ?_⟩
    rintro expired w₁ ⟨-, rfl⟩
    cases expired with
    | true => exact SafeIn.mono readVolume_run fun _ _ h => ⟨_, subset_append_left .., h.1⟩
    | false =>
      refine ⟨w, Subset.refl w, rfl, rfl, trivial, ?_, fun _ => .inl⟩
      rintro symVol ⟨⟩
      simp [groups, hc]

theorem findGroup_run {K : String → String → Prop} (groups : List String) :
    Run L (fun w' r => ∃ d' sgID, r = some (d', sgID) ∧ d.Onward K d' ∧
        (sgID ≠ "" → sgID ∈ groups ∧ w'.any (showsFree symID sgID) = true) ∧
        (groups ≠ [] → d.Advances K d' ∨ sgID ≠ "")) w
      (findGroup symID d groups) := by
  induction groups generalizing w d with
  | nil => exact ⟨d, "", rfl, .refl d, fun h => absurd rfl h, fun h => absurd rfl h⟩
  | cons storageGroupID rest ih =>
    -- The search goes on with a device that has moved on.
    have hn : ∀ (w : WorkerHistory) (d₁ : CsiDevice), d.Advances K d₁ →
        Run L (fun w' r => ∃ d' sgID, r = some (d', sgID) ∧ d.Onward K d' ∧
          (sgID ≠ "" → sgID ∈ storageGroupID :: rest ∧ w'.any (showsFree symID sgID) = true) ∧
          (storageGroupID :: rest ≠ [] → d.Advances K d' ∨ sgID ≠ "")) w
        (findGroup symID d₁ rest) := by
      intro w d₁ hd₁
      refine SafeIn.mono ih ?_
      rintro w' r ⟨d', sgID, rfl, hd', hf, -⟩
      have ha := hd₁.trans_onward hd'
      exact ⟨d', sgID, rfl, ha.1, fun hne => (hf hne).imp_left (mem_cons_of_mem _),
        fun _ => .inl ha⟩
    refine ⟨trivial, ?_⟩
    rintro (err | _ | sg) w₁ ⟨⟨hr, -⟩, rfl⟩
    · exact hn _ _ (updateStatus_advances hr)
    · exact hr.elim
    · show Run L _ _ (ite ..)
      split
      · exact hn _ _ (updateStatus_advances (by decide))
      · next hv =>
        have hz : sg.numOfMaskingViews = 0 := by omega
        refine ⟨d, storageGroupID, rfl, .refl d, fun _ => ⟨mem_cons_self, ?_⟩, fun _ => .inr hr.1⟩
        simp [showsFree, hz]

/-- The group of a step is in no masking view, and devices are collected for a group only. -/
structure Collecting (symID : String) (w : WorkerHistory) (removal : Removal) : Prop where
  free : removal.sgID ≠ "" → w.any (showsFree symID removal.sgID) = true
  named : removal.volumeIDs ≠ [] → removal.sgID ≠ ""

variable {removal : Removal}

theorem Collecting.mono (h : Collecting symID w removal) (hs : w ⊆ w') :
    Collecting symID w' removal :=
  ⟨fun hne => any_mono hs (h.free hne), h.named⟩

/-- The device is collected, for a group that it is in by the cache or by a read. -/
def CollectedFor (L : Listing) (removal : Removal) (d : CsiDevice) : Prop :=
  d.deviceID ∈ removal.volumeIDs ∧
    (removal.sgID ∈ d.groups ∨ L.shows [] d.deviceID removal.sgID)

/-- A device that waits while there is no group is moved on or collected. -/
structure Collected (L : Listing) (symID : String) (d : CsiDevice) (removal : Removal)
    (w : WorkerHistory) (d' : CsiDevice) (removal' : Removal) : Prop where
  onward : d.Onward (L.shows []) d'
  collecting : Collecting symID w removal'
  subset : removal.volumeIDs ⊆ removal'.volumeIDs
  kept : removal.sgID ≠ "" → removal'.sgID = removal.sgID
  served : d.waits = true → removal.sgID = "" →
    d.Advances (L.shows []) d' ∨ removal'.sgID ≠ "" ∧ CollectedFor L removal' d
  skipped : d.waits = false → removal' = removal

/-- The device moves on; the group and the devices collected stay. -/
theorem Collected.of_advances {d' : CsiDevice} (hre : Collecting symID w removal) (hsu : w ⊆ w')
    (hw : d.waits = true) (hd : d.Advances (L.shows []) d') :
    Collected L symID d removal w' d' removal :=
  ⟨hd.1, hre.mono hsu, Subset.refl _, fun _ => rfl, fun _ _ => .inl hd,
    fun h => absurd hw (eq_false_iff.mp h)⟩

/-- The step has its group already. -/
theorem Collected.of_grouped {d' : CsiDevice} {removal' : Removal}
    (hre : Collecting symID w removal) (hsu : w ⊆ w') (hw : d.waits = true)
    (hd : d.Onward (L.shows []) d') (hsg : removal.sgID ≠ "") (he : removal'.sgID = removal.sgID)
    (hs : removal.volumeIDs ⊆ removal'.volumeIDs) :
    Collected L symID d removal w' d' removal' :=
  ⟨hd, ⟨fun _ => he ▸ (hre.mono hsu).free hsg, fun _ => he ▸ hsg⟩, hs, fun _ => he,
    fun _ h => absurd h hsg, fun h => absurd hw (eq_false_iff.mp h)⟩

theorem collectDevice_run (hre : Collecting symID w removal) :
    Run L (fun w' r => ∃ d' removal', r = some (d', removal') ∧
      Collected L symID d removal w' d' removal') w (collectDevice symID removal d) := by
  unfold collectDevice
  split
  · next hs =>
    have hw : d.waits = false := by simpa [waits] using hs
    exact ⟨d, removal, rfl, .refl d, hre, Subset.refl _, fun _ => rfl,
      fun h => absurd h (eq_false_iff.mp hw), fun _ => rfl⟩
  · next hs =>
    have hw : d.waits = true := by simpa [waits] using hs
    refine cachedVolume_run.bind fun w₁ r hsu hrea => ?_
    obtain ⟨d₁, result⟩ := r
    obtain ⟨w₀, -, hrea⟩ := hrea
    have hd₁ : d.Onward (L.shows []) d₁ := hrea.onward (nil_subset _)
    cases result with
    | error err =>
      exact ⟨_, _, rfl, .of_advances hre hsu hw
        (hd₁.trans_advances (updateStatus_advances hrea.text))⟩
    | ok symVol =>
      dsimp only
      split
      · exact ⟨_, _, rfl, .of_advances hre hsu hw
          (hd₁.trans_advances (updateStatus_advances_of_ne (by decide) _))⟩
      split
      · exact ⟨_, _, rfl, .of_advances hre hsu hw
          (hd₁.trans_advances (leaveGroups_advances _ _))⟩
      next hg =>
      split
      · next hno =>
        refine (findGroup_run (K := L.shows []) symVol.storageGroupIDList).bind
          fun w₂ r hsu₂ hr => ?_
        obtain ⟨d₂, sgID, rfl, hd₂, hf, hse⟩ := hr
        dsimp only
        split
        · next hsg =>
          have ha := (hse hg).resolve_right fun h => h hsg
          exact ⟨_, _, rfl, .of_advances hre (Subset.trans hsu hsu₂) hw (hd₁.trans_advances ha)⟩
        · next hsg =>
          have hid₂ : d₂.deviceID = d.deviceID := hd₂.deviceID_eq.trans hrea.deviceID_eq
          refine ⟨_, _, rfl, hd₁.trans hd₂, ⟨fun _ => (hf hsg).2, fun _ => hsg⟩,
            subset_append_left .., fun h => absurd hno h, fun _ _ => .inr ⟨hsg, ?_, ?_⟩,
            fun h => absurd hw (eq_false_iff.mp h)⟩
          · simp [hid₂]
          · exact hd₁.groups_of sgID (hrea.listed symVol rfl ▸ (hf hsg).1)
      next hsg =>
      split
      · exact ⟨_, _, rfl, .of_grouped hre hsu hw hd₁ hsg rfl (subset_append_left ..)⟩
      · exact ⟨_, _, rfl, .of_grouped hre hsu hw hd₁ hsg rfl (Subset.refl _)⟩

def FirstServed (L : Listing) (removal : Removal) : List CsiDevice → List CsiDevice → Prop
  | d :: l, d' :: l' =>
    if d.waits then d.Advances (L.shows []) d' ∨ CollectedFor L removal d
    else FirstServed L removal l l'
  | _, _ => True

theorem collectDevices_run (devices : List CsiDevice) (hre : Collecting symID w removal) :
    Run L (fun w' r => ∃ devices' removal', r = some (devices', removal') ∧
        List.Forall₂ (Onward (L.shows [])) devices devices' ∧ Collecting symID w' removal' ∧
        removal.volumeIDs ⊆ removal'.volumeIDs ∧
        (removal.sgID ≠ "" → removal'.sgID = removal.sgID) ∧
        (removal.sgID = "" → FirstServed L removal' devices devices')) w
      (collectDevices symID removal devices) := by
  induction devices generalizing w removal with
  | nil => exact ⟨[], removal, rfl, .nil, hre, Subset.refl _, fun _ => rfl, fun _ => trivial⟩
  | cons d rest ih =>
    refine (collectDevice_run hre).bind fun w₁ r _ hr => ?_
    obtain ⟨d₁, removal₁, rfl, h₁⟩ := hr
    dsimp only
    split
    · next hf =>
      refine ⟨_, _, rfl, .cons h₁.onward (forall₂_same.mpr fun d _ => .refl d),
        h₁.collecting, h₁.subset, h₁.kept, fun hsg => ?_⟩
      unfold FirstServed
      split
      · next hw => exact (h₁.served hw hsg).imp_right And.right
      · next hw =>
        -- A device that is skipped collects nothing, and there is no group yet.
        rw [h₁.skipped (eq_false_iff.mpr hw)] at hf
        have hn : removal.volumeIDs = [] := by
          by_contra hne
          exact hre.named hne hsg
        rw [hn] at hf
        cases hf
    · refine (ih h₁.collecting).bind fun w₂ r _ hr => ?_
      obtain ⟨rest', removal₂, rfl, ho, hc, hs, hk, hse⟩ := hr
      refine ⟨_, _, rfl, .cons h₁.onward ho, hc, Subset.trans h₁.subset hs, fun hne => ?_,
        fun hsg => ?_⟩
      · have he := h₁.kept hne
        exact (hk (he ▸ hne)).trans he
      unfold FirstServed
      split
      · next hw =>
        refine (h₁.served hw hsg).imp_right fun ⟨hne, hmem, hli⟩ => ⟨hs hmem, ?_⟩
        rwa [hk hne]
      · next hw =>
        exact hse (by rw [h₁.skipped (eq_false_iff.mpr hw), hsg])

/-- The removal of the devices was asked for, and came back with the error. -/
structure RemovalAsked (removal : Removal) (w : WorkerHistory) (msg : String) : Prop where
  requested : ∀ deviceID ∈ removal.volumeIDs, w.any (requests deviceID removal.sgID) = true
  succeeded : msg = "" → w.any (succeeds removal.sgID) = true

theorem removeFromDefaultGroup_run (removal : Removal) :
    Run L (fun w' msg => RemovalAsked removal w' msg) w
      (removeFromDefaultGroup symID removal) := by
  refine ⟨trivial, ?_⟩
  rintro (err | _) w₁ ⟨⟨hr, -⟩, rfl⟩
  · show Run L _ _ (ite ..)
    split
    · refine ⟨trivial, ?_⟩
      rintro r w₂ ⟨-, rfl⟩
      refine ⟨fun deviceID hid => ?_, fun hm => ?_⟩
      · simp [requests, removalOf, hid]
      · simp [succeeds, removalOf, hm]
    · refine ⟨fun deviceID hid => ?_, fun hm => absurd hm hr⟩
      simp [requests, removalOf, hid]
  · refine ⟨fun deviceID hid => ?_, fun _ => ?_⟩
    · simp [requests, removalOf, hid]
    · simp [succeeds, removalOf, errorMsg]

theorem removeFromPair_run (removal : Removal) (ns mode : String) (rdfInfo : RDFGroupPair) :
    Run L (fun w' r => ∃ msg, r = .answered msg ∧ RemovalAsked removal w' msg) w
      (removeFromPair symID removal ns mode rdfInfo) := by
  refine ⟨trivial, ?_⟩
  rintro r w₁ ⟨-, rfl⟩
  refine ⟨errorMsg r, rfl, fun deviceID hid => ?_, fun hm => ?_⟩
  · simp [requests, removalOf, hid]
  · simp [succeeds, removalOf, hm]

theorem validateRDFStateForSuspend_run (sgName rdfGrpNo : String) :
    Run L (fun _ r => ∃ suspended, r = .ok suspended) w
      (validateRDFStateForSuspend symID sgName rdfGrpNo) := by
  refine ⟨trivial, ?_⟩
  rintro (err | ⟨states, types⟩) w₁ ⟨⟨hr, -⟩, rfl⟩
  · exact hr.elim
  cases states with
  | nil => exact absurd rfl hr.2
  | cons state states => exact ⟨_, rfl⟩

theorem suspend_run (sgName rdfGrpNo : String) :
    Run L (fun _ r => r = .ok ()) w (suspend symID sgName rdfGrpNo) := by
  refine (validateRDFStateForSuspend_run sgName rdfGrpNo).bind fun w₁ r _ hr => ?_
  obtain ⟨suspended, rfl⟩ := hr
  cases suspended with
  | true => exact rfl
  | false =>
    refine ⟨trivial, ?_⟩
    rintro (err | _) w₂ ⟨⟨hr₂, -⟩, rfl⟩
    · cases hr₂
    · exact rfl

theorem removeFromProtectedGroup_run (removal : Removal) (ns rdfNo mode : String) :
    Run L (fun w' r => ∃ msg, r = .answered msg ∧ RemovalAsked removal w' msg) w
      (removeFromProtectedGroup symID removal ns rdfNo mode) := by
  refine ⟨trivial, ?_⟩
  rintro (err | ⟨states, types⟩) w₁ ⟨⟨hr, -⟩, rfl⟩
  · exact hr.elim
  obtain ⟨ht, hs⟩ := hr
  cases types with
  | nil => cases ht
  | cons rdfType types =>
    obtain rfl : rdfType = "R1" := Option.some.inj ht
    refine ⟨trivial, ?_⟩
    rintro (err | rdfInfo) w₂ ⟨⟨hr₂, -⟩, rfl⟩
    · cases hr₂
    show Run L _ _ (ite ..)
    split
    · cases states with
      | nil => exact absurd rfl hs
      | cons state states =>
        dsimp only
        split
        · refine (suspend_run removal.sgID rdfNo).bind fun w₃ r _ hr₃ => ?_
          subst hr₃
          exact removeFromPair_run removal ns mode rdfInfo
        · exact removeFromPair_run removal ns mode rdfInfo
    · exact removeFromPair_run removal ns mode rdfInfo

theorem removeFromNamedGroup_run (removal : Removal) :
    Run L (fun w' r => ∃ msg, r = .answered msg ∧ RemovalAsked removal w' msg) w
      (removeFromNamedGroup symID removal) := by
  unfold removeFromNamedGroup
  split
  · exact (removeFromDefaultGroup_run removal).bind fun w' msg _ ha => ⟨msg, rfl, ha⟩
  · exact removeFromProtectedGroup_run removal _ _ _

theorem removeCollected_run (hf : w.any (showsFree symID removal.sgID) = true) :
    Run L (fun w' r => ∃ msg, r = .answered msg ∧ RemovalAsked removal w' msg) w
      (removeCollected symID removal) := by
  refine ⟨trivial, ?_⟩
  rintro (err | _ | sg) w₁ ⟨⟨hr, -⟩, rfl⟩
  · exact removeFromNamedGroup_run removal
  · exact hr.elim
  · have hz := hr.2 hf
    show Run L _ _ (ite ..)
    rw [if_neg (by omega)]
    exact removeFromNamedGroup_run removal

variable {msg : String} {l : List CsiDevice}

/-- After a removal a device that was collected is moved on, or the removal came back without an
error and the device was read again. -/
structure Recorded (L : Listing) (w : WorkerHistory) (msg : String) (volumeIDs : List String)
    (d d' : CsiDevice) : Prop where
  onward : d.Onward (L.shows w) d'
  read : d.deviceID ∈ volumeIDs → d.Advances (L.shows w) d' ∨
    msg = "" ∧ ∀ sgID ∈ d'.groups, L.shows w d.deviceID sgID

theorem recordRemoval_recorded {volumeIDs : List String} {r : CsiDevice × Except PmaxError Volume}
    (hr : ReadOf L w d r) (hf : ∀ sgID ∈ r.1.groups, L.shows w d.deviceID sgID) (msg : String) :
    Recorded L w msg volumeIDs d (recordRemoval msg r) := by
  have hd₁ := hr.onward (Subset.refl w)
  have hal {d' : CsiDevice} (ha : r.1.Advances (L.shows w) d') : Recorded L w msg volumeIDs d d' :=
    ⟨(hd₁.trans_advances ha).1, fun _ => .inl (hd₁.trans_advances ha)⟩
  obtain ⟨d₁, result⟩ := r
  cases result with
  | error err => exact hal (updateStatus_advances hr.text)
  | ok symVol =>
    show Recorded _ _ _ _ d (ite ..)
    split
    · exact hal (leaveGroups_advances _ _)
    by_cases hm : msg = ""
    · refine ⟨hd₁.trans (updateStatus_onward _), fun _ => .inr ⟨hm, ?_⟩⟩
      rw [updateStatus_groups]
      exact hf
    · exact hal (updateStatus_advances hm)

variable {volumeIDs : List String}

theorem Recorded.refl (h : d.deviceID ∉ volumeIDs) : Recorded L w msg volumeIDs d d :=
  ⟨.refl d, fun hmem => absurd hmem h⟩

theorem Recorded.weaken (hw : w ⊆ w') (h : Recorded L w' msg volumeIDs d d') :
    Recorded L w msg volumeIDs d d' :=
  ⟨h.onward.mono fun _ _ => L.anti hw, fun hmem => (h.read hmem).imp
    (Advances.mono fun _ _ => L.anti hw) fun hr => ⟨hr.1, fun sgID hg => L.anti hw (hr.2 sgID hg)⟩⟩

variable {devices : List CsiDevice}

theorem refreshDevice_run (msg volumeID : String) (hn : (devices.map deviceID).Nodup) :
    Run L (fun _ devices' => List.Forall₂ (Recorded L w msg [volumeID]) devices devices') w
      (refreshDevice symID msg volumeID devices) := by
  induction devices generalizing w with
  | nil => exact .nil
  | cons d rest ih =>
    rw [map_cons, nodup_cons] at hn
    unfold refreshDevice
    split
    · next hid =>
      refine readVolume_run.bind fun w' r _ hr => ?_
      refine .cons (recordRemoval_recorded hr.1 hr.2 msg)
        (forall₂_same.mpr fun d' hd' => .refl ?_)
      rw [mem_singleton]
      intro hid'
      exact hn.1 (hid.trans hid'.symm ▸ mem_map_of_mem hd')
    · next hid =>
      refine (ih hn.2).bind fun w' rest' _ hre => ?_
      exact .cons (.refl (by simpa using hid)) hre

theorem forall₂_comp {R S T : CsiDevice → CsiDevice → Prop} {m n : List CsiDevice}
    (hT : ∀ a b c, R a b → S b c → T a c) (h : List.Forall₂ R l m) (h' : List.Forall₂ S m n) :
    List.Forall₂ T l n := by
  induction h generalizing n with
  | nil =>
    cases h'
    exact .nil
  | cons hd _ ih =>
    cases h' with
    | cons hd' hr => exact .cons (hT _ _ _ hd hd') (ih hr)

theorem Recorded.trans {volumeID : String} {d'' : CsiDevice}
    (h : Recorded L w msg [volumeID] d d') (h' : Recorded L w msg volumeIDs d' d'') :
    Recorded L w msg (volumeID :: volumeIDs) d d'' := by
  have hid' := h.onward.deviceID_eq
  refine ⟨h.onward.trans h'.onward, fun hmem => ?_⟩
  rcases mem_cons.mp hmem with hid | hmem
  · rcases h.read (mem_singleton.mpr hid) with ha | ⟨hm, hg⟩
    · exact .inl (ha.trans_onward h'.onward)
    · refine .inr ⟨hm, fun sgID hs => ?_⟩
      rcases h'.onward.groups_of sgID hs with hs | hs
      · exact hg sgID hs
      · exact hid' ▸ hs
  · rcases h'.read (hid' ▸ hmem) with ha | ⟨hm, hg⟩
    · exact .inl (h.onward.trans_advances ha)
    · exact .inr ⟨hm, fun sgID hs => hid' ▸ hg sgID hs⟩

theorem map_deviceID_of_onward {K : String → String → Prop} {devices' : List CsiDevice}
    (h : List.Forall₂ (Onward K) devices devices') :
    devices'.map deviceID = devices.map deviceID := by
  induction h with
  | nil => rfl
  | cons hd _ ih => rw [map_cons, map_cons, hd.deviceID_eq, ih]

theorem refreshDevices_run (msg : String) (volumeIDs : List String)
    (hn : (devices.map deviceID).Nodup) :
    Run L (fun _ devices' => List.Forall₂ (Recorded L w msg volumeIDs) devices devices') w
      (refreshDevices symID msg volumeIDs devices) := by
  induction volumeIDs generalizing w devices with
  | nil => exact forall₂_same.mpr fun d _ => .refl not_mem_nil
  | cons volumeID volumeIDs ih =>
    refine (refreshDevice_run msg volumeID hn).bind fun w₁ devices₁ hsu h₁ => ?_
    have hi := map_deviceID_of_onward (h₁.imp fun _ _ h => h.onward)
    exact SafeIn.mono (ih (hi ▸ hn)) fun _ _ h =>
      forall₂_comp (fun _ _ _ hab hbc => hab.trans (hbc.weaken hsu)) h₁ h

/-- The device was taken out of one of its groups and then read again. -/
def Dropped (L : Listing) (h : WorkerHistory) (d d' : CsiDevice) : Prop :=
  ∃ sgID w, (sgID ∈ d.groups ∨ L.shows [] d.deviceID sgID) ∧ w ⊆ h ∧
    takenOut d.deviceID sgID w = true ∧ ∀ sgID' ∈ d'.groups, L.shows w d.deviceID sgID'

/-- The first device that waits is moved on, or loses a group. -/
def FirstDone (L : Listing) (h : WorkerHistory) : List CsiDevice → List CsiDevice → Prop
  | d :: l, d' :: l' =>
    if d.waits then d.Advances (L.shows []) d' ∨ Dropped L h d d' else FirstDone L h l l'
  | _, _ => True

theorem FirstServed.done {sgID : String} {l' : List CsiDevice} (h : FirstServed L ⟨sgID, []⟩ l l') :
    FirstDone L w l l' := by
  induction l generalizing l' with
  | nil => trivial
  | cons d l ih =>
    cases l' with
    | nil => trivial
    | cons d' l' =>
      unfold FirstServed at h
      unfold FirstDone
      split
      · next hw =>
        rw [if_pos hw] at h
        exact .inl (h.resolve_right fun hc => not_mem_nil hc.1)
      · next hw =>
        rw [if_neg hw] at h
        exact ih h

theorem FirstServed.record {m n : List CsiDevice} (h : FirstServed L removal l m)
    (hlm : List.Forall₂ (Onward (L.shows [])) l m)
    (hmn : List.Forall₂ (Recorded L w msg removal.volumeIDs) m n) (ha : RemovalAsked removal w msg)
    (hw : w ⊆ w') : FirstDone L w' l n := by
  have hK {deviceID sgID : String} : L.shows w deviceID sgID → L.shows [] deviceID sgID :=
    L.anti (nil_subset w)
  induction hlm generalizing n with
  | nil => trivial
  | @cons d d₁ l m hd _ ih =>
    cases hmn with
    | @cons _ d₂ _ n hd₁ hr =>
      unfold FirstServed at h
      unfold FirstDone
      split
      · next hwa =>
        rw [if_pos hwa] at h
        rcases h with had | ⟨hmem, hli⟩
        · exact .inl (had.trans_onward (hd₁.onward.mono fun _ _ => hK))
        rcases hd₁.read (hd.deviceID_eq ▸ hmem) with had | ⟨hm, hg⟩
        · exact .inl (hd.trans_advances (had.mono fun _ _ => hK))
        · refine .inr ⟨removal.sgID, w, hli, hw, ?_, fun sgID hs => hd.deviceID_eq ▸ hg sgID hs⟩
          rw [takenOut, ha.requested _ hmem, ha.succeeded hm]
          rfl
      · next hwa =>
        rw [if_neg hwa] at h
        exact ih h hr

/-- **The step.**  With regular answers devices go onward and the first one that waits is done. -/
theorem removeVolumesFromStorageGroup_run {queue : DeletionQueue}
    (hn : (queue.deviceList.map deviceID).Nodup) :
    Run L (fun h r => ∃ devices updated, r = some ({ queue with deviceList := devices }, updated) ∧
        List.Forall₂ (Onward (L.shows [])) queue.deviceList devices ∧
        FirstDone L h queue.deviceList devices) []
      queue.removeVolumesFromStorageGroup := by
  have hst : Collecting queue.symID [] ⟨"", []⟩ :=
    ⟨fun h => absurd rfl h, fun h => absurd rfl h⟩
  refine (collectDevices_run queue.deviceList hst).bind fun w₁ r _ hr => ?_
  obtain ⟨devices, removal, rfl, ho, hc, -, -, hs⟩ := hr
  dsimp only
  split
  · next hi =>
    have hne : removal.volumeIDs ≠ [] := length_pos_iff.mp hi
    refine (removeCollected_run (hc.free (hc.named hne))).bind fun w₂ r _ hr => ?_
    obtain ⟨msg, rfl, ha⟩ := hr
    have hn₁ : (devices.map deviceID).Nodup :=
      map_deviceID_of_onward ho ▸ hn
    refine (refreshDevices_run msg removal.volumeIDs hn₁).bind fun w₃ devices' hsu h' => ?_
    refine ⟨devices', true, rfl, ?_, (hs rfl).record ho h' ha hsu⟩
    exact forall₂_comp (fun _ _ _ h h' => h.trans (h'.onward.mono fun _ _ =>
      L.anti (nil_subset w₂))) ho h'
  · next hi =>
    have hno : removal.volumeIDs = [] := by
      by_contra hne
      exact hi (length_pos_iff.mpr hne)
    obtain ⟨sgID, volumeIDs⟩ := removal
    obtain rfl : volumeIDs = [] := hno
    exact ⟨devices, false, rfl, ho, (hs rfl).done⟩

end

end PowerMaxCsi.Service
