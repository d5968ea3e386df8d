import Mathlib.Data.Finset.Insert
import PowerMaxCsi.Lib.World
import PowerMaxCsi.Service.MetroPairing

/-!
# Which remote devices the setup of a degraded volume touches

`setupDegradedVolumeAsMetro` may pair and delete only a remote device that was created for the
volume, and leave nothing behind if it fails.  It takes the ID of the local device for that of the
new one, never undoes `CreateSGReplica`, and sets its two flags only after a reported success.

The world is the remote array: what the setup has created on it, and what it answers.  A request
that reports an error may have taken effect, as when its response is lost.  `CreateSGReplica` and
`Establish` name storage groups only, so the array says which devices they concern.
-/

namespace PowerMaxCsi.Service

open Strings Prog

/-- The remote array before the setup, and the choices that are its own. -/
structure RemoteArray where
  used : Finset String
  /-- The devices that were created for the volume. -/
  own : Finset String
  groups : Finset String
  /-- The ID of the next device. -/
  pick : String
  /-- The remote devices of the pairs that `Establish` resumes. -/
  pairs : Finset String
  /-- The device that `CreateSGReplica` makes for the local one. -/
  replica : String
  /-- The local storage group is protected. -/
  sgProtected : Bool
  own_subset : own ⊆ used
  pick_notMem : pick ∉ used

/-- What the setup has created on the remote array and not deleted. -/
structure SetupWorld where
  (devices groups : Finset String)
  deletionFailed : Bool
deriving DecidableEq

def SetupWorld.empty : SetupWorld := ⟨∅, ∅, false⟩

/-- A request that changes the array reported an error. -/
def reportsError : (c : RepCall) → RepAnswer c → Bool
  | .createStorageGroup _ _ _ _ _ _, .error _ | .createVolumeInStorageGroupS _ _ _ _, .error _
  | .createSGReplica _ _ _ _ _ _ _ _, .error _ | .deleteVolume _ _, .error _
  | .deleteStorageGroup _ _, .error _ => true
  | _, _ => false

def RepCall.deletes : RepCall → Bool
  | .deleteVolume _ _ | .deleteStorageGroup _ _ => true
  | _ => false

namespace RemoteArray

variable (A : RemoteArray) (a : SetupArgs)

def effect (w : SetupWorld) : RepCall → SetupWorld
  | .createStorageGroup sym sgID _ _ _ _ =>
    if sym = a.remoteSymID ∧ sgID ∉ A.groups then { w with groups := insert sgID w.groups } else w
  | .createVolumeInStorageGroupS sym _ _ _ =>
    if sym = a.remoteSymID then { w with devices := insert A.pick w.devices } else w
  | .createSGReplica _ _ _ _ _ _ _ _ => { w with devices := insert A.replica w.devices }
  | .deleteVolume sym dev =>
    if sym = a.remoteSymID then { w with devices := w.devices.erase dev } else w
  | .deleteStorageGroup sym sgID =>
    if sym = a.remoteSymID then { w with groups := w.groups.erase sgID } else w
  | _ => w

/-- What an answer says of the array is so.  Any request may fail, but a device that is there is not
reported as not found. -/
def Truthful (w : SetupWorld) : (c : RepCall) → RepAnswer c → Prop
  | .getVolumeByID sym dev, .ok _ => sym = a.remoteSymID → dev ∈ A.used ∪ w.devices
  | .getVolumeByID sym dev, .error err => sym = a.remoteSymID →
      contains (toLower err.text) "not found" = true → dev ∉ A.used ∪ w.devices
  | .createStorageGroup sym sgID _ _ _ _, .ok _ => sym = a.remoteSymID → sgID ∉ A.groups
  | .createVolumeInStorageGroupS sym _ _ _, .ok vol => sym = a.remoteSymID → vol.volumeID = A.pick
  | .getProtectedStorageGroup _ _, .ok rdf => rdf = A.sgProtected
  | _, _ => True

def answers (w : SetupWorld) (c : RepCall) (r : RepAnswer c) (w' : SetupWorld) : Prop :=
  A.Truthful a w c r ∧ ∃ w₁, (w₁ = A.effect a w c ∨ reportsError c r = true ∧ w₁ = w) ∧
    w' = { w₁ with deletionFailed := w.deletionFailed || (c.deletes && reportsError c r) }

end RemoteArray

/-- Only a device of the volume is deleted or paired. -/
def SetupIssue (A : RemoteArray) (a : SetupArgs) (w : SetupWorld) : RepCall → Prop
  | .deleteVolume sym dev => sym = a.remoteSymID → dev ∈ A.own ∪ w.devices
  | .executeReplicationActionOnSG _ _ _ _ _ => A.pairs ⊆ A.own ∪ w.devices
  | _ => True

def SetupPost (w : SetupWorld) (result : Except Failure Unit) : Prop :=
  (∃ err, result = .error (.failed err)) → w.deletionFailed = false → w.devices = ∅ ∧ w.groups = ∅

/-- The setup deletes and pairs only devices of the volume, and leaves nothing when it fails. -/
def SetupSafe (A : RemoteArray) (a : SetupArgs) : Prop :=
  (∀ w c, CanIssue (A.answers a) .empty (setupDegradedVolumeAsMetro a) w c → SetupIssue A a w c) ∧
  ∀ w result, CanReturn (A.answers a) .empty (setupDegradedVolumeAsMetro a) w result →
    SetupPost w result

/-- Nothing has to be created: the remote group is there, and if the operation says a size, the
remote device and the replication are too, with pairs of the volume only. -/
def RemoteArray.Suits (A : RemoteArray) (a : SetupArgs) : Prop :=
  a.remoteSGName ∈ A.groups ∧ (a.op.requiredCylinders ≤ 0 ∨
    a.localDevID ∈ A.used ∧ A.sgProtected = true ∧ A.pairs ⊆ A.own)

/-! ## The setup on an array that has everything -/

section

variable {A : RemoteArray} {a : SetupArgs}

def RemoteArray.Idle (A : RemoteArray) : RepCall → Prop
  | .createVolumeInStorageGroupS _ _ _ _ | .createSGReplica _ _ _ _ _ _ _ _ | .deleteVolume _ _
  | .deleteStorageGroup _ _ => False
  | .createStorageGroup _ sgID _ _ _ _ => sgID ∈ A.groups
  | .executeReplicationActionOnSG _ _ _ _ _ => A.pairs ⊆ A.own
  | _ => True

/-- An idle call leaves an array as it is on which nothing was created. -/
theorem RemoteArray.Idle.answers {c : RepCall} {w : SetupWorld} (hc : A.Idle c) (hw : w = .empty) :
    SetupIssue A a w c ∧ ∀ r w', A.answers a w c r w' → A.Truthful a .empty c r ∧ w' = .empty := by
  subst hw
  have he : A.effect a .empty c = .empty := by
    cases c with
    | createStorageGroup => exact if_neg fun h => h.2 hc
    | createVolumeInStorageGroupS | createSGReplica | deleteVolume | deleteStorageGroup => cases hc
    | _ => rfl
  have hd : c.deletes = false := by
    cases c with
    | deleteVolume | deleteStorageGroup => cases hc
    | _ => rfl
  constructor
  · cases c with
    | deleteVolume => cases hc
    | executeReplicationActionOnSG => exact hc.trans Finset.subset_union_left
    | _ => trivial
  · rintro r w' ⟨ht, w₁, hw₁, rfl⟩
    obtain rfl : w₁ = .empty := hw₁.elim (·.trans he) (·.2)
    exact ⟨ht, by simp [hd, SetupWorld.empty]⟩

variable {flags : SetupFlags}

abbrev Idles (A : RemoteArray) (a : SetupArgs) {α : Type} : RepProg α → Prop :=
  CallsIf (A.Truthful a .empty) A.Idle

theorem setupFail_idle (text : String) : Idles A a (setupFail a ⟨false, false⟩ text) := trivial

theorem setupFailWith_idle (text : String) (failure : Failure) :
    Idles A a (setupFailWith a ⟨false, false⟩ text failure) := by
  cases failure <;> trivial

theorem establish_idle (hp : A.pairs ⊆ A.own) (symID sgName rdfGrpNo : String) :
    Idles A a (establish symID sgName rdfGrpNo false) := by
  refine ⟨trivial, ?_⟩
  rintro (err | ⟨_ | ⟨state, states⟩, types⟩) -
  · trivial
  · trivial
  · show CallsIf _ _ (Prog.bind (.ret (Except.ok (decide _))) _)
    cases decide (state = "Consistent" ∨ state = "Synchronized" ∨ state = activeBias) with
    | true => trivial
    | false =>
      refine ⟨hp, ?_⟩
      rintro (err | _) - <;> trivial

theorem protectStorageGroup_idle (hs : A.sgProtected = true)
    (symID remoteSymID sgName remoteSGName level rdfGrpNo rdfMode : String) :
    Idles A a (protectStorageGroup symID remoteSymID sgName remoteSGName level rdfGrpNo rdfMode
      false) := by
  refine ⟨trivial, ?_⟩
  rintro (err | lockNum) -
  · trivial
  refine ⟨trivial, ?_⟩
  rintro (err | rdf) ht
  · exact ⟨trivial, fun _ _ => trivial⟩
  · obtain rfl : rdf = true := Eq.trans ht hs
    exact ⟨trivial, fun _ _ => trivial⟩

theorem pairDevices_idle (hs : A.sgProtected = true) (hp : A.pairs ⊆ A.own) :
    Idles A a (pairDevices a ⟨false, false⟩) := by
  refine (establish_idle hp _ _ _).bind ?_
  rintro (failure | _)
  · exact setupFailWith_idle _ failure
  refine (protectStorageGroup_idle hs _ _ _ _ _ _ _).bind ?_
  rintro (failure | _)
  · exact setupFailWith_idle _ failure
  refine (establish_idle hp _ _ _).bind ?_
  rintro (failure | _)
  · exact setupFailWith_idle _ failure
  refine ⟨trivial, ?_⟩
  rintro (err | verifyRDF) -
  · trivial
  · exact .ite trivial trivial

theorem setup_idle (hs : A.Suits a) : Idles A a (setupDegradedVolumeAsMetro a) := by
  obtain ⟨hg, hs⟩ := hs
  refine ⟨trivial, ?_⟩
  rintro (err | sg) -
  · refine ⟨hg, ?_⟩
    rintro (createErr | _) ht
    · trivial
    · exact absurd hg (ht rfl)
  show CallsIf _ _ (ite ..)
  split
  · exact setupFail_idle _
  case isFalse hc =>
    obtain ⟨hu, hsg, hp⟩ := hs.resolve_left hc
    refine ⟨trivial, ?_⟩
    rintro (getErr | vol) ht
    · show CallsIf _ _ (ite ..)
      split
      · exact setupFail_idle _
      case isFalse hn =>
        exact absurd (Finset.mem_union_left _ hu) (ht rfl (by simpa using hn))
    · exact pairDevices_idle hsg hp

theorem setupSafe_of_suits (hs : A.Suits a) : SetupSafe A a := by
  have h : SafeIn (A.answers a) (SetupIssue A a) (fun w _ => w = .empty) .empty
      (setupDegradedVolumeAsMetro a) :=
    .of_callsIf rfl (setup_idle hs) fun _ _ hc hw => hc.answers hw
  refine ⟨fun w c hi => h.canIssue hi, fun w result hr _ _ => ?_⟩
  rw [h.canReturn hr]
  exact ⟨rfl, rfl⟩

end

/-! ## The setup on the other arrays -/

section

variable {A : RemoteArray} {a : SetupArgs} {w : SetupWorld}

def requestTimedOut : PmaxError := ⟨"context deadline exceeded", true⟩

def deviceNotFound : PmaxError := ⟨"Volume not found", false⟩

def deviceNamed (dev : String) : SizedVolume := ⟨⟨dev, "", [], false, false, 0⟩, 0⟩

/-- A request takes effect, whatever it reports. -/
theorem answers_of_effect {c : RepCall} {r : RepAnswer c} {w' : SetupWorld}
    (he : A.effect a w c = w') (ht : A.Truthful a w c r) (hd : c.deletes = false)
    (hf : w'.deletionFailed = w.deletionFailed) : A.answers a w c r w' :=
  ⟨ht, w', .inl he.symm, by simp [hd, ← hf]⟩

theorem answers_read {c : RepCall} {r : RepAnswer c} (he : A.effect a w c = w)
    (ht : A.Truthful a w c r) (hd : c.deletes = false) : A.answers a w c r w :=
  answers_of_effect he ht hd rfl

/-- The response of `CreateStorageGroup` is lost. -/
theorem canReturn_group (hg : a.remoteSGName ∉ A.groups) :
    ∃ err, CanReturn (A.answers a) .empty (setupDegradedVolumeAsMetro a)
      ⟨∅, {a.remoteSGName}, false⟩ (.error (.failed err)) := by
  apply Exists.intro
  refine canReturn_ask (.error requestTimedOut) (answers_read rfl trivial rfl) ?_
  refine canReturn_ask (.error requestTimedOut)
    (answers_of_effect (if_pos ⟨rfl, hg⟩) trivial rfl rfl) ?_
  exact canReturn_ret _

section

variable (hc : ¬ a.op.requiredCylinders ≤ 0)

include hc

/-- The response of `CreateVolumeInStorageGroupS` is lost. -/
theorem canReturn_device (hu : a.localDevID ∉ A.used) :
    ∃ err, CanReturn (A.answers a) .empty (setupDegradedVolumeAsMetro a)
      ⟨{A.pick}, ∅, false⟩ (.error (.failed err)) := by
  apply Exists.intro
  refine canReturn_ask (.ok none) (answers_read rfl trivial rfl) ?_
  show CanReturn _ _ (ite ..) _ _
  rw [if_neg hc]
  refine canReturn_ask (.error deviceNotFound)
    (answers_read rfl (fun _ _ => by simpa [SetupWorld.empty, SetupArgs.remoteVolID] using hu)
      rfl) ?_
  refine canReturn_ask (.error requestTimedOut)
    (answers_of_effect (if_pos rfl) trivial rfl rfl) ?_
  exact canReturn_ret _

/-- The response of `CreateSGReplica` is lost. -/
theorem canReturn_replica (hu : a.localDevID ∈ A.used) (hs : A.sgProtected = false) :
    ∃ err, CanReturn (A.answers a) .empty (setupDegradedVolumeAsMetro a)
      ⟨{A.replica}, ∅, false⟩ (.error (.failed err)) := by
  apply Exists.intro
  refine canReturn_ask (.ok none) (answers_read rfl trivial rfl) ?_
  show CanReturn _ _ (ite ..) _ _
  rw [if_neg hc]
  refine canReturn_ask (.ok (deviceNamed a.localDevID))
    (answers_read rfl (fun _ => Finset.mem_union_left _ hu) rfl) ?_
  refine canReturn_call (r := .ok ⟨["Consistent"], []⟩) (answers_read rfl trivial rfl) ?_
  refine canReturn_call (r := .ok 0) (answers_read rfl trivial rfl) ?_
  refine canReturn_call (r := .ok false) (answers_read rfl hs.symm rfl) ?_
  refine canReturn_call (r := .ok ⟨false, 0⟩) (answers_read rfl trivial rfl) ?_
  refine canReturn_call (r := .error requestTimedOut) (answers_read rfl trivial rfl) ?_
  refine canReturn_call (r := .error requestTimedOut) (answers_of_effect rfl trivial rfl rfl) ?_
  refine canReturn_call (r := ()) (answers_read rfl trivial rfl) ?_
  exact canReturn_ret _

theorem canIssue_establish (hu : a.localDevID ∈ A.used) :
    CanIssue (A.answers a) .empty (setupDegradedVolumeAsMetro a) .empty
      (.executeReplicationActionOnSG a.localSymID establishAction a.sgName a.op.rdfGroupNo
        false) := by
  refine canIssue_ask (.ok none) (answers_read rfl trivial rfl) ?_
  show CanIssue _ _ (ite ..) _ _
  rw [if_neg hc]
  refine canIssue_ask (.ok (deviceNamed a.localDevID))
    (answers_read rfl (fun _ => Finset.mem_union_left _ hu) rfl) ?_
  refine canIssue_call (r := .ok ⟨["Suspended"], []⟩) (answers_read rfl trivial rfl) ?_
  exact canIssue_call_self

end

/-- The setup is safe exactly if it has nothing to create. -/
theorem setupSafe_iff : SetupSafe A a ↔ A.Suits a := by
  refine ⟨fun ⟨hi, hr⟩ => ?_, setupSafe_of_suits⟩
  constructor
  · by_contra hg
    obtain ⟨err, hru⟩ := canReturn_group hg
    exact Finset.singleton_ne_empty _ (hr _ _ hru ⟨err, rfl⟩ rfl).2
  refine or_iff_not_imp_left.mpr fun hc => ?_
  have hu : a.localDevID ∈ A.used := by
    by_contra hu
    obtain ⟨err, hru⟩ := canReturn_device hc hu
    exact Finset.singleton_ne_empty _ (hr _ _ hru ⟨err, rfl⟩ rfl).1
  refine ⟨hu, ?_, ?_⟩
  · by_contra hs
    obtain ⟨err, hru⟩ := canReturn_replica hc hu (by simpa using hs)
    exact Finset.singleton_ne_empty _ (hr _ _ hru ⟨err, rfl⟩ rfl).1
  · simpa [SetupIssue, SetupWorld.empty] using hi _ _ (canIssue_establish hc hu)

/-- A remote array without devices, that gives its next device the ID `00B7`. -/
def emptyArray : RemoteArray where
  used := ∅
  own := ∅
  groups := {"remote-sg"}
  pick := "00B7"
  pairs := ∅
  replica := "00B8"
  sgProtected := true
  own_subset := by decide
  pick_notMem := by decide

def degradedSetup : SetupArgs where
  op := {
    volumeID := "csi-vol-000001:-00A1:", arrayID := "000002", rdfGroupNo := "7"
    remoteRDFGroupNo := "8", storageGroupName := "sg", remoteStorageGroupName := "remote-sg"
    remoteSRP := "SRP_1", remoteServiceLevel := "Gold", requiredCylinders := 547
    volumeName := "csi-vol", ns := "default", replicationMode := "METRO", localSymID := "000001"
    driverName := "csi-powermax", instanceUID := "" }
  localSymID := "000001"
  localDevID := "00A1"
  remoteSymID := "000002"
  sgName := "sg"

/-- The device is created as `00B7` and the rollback deletes `00A1`. -/
theorem emptyArray_keeps_device : ¬ ∀ (A : RemoteArray) (a : SetupArgs), SetupSafe A a := by
  intro hs
  have hr : ∃ err, CanReturn (emptyArray.answers degradedSetup) .empty
      (setupDegradedVolumeAsMetro degradedSetup) ⟨{"00B7"}, ∅, false⟩ (.error (.failed err)) := by
    apply Exists.intro
    refine canReturn_ask (.ok none) (answers_read rfl trivial rfl) ?_
    refine canReturn_ask (.error deviceNotFound) (answers_read rfl (fun _ _ => by decide) rfl) ?_
    refine canReturn_ask (.ok (deviceNamed "00B7"))
      (answers_of_effect (show _ = SetupWorld.mk {"00B7"} ∅ false from rfl) (fun _ => rfl) rfl
        rfl) ?_
    refine canReturn_call (r := .error requestTimedOut) (answers_read rfl trivial rfl) ?_
    refine canReturn_call (r := .ok ()) ⟨trivial, _, .inl rfl, rfl⟩ ?_
    exact canReturn_ret _
  obtain ⟨err, hr⟩ := hr
  exact Finset.singleton_ne_empty _ ((hs emptyArray degradedSetup).2 _ _ hr ⟨err, rfl⟩ rfl).1

end

end PowerMaxCsi.Service
