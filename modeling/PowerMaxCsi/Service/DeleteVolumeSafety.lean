import PowerMaxCsi.Lib.World
import PowerMaxCsi.Service.DeleteVolume

/-!
# Which devices `DeleteVolume` touches

`DeleteVolume` must not rename or queue a device that carries the live identifier of another volume.
The remote device of a Metro volume is renamed first, to the very name that the check then looks
for.  No call reports an existing volume as not found.
-/

namespace PowerMaxCsi.Service

open Strings Prog

structure Arrays where
  volumes : String → String → Option Volume
  storageGroups : String → String → Option StorageGroup

namespace Arrays

def rename (w : Arrays) (symID devID newName : String) : Arrays :=
  { w with
    volumes := fun sym dev =>
      if sym = symID ∧ dev = devID then
        (w.volumes sym dev).map fun v => { v with volumeIdentifier := newName }
      else w.volumes sym dev }

def answers (w : Arrays) : (c : CtrlCall) → CtrlAnswer c → Arrays → Prop
  | .pmax (.getVolumeByID sym dev), r, w' => w' = w ∧
      match r with
      | .ok vol => ∃ v, w.volumes sym dev = some v ∧ vol = { v with volumeID := dev }
      | .error err => w.volumes sym dev ≠ none → contains err.text cannotBeFound = false
  | .pmax (.getStorageGroup sym sgid), r, w' => w' = w ∧
      match r with
      | .ok (some sg) => w.storageGroups sym sgid = some sg
      | _ => True
  | .pmax (.renameVolume sym dev newName), r, w' =>
    match r with
    | .ok (some vol) => w' = w.rename sym dev newName ∧ ∃ v, w.volumes sym dev = some v ∧
        vol = { v with volumeID := dev, volumeIdentifier := newName }
    | _ => w' = w ∨ w' = w.rename sym dev newName
  | _, _, w' => w' = w

/-- The device carries the live identifier of another volume. -/
def LiveForeign (w : Arrays) (volName symID devID : String) : Prop :=
  ∃ v, w.volumes symID devID = some v ∧ v.volumeIdentifier ≠ "" ∧
    hasPrefix v.volumeIdentifier deletionPrefix = false ∧
    volumeIdentifiersMatch volName v.volumeIdentifier = false

end Arrays

open Arrays

def CtrlCall.touches : CtrlCall → Option (String × String)
  | .pmax (.renameVolume sym dev _) => some (sym, dev)
  | .deletionQueueChan sym dev _ => some (sym, dev)
  | _ => none

/-- No device is touched that carries the live identifier of another volume just before the call. -/
def SparesForeign (cfg : ServiceConfig) (w : Arrays) (id : String) : Prop :=
  ∀ csiID, parseCsiID id = .ok csiID → ∀ w' c sym dev,
    CanIssue Arrays.answers w (deleteVolumeRequest cfg id) w' c → c.touches = some (sym, dev) →
      ¬ w.LiveForeign csiID.volName sym dev

def Accepted (cfg : ServiceConfig) (symID devID volumeIdentifier : String) : Prop :=
  symID ∈ cfg.symmetrixIDs ∧ deletionRequestError devID volumeIdentifier symID = none ∧
    ∃ d, getDeviceID devID = .ok d

/-- In this state of the arrays `deleteVolume` can succeed for an existing device. -/
def LegPasses (cfg : ServiceConfig) (w : Arrays) (volName symID devID : String) : Prop :=
  ∃ v, w.volumes symID devID = some v ∧
    if volumeIdentifiersMatch volName v.volumeIdentifier then
      (∀ sgid ∈ v.storageGroupIDList, ∃ sg, w.storageGroups symID sgid = some sg ∧
        sg.numOfMaskingViews = 0) ∧
      (v.snapSource = true ∨ Accepted cfg symID devID (deletionName v.volumeIdentifier))
    else renamedForDeletion volName v.volumeIdentifier = true →
      Accepted cfg symID devID v.volumeIdentifier

theorem hasPrefix_of_accepted {cfg : ServiceConfig} {symID devID volumeIdentifier : String}
    (h : Accepted cfg symID devID volumeIdentifier) :
    hasPrefix volumeIdentifier deletionPrefix = true := by
  obtain ⟨-, hv, -⟩ := h
  unfold deletionRequestError at hv
  split at hv
  · simp at hv
  · split at hv
    · simp at hv
    · split at hv
      case isTrue hl =>
        simp only [hasPrefix, List.isPrefixOf_iff_prefix] at hl ⊢
        refine List.IsPrefix.trans ?_ hl
        exact ⟨"csi-".toList, by decide⟩
      case isFalse =>
        split at hv
        · simp at hv
        case isFalse hm => simpa using hm

section

variable {cfg : ServiceConfig} {w : Arrays} {symID devID volName : String}

def OnlyTouches (P : String → String → Prop) (_ : Arrays) (c : CtrlCall) : Prop :=
  ∀ sym dev, c.touches = some (sym, dev) → P sym dev

def OnlyNames (Q P : String → String → Prop) (w : Arrays) (c : CtrlCall) : Prop :=
  (∀ sym dev, c = .pmax (.getVolumeByID sym dev) → Q sym dev) ∧ OnlyTouches P w c

variable {Q P : String → String → Prop}

theorem onlyNames_none {c : CtrlCall} (hr : ∀ sym dev, c ≠ .pmax (.getVolumeByID sym dev))
    (ht : c.touches = none) : OnlyNames Q P w c := by
  refine ⟨fun sym dev hc => absurd hc (hr sym dev), fun sym dev hs => ?_⟩
  cases ht.symm.trans hs

theorem onlyNames_read {sym dev : String} (hQ : Q sym dev) :
    OnlyNames Q P w (.pmax (.getVolumeByID sym dev)) := by
  refine ⟨?_, nofun⟩
  rintro _ _ ⟨⟩
  exact hQ

theorem onlyNames_touch {c : CtrlCall} {sym dev : String} (ht : c.touches = some (sym, dev))
    (hP : P sym dev) : OnlyNames Q P w c := by
  constructor
  · rintro _ _ rfl
    cases ht
  · intro sym' dev' ht'
    cases ht.symm.trans ht'
    exact hP

theorem queueDeviceForDeletion_safe {volumeIdentifier : String} (hQ : Q symID devID)
    (hP : Accepted cfg symID devID volumeIdentifier → P symID devID) :
    SafeIn answers (OnlyNames Q P)
      (fun w' err => w' = w ∧ (err = none → Accepted cfg symID devID volumeIdentifier)) w
      (queueDeviceForDeletion cfg devID volumeIdentifier symID) := by
  refine ⟨onlyNames_none nofun rfl, ?_⟩
  rintro room _ rfl
  cases room with
  | false => exact ⟨rfl, by simp⟩
  | true =>
    split
    case isTrue => exact ⟨rfl, by simp⟩
    case isFalse hm =>
    refine ⟨onlyNames_none nofun rfl, ?_⟩
    rintro (err | _) _ rfl
    · exact ⟨rfl, by simp⟩
    refine ⟨onlyNames_read hQ, ?_⟩
    rintro (err | vol) _ ⟨rfl, -⟩
    · exact ⟨rfl, by simp⟩
    cases hv : deletionRequestError devID volumeIdentifier symID with
    | some err => exact ⟨rfl, by simp⟩
    | none =>
      cases hd : getDeviceID devID with
      | error err => exact ⟨rfl, by simp⟩
      | ok d =>
        have ha : Accepted cfg symID devID volumeIdentifier :=
          ⟨not_not.mp hm, hv, d, hd⟩
        refine ⟨onlyNames_touch rfl (hP ha), ?_⟩
        rintro _ _ rfl
        exact ⟨rfl, fun _ => ha⟩

theorem markVolumeForDeletion_safe {vol : Volume} (hQ : Q symID vol.volumeID)
    (hP : P symID vol.volumeID) :
    SafeIn answers (OnlyNames Q P)
      (fun _ err => err = none → Accepted cfg symID vol.volumeID (deletionName vol.volumeIdentifier))
      w (markVolumeForDeletion cfg symID vol) := by
  refine ⟨onlyNames_touch rfl hP, ?_⟩
  rintro (err | _ | renamed) w' ha
  · exact fun h => absurd h (by simp)
  · exact fun h => absurd h (by simp)
  · obtain ⟨-, v, -, rfl⟩ := ha
    exact (queueDeviceForDeletion_safe hQ fun _ => hP).mono fun _ _ hp => hp.2

theorem checkMaskingViews_safe (sgids : List String) :
    SafeIn answers (OnlyNames Q P)
      (fun w' err => w' = w ∧ (err = none → ∀ sgid ∈ sgids, ∃ sg,
        w.storageGroups symID sgid = some sg ∧ sg.numOfMaskingViews = 0)) w
      (checkMaskingViews symID sgids) := by
  induction sgids with
  | nil => exact ⟨rfl, by simp⟩
  | cons sgid rest ih =>
    refine ⟨onlyNames_none nofun rfl, ?_⟩
    rintro (err | _ | sg) _ ⟨rfl, ha⟩
    · exact ⟨rfl, by simp⟩
    · exact ⟨rfl, by simp⟩
    · refine .ite (fun _ => ⟨rfl, by simp⟩) fun hv => ?_
      refine ih.mono fun w' err hp => ⟨hp.1, fun he sgid' hmem => ?_⟩
      rcases List.mem_cons.mp hmem with rfl | hmem
      · exact ⟨sg, ha, by omega⟩
      · exact hp.2 he sgid' hmem

/-- `deleteVolume` touches its device only if it has the identifier of the volume or is marked; if
it succeeds for an existing device, the leg passes. -/
theorem deleteVolume_safe (hQ : Q symID devID) (hP : ∀ v, w.volumes symID devID = some v →
      volumeIdentifiersMatch volName v.volumeIdentifier = true ∨
        hasPrefix v.volumeIdentifier deletionPrefix = true → P symID devID) :
    SafeIn answers (OnlyNames Q P)
      (fun _ err => err = none → w.volumes symID devID ≠ none → LegPasses cfg w volName symID devID) w
      (deleteVolume cfg symID volName devID) := by
  refine ⟨onlyNames_read hQ, ?_⟩
  rintro (err | vol) _ ⟨rfl, han⟩
  · exact .ite (fun hf => fun _ hex => absurd hf (by simp [han hex])) fun _ =>
      fun h => absurd h (by simp)
  obtain ⟨v, hv, rfl⟩ := han
  refine .ite (fun hm => ?_) fun hm => ?_
  · have hd : P symID devID := hP v hv (.inl hm)
    refine (checkMaskingViews_safe v.storageGroupIDList).bind ?_
    rintro _ (_ | err) ⟨rfl, hvi⟩
    · dsimp only
      split
      case isTrue hs =>
        refine ⟨onlyNames_touch rfl hd, ?_⟩
        rintro (err | _ | renamed) w' -
        · exact fun h => absurd h (by simp)
        · exact fun h => absurd h (by simp)
        · exact fun _ _ => ⟨v, hv, by simpa [hm] using ⟨hvi rfl, .inl hs⟩⟩
      case isFalse =>
        refine (markVolumeForDeletion_safe hQ hd).bind ?_
        rintro w' err ha he -
        have ha := ha (by simpa using he)
        exact ⟨v, hv, by simpa [hm] using ⟨hvi rfl, .inr ha⟩⟩
    · exact fun h => absurd h (by simp)
  · split
    case isTrue =>
      refine (queueDeviceForDeletion_safe hQ fun ha =>
        hP v hv (.inr (hasPrefix_of_accepted ha))).bind ?_
      rintro _ err ⟨rfl, ha⟩ he -
      have ha := ha (by simpa using he)
      exact ⟨v, hv, by simpa [hm] using fun _ => ha⟩
    case isFalse hr => exact fun _ _ => ⟨v, hv, by simp [hm, hr]⟩

theorem deleteFileSystem_safe {fsName fsID : String} :
    SafeIn answers (OnlyNames Q P) (fun _ _ => True) w
      (deleteFileSystem symID fsName fsID) := by
  refine ⟨onlyNames_none nofun rfl, ?_⟩
  rintro (err | name) w₁ -
  · exact .ite (fun _ => trivial) fun _ => trivial
  refine .ite (fun _ => trivial) fun _ => ?_
  refine ⟨onlyNames_none nofun rfl, ?_⟩
  rintro (_ | _ | _) w₂ -
  · trivial
  · refine ⟨onlyNames_none nofun rfl, ?_⟩
    rintro (_ | _) w₃ - <;> trivial
  · trivial

variable {id : String}

theorem deferCleanup_safe {remoteSymID : String} :
    SafeIn answers (OnlyNames Q P) (fun _ _ => True) w (deferCleanup id remoteSymID) := by
  refine ⟨onlyNames_none nofun rfl, ?_⟩
  rintro (_ | _) w₁ - <;> trivial

theorem deleteRemote_safe {csiID : CsiID} (hQ : Q csiID.remoteSymID csiID.remoteVolID)
    (hP : P csiID.remoteSymID csiID.remoteVolID) :
    SafeIn answers (OnlyNames Q P) (fun _ _ => True) w (deleteRemote cfg id csiID) := by
  refine ⟨onlyNames_touch rfl hP, ?_⟩
  rintro (err | vol) w₁ -
  · refine .ite (fun _ => trivial) fun _ => ?_
    split
    · exact deferCleanup_safe
    · trivial
  · refine (deleteVolume_safe hQ fun _ _ _ => hP).bind ?_
    rintro w₂ (_ | err) -
    · trivial
    · dsimp only
      split
      · exact deferCleanup_safe
      · trivial

/-- The local device is touched if it has the identifier of the volume or is marked, the remote one
if the local leg passes. -/
theorem deleteVolumeRequest_safe {csiID : CsiID} (hid : parseCsiID id = .ok csiID)
    (hQ : Q csiID.arrayID csiID.devID) (hl : ∀ v, w.volumes csiID.arrayID csiID.devID = some v →
      volumeIdentifiersMatch csiID.volName v.volumeIdentifier = true ∨
        hasPrefix v.volumeIdentifier deletionPrefix = true → P csiID.arrayID csiID.devID)
    (hr : csiID.remoteSymID ≠ "" → LegPasses cfg w csiID.volName csiID.arrayID csiID.devID →
      Q csiID.remoteSymID csiID.remoteVolID ∧ P csiID.remoteSymID csiID.remoteVolID) :
    SafeIn answers (OnlyNames Q P) (fun _ _ => True) w (deleteVolumeRequest cfg id) := by
  simp only [deleteVolumeRequest, hid]
  refine ⟨onlyNames_none nofun rfl, ?_⟩
  rintro (_ | _) _ rfl
  · trivial
  refine ⟨onlyNames_none nofun rfl, ?_⟩
  rintro (_ | _) _ rfl
  · trivial
  refine ⟨onlyNames_none nofun rfl, ?_⟩
  rintro (_ | _) _ rfl
  · trivial
  refine ⟨onlyNames_read hQ, ?_⟩
  rintro (_ | vol) _ ⟨rfl, ha⟩
  · exact deleteFileSystem_safe
  obtain ⟨v, hv, -⟩ := ha
  refine (deleteVolume_safe hQ hl).bind ?_
  rintro w' (_ | err) hp
  · refine .ite (fun hm => ?_) fun _ => trivial
    obtain ⟨hQr, hPr⟩ := hr hm (hp rfl (by simp [hv]))
    exact deleteRemote_safe hQr hPr
  · trivial

end

section

variable {cfg : ServiceConfig} {w : Arrays} {symID devID volName : String} {v : Volume}

theorem answers_getVolumeByID (hv : w.volumes symID devID = some v) :
    w.answers (.pmax (.getVolumeByID symID devID)) (.ok { v with volumeID := devID }) w :=
  ⟨rfl, v, hv, rfl⟩

theorem answers_renameVolume (hv : w.volumes symID devID = some v) (newName : String) :
    w.answers (.pmax (.renameVolume symID devID newName))
      (.ok (some { v with volumeID := devID, volumeIdentifier := newName }))
      (w.rename symID devID newName) :=
  ⟨rfl, v, hv, rfl⟩

theorem queueDeviceForDeletion_canReturn {volumeIdentifier : String}
    (hv : w.volumes symID devID ≠ none) (ha : Accepted cfg symID devID volumeIdentifier) :
    CanReturn answers w (queueDeviceForDeletion cfg devID volumeIdentifier symID) w none := by
  obtain ⟨v, hv⟩ := Option.ne_none_iff_exists'.mp hv
  obtain ⟨hm, hva, d, hd⟩ := ha
  refine canReturn_ask true rfl ?_
  simp only [hm]
  refine canReturn_ask (.ok ()) rfl ?_
  refine canReturn_ask _ (answers_getVolumeByID hv) ?_
  simp only [hva, hd]
  exact canReturn_ask () rfl (canReturn_ret none)

theorem markVolumeForDeletion_canReturn (hv : w.volumes symID devID = some v)
    (ha : Accepted cfg symID devID (deletionName v.volumeIdentifier)) :
    CanReturn answers w (markVolumeForDeletion cfg symID { v with volumeID := devID })
      (w.rename symID devID (deletionName v.volumeIdentifier)) none := by
  refine canReturn_ask _ (answers_renameVolume hv _) ?_
  refine queueDeviceForDeletion_canReturn ?_ ha
  simp [rename, hv]

theorem checkMaskingViews_canReturn {sgids : List String}
    (hv : ∀ sgid ∈ sgids, ∃ sg, w.storageGroups symID sgid = some sg ∧ sg.numOfMaskingViews = 0) :
    CanReturn answers w (checkMaskingViews symID sgids) w none := by
  induction sgids with
  | nil => exact canReturn_ret none
  | cons sgid rest ih =>
    obtain ⟨sg, hsg, hn⟩ := hv sgid (by simp)
    refine canReturn_ask (.ok (some sg)) ⟨rfl, hsg⟩ ?_
    simp only [hn]
    exact ih fun sgid' hmem => hv sgid' (List.mem_cons_of_mem _ hmem)

theorem deleteVolume_canReturn (hp : LegPasses cfg w volName symID devID) :
    ∃ w', CanReturn answers w (deleteVolume cfg symID volName devID) w' none := by
  obtain ⟨v, hv, hp⟩ := hp
  split at hp
  case isTrue hm =>
    obtain ⟨hvi, hd⟩ := hp
    by_cases hs : v.snapSource = true
    · refine ⟨w.rename symID devID (sourceName volName),
        canReturn_ask _ (answers_getVolumeByID hv) ?_⟩
      simp only [hm]
      refine (checkMaskingViews_canReturn hvi).bind ?_
      simp only [hs]
      exact canReturn_ask _ (answers_renameVolume hv _) (canReturn_ret none)
    · have ha := hd.resolve_left hs
      refine ⟨w.rename symID devID (deletionName v.volumeIdentifier),
        canReturn_ask _ (answers_getVolumeByID hv) ?_⟩
      simp only [hm]
      refine (checkMaskingViews_canReturn hvi).bind ?_
      simp only [hs]
      exact (markVolumeForDeletion_canReturn hv ha).bind (canReturn_ret none)
  case isFalse hm =>
    refine ⟨w, canReturn_ask _ (answers_getVolumeByID hv) ?_⟩
    simp only [hm]
    by_cases hr : renamedForDeletion volName v.volumeIdentifier = true
    · simp only [hr]
      exact (queueDeviceForDeletion_canReturn (by simp [hv]) (hp hr)).bind (canReturn_ret none)
    · simp only [hr]
      exact canReturn_ret none

theorem deleteVolumeRequest_canIssue {id : String} {csiID : CsiID}
    (hid : parseCsiID id = .ok csiID) (hm : csiID.remoteSymID ≠ "")
    (hp : LegPasses cfg w csiID.volName csiID.arrayID csiID.devID) :
    ∃ w', CanIssue answers w (deleteVolumeRequest cfg id) w'
      (.pmax (.renameVolume csiID.remoteSymID csiID.remoteVolID csiID.volName)) := by
  obtain ⟨w', hl⟩ := deleteVolume_canReturn hp
  obtain ⟨v, hv, -⟩ := hp
  refine ⟨w', ?_⟩
  simp only [deleteVolumeRequest, hid]
  refine canIssue_ask (.ok ()) rfl ?_
  refine canIssue_ask (.ok ()) rfl ?_
  refine canIssue_ask (.ok ()) rfl ?_
  refine canIssue_ask _ (answers_getVolumeByID hv) ?_
  refine hl.bind_issue ?_
  simp only [ne_eq, hm]
  exact canIssue_call_self

end

/-- The local leg can succeed while the remote device carries the identifier of another volume. -/
def RemoteAtRisk (cfg : ServiceConfig) (w : Arrays) (csiID : CsiID) : Prop :=
  csiID.remoteSymID ≠ "" ∧ LegPasses cfg w csiID.volName csiID.arrayID csiID.devID ∧
    w.LiveForeign csiID.volName csiID.remoteSymID csiID.remoteVolID

/-- `DeleteVolume` spares other volumes exactly if the remote device is not at risk. -/
theorem sparesForeign_iff (cfg : ServiceConfig) (w : Arrays) (id : String) :
    SparesForeign cfg w id ↔ ∀ csiID, parseCsiID id = .ok csiID → ¬ RemoteAtRisk cfg w csiID := by
  constructor
  · rintro hs csiID hid ⟨hm, hp, hf⟩
    obtain ⟨w', hi⟩ := deleteVolumeRequest_canIssue hid hm hp
    exact hs csiID hid w' _ _ _ hi rfl hf
  · intro hsaf csiID hid w' c sym dev hi ht
    have hl : ∀ v, w.volumes csiID.arrayID csiID.devID = some v →
        volumeIdentifiersMatch csiID.volName v.volumeIdentifier = true ∨
          hasPrefix v.volumeIdentifier deletionPrefix = true →
        ¬ w.LiveForeign csiID.volName csiID.arrayID csiID.devID := by
      rintro v hv ho ⟨v', hv', -, hma, hmat⟩
      obtain rfl : v' = v := by simpa [hv] using hv'.symm
      simp [hma, hmat] at ho
    have hsa := deleteVolumeRequest_safe (Q := fun _ _ => True)
      (P := fun sym dev => ¬ w.LiveForeign csiID.volName sym dev) hid trivial hl
      fun hm hp => ⟨trivial, fun hf => hsaf csiID hid ⟨hm, hp, hf⟩⟩
    exact (hsa.canIssue hi).2 sym dev ht

/-- Both devices of a deleted Metro volume were reused, each for a volume of its own. -/
def reusedArrays : Arrays where
  volumes
    | "000120000548", "011AB" => some ⟨"011AB", "csi-ABC-pmax-2222222222-ns1", [], false, false, 0⟩
    | "000120000549", "022CD" => some ⟨"022CD", "csi-ABC-pmax-3333333333-ns1", [], false, false, 0⟩
    | _, _ => none
  storageGroups _ _ := none

/-- The delete is retried: the local device is left alone, the remote one renamed. -/
theorem reusedArrays_renamed :
    ¬ SparesForeign ⟨[], false⟩ reusedArrays
      "csi-ABC-pmax-1111111111-ns1-000120000548:000120000549-011AB:022CD" := by
  intro hs
  have hid : parseCsiID "csi-ABC-pmax-1111111111-ns1-000120000548:000120000549-011AB:022CD" =
    .ok ⟨"csi-ABC-pmax-1111111111-ns1", "000120000548", "011AB", "000120000549", "022CD"⟩ := by
    decide
  have hp : LegPasses ⟨[], false⟩ reusedArrays "csi-ABC-pmax-1111111111-ns1" "000120000548"
      "011AB" := by
    refine ⟨_, rfl, ?_⟩
    exact fun h => absurd h (by decide)
  obtain ⟨w', hi⟩ := deleteVolumeRequest_canIssue hid (by decide) hp
  exact hs _ hid w' _ _ _ hi rfl ⟨_, rfl, by decide, by decide, by decide⟩

end PowerMaxCsi.Service
