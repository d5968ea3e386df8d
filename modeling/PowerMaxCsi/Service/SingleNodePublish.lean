import PowerMaxCsi.Lib.World
import PowerMaxCsi.Service.StorageGroupContract
import PowerMaxCsi.Service.VolumePublisher

/-!
# Publishing a volume to a single node

`addVolumeToSGMVVolumeCheck` rejects a volume that is mapped through another masking view; the
publisher for Unisphere 10.4 does not look.  `PublishWorld` is what both read.
-/

namespace PowerMaxCsi.Service

open Strings Prog List

namespace SgArrays

def Masks (a : SgArrays) (symID devID maskingViewID : String) : Prop :=
  ∃ storageGroupID group, a.groups symID storageGroupID = some group ∧ devID ∈ group.volumes ∧
    maskingViewID ∈ group.maskingViews

def SingleMasked (a : SgArrays) (symID devID : String) : Prop :=
  ∀ mv mv', a.Masks symID devID mv → a.Masks symID devID mv' → mv = mv'

def Tidy (a : SgArrays) (symID : String) : Prop :=
  ∀ tail group, a.groups symID (csiNoSrpSGPrefix ++ tail) = some group →
    ∀ mv ∈ group.maskingViews, mv = csiMVPrefix ++ tail

end SgArrays

structure PublishWorld where
  arrays : SgArrays
  volume : String → String → Except PmaxError WwnVolume
  hosts : String → String → Except PmaxError Host
  hostGroups : String → String → Except PmaxError HostGroup
  adopted : String → String → Except String String
  nodeCache : String → Option String

/-- The arrays describe their volumes as they are. -/
structure PublishSite extends PublishWorld where
  listed : ∀ symID devID vol, volume symID devID = .ok vol →
    ∀ sg, sg ∈ vol.storageGroupIDList ↔ devID ∈ arrays.volumes symID sg
  paths : ∀ symID devID vol, volume symID devID = .ok vol →
    (0 < vol.numberOfFrontEndPaths ↔ ∃ mv, arrays.Masks symID devID mv)

namespace PublishWorld

variable (w : PublishWorld)

def viewNotFound : PmaxError := ⟨"Masking View cannot be found", false⟩

def viewAnswer (symID maskingViewID : String) : Except PmaxError (Option MaskingView) :=
  match w.arrays.views symID maskingViewID with
  | some view => .ok (some view)
  | none => .error viewNotFound

def cacheNode (cacheID hostID : String) : PublishWorld :=
  if w.nodeCache cacheID = none then
    { w with nodeCache := Function.update w.nodeCache cacheID (some hostID) }
  else w

def published (symID : String) (param : PublishMaskingViewsParam) : PublishWorld :=
  let view : MaskingView := ⟨param.hostID, "", param.portGroupID, param.storageGroupID⟩
  { w with arrays := w.arrays.publish symID param.maskingViewID param.volumeID view }

def answers : (c : PubCall) → PubAnswer c → PublishWorld → Prop
  | .getVolumeByID symID devID, r, w' => r = w.volume symID devID ∧ w' = w
  | .getAdoptedHostIDFromNodeLabels symID nodeID, r, w' => r = w.adopted symID nodeID ∧ w' = w
  | .nodeCacheLoad cacheID, r, w' => r = w.nodeCache cacheID ∧ w' = w
  | .nodeCacheLoadOrStore cacheID hostID, _, w' => w' = w.cacheNode cacheID hostID
  | .getMaskingViewByID symID maskingViewID, r, w' => r = w.viewAnswer symID maskingViewID ∧ w' = w
  | .getHostByID symID hostID, r, w' => r = w.hosts symID hostID ∧ w' = w
  | .getHostGroupByID symID hostGroupID, r, w' => r = w.hostGroups symID hostGroupID ∧ w' = w
  | .publishMaskingViews symID param, r, w' =>
    match r with
    | .ok _ => w' = w.published symID param
    | .error _ => w' = w ∨ w' = w.published symID param
  | _, _, w' => w' = w

/-- How the reads of the storage group service are answered, if none fails. -/
def reads : (c : SgCall) → SgAnswer c → Prop
  | .getPowerMaxClient _, r => r = .ok ()
  | .pmax (.getVolumeByID symID devID), r => r = (w.volume symID devID).map WwnVolume.toVolume
  | .pmax (.getStorageGroup symID sgID), r =>
    match w.arrays.groups symID sgID with
    | some group => r = .ok (some (group.describe sgID))
    | none => ∃ err, r = .error err
  | _, _ => True

def Resolves (cfg : PublishConfig) (symID nodeID : String) (target : NodeTarget) : Prop :=
  ∃ w', CanReturn answers w (resolveTarget cfg symID nodeID) w' (.ok target)

end PublishWorld

open PublishWorld

/-- The volume is there under its name and has a WWN, and the masking view fits or can be made. -/
structure Publishable (cfg : PublishConfig) (w : PublishWorld) (volID : String)
    (req : PublishRequest) (mode : AccessMode) (csiID : CsiID) (target : NodeTarget) : Prop where
  node : req.nodeID ≠ ""
  capability : req.volumeCapability = some (some mode)
  known : mode ≠ .unknown
  handle : parseCsiID volID = .ok csiID
  volume : ∃ vol, w.volume csiID.arrayID csiID.devID = .ok vol ∧
    volumeIdentifiersMatch csiID.volName vol.volumeIdentifier = true ∧ vol.effectiveWWN ≠ ""
  resolves : w.Resolves cfg csiID.arrayID req.nodeID target
  view : ∀ view, w.arrays.views csiID.arrayID target.maskingViewID = some view →
    (equalFold view.hostID target.hostID || equalFold view.hostGroupID target.hostID) = true ∧
      equalFold view.storageGroupID target.storageGroupID = true
  host : w.arrays.views csiID.arrayID target.maskingViewID = none →
    ∃ host, w.hosts csiID.arrayID target.hostID = .ok host

section

variable {A : PublishSite} {symID devID mv : String}

theorem mem_appendIfMissing {xs : List String} {x y : String} :
    y ∈ appendIfMissing xs x ↔ y ∈ xs ∨ y = x := by
  unfold appendIfMissing
  split
  case isTrue hx =>
    constructor
    · exact .inl
    · rintro (hy | rfl)
      · exact hy
      · exact hx
  case isFalse => simp

end

def PubCall.looksUp : PubCall → Bool
  | .getAdoptedHostIDFromNodeLabels _ _ | .nodeCacheLoad _ | .nodeCacheLoadOrStore _ _
  | .getMaskingViewByID _ _ | .getHostByID _ _ | .getHostGroupByID _ _ => true
  | _ => false

section

variable (cfg : PublishConfig) (symID nodeID : String)

theorem hostHasType_looksUp (hostID hostType : String) :
    Calls (fun c => c.looksUp = true) (hostHasType symID hostID hostType) := by
  refine ⟨rfl, ?_⟩
  rintro (err | host)
  · trivial
  · trivial

theorem isNodeNVMe_looksUp (adoptedID : String) :
    Calls (fun c => c.looksUp = true) (isNodeNVMe cfg symID nodeID adoptedID) := by
  unfold isNodeNVMe
  split
  · trivial
  split
  case isFalse => trivial
  refine ⟨rfl, ?_⟩
  rintro (err | view)
  · refine (hostHasType_looksUp symID _ _).bind ?_
    rintro (_ | _)
    · trivial
    · trivial
  · trivial

theorem getHostForVsphere_looksUp :
    Calls (fun c => c.looksUp = true) (getHostForVsphere cfg symID) := by
  refine ⟨rfl, ?_⟩
  rintro (err | host)
  · refine Calls.ite ⟨rfl, ?_⟩ trivial
    rintro (err | hostGroup)
    · trivial
    · trivial
  · trivial

theorem preferFC_looksUp : Calls (fun c => c.looksUp = true) (preferFC cfg symID nodeID) := by
  refine ⟨rfl, ?_⟩
  rintro (err | view)
  case ok => trivial
  refine ⟨rfl, ?_⟩
  rintro (err | view)
  case ok => trivial
  refine (hostHasType_looksUp symID _ _).bind ?_
  rintro (_ | _)
  case true => trivial
  refine (hostHasType_looksUp symID _ _).bind ?_
  rintro (_ | _)
  · trivial
  · trivial

theorem preferISCSI_looksUp : Calls (fun c => c.looksUp = true) (preferISCSI cfg symID nodeID) := by
  refine ⟨rfl, ?_⟩
  rintro (err | view)
  case ok => trivial
  refine (hostHasType_looksUp symID _ _).bind ?_
  rintro (_ | _)
  case true => trivial
  refine (hostHasType_looksUp symID _ _).bind ?_
  rintro (_ | _)
  · trivial
  · trivial

theorem isNodeISCSI_looksUp (adoptedID : String) :
    Calls (fun c => c.looksUp = true) (isNodeISCSI cfg symID nodeID adoptedID) := by
  unfold isNodeISCSI
  split
  · trivial
  split
  · refine (getHostForVsphere_looksUp cfg symID).bind ?_
    rintro (_ | err)
    · trivial
    · trivial
  split
  · exact preferFC_looksUp cfg symID nodeID
  split
  · exact preferISCSI_looksUp cfg symID nodeID
  · trivial

theorem detectProtocol_looksUp :
    Calls (fun c => c.looksUp = true) (detectProtocol cfg symID nodeID) := by
  refine (isNodeNVMe_looksUp cfg symID nodeID "").bind ?_
  rintro (err | _ | _)
  · trivial
  · refine (isNodeISCSI_looksUp cfg symID nodeID "").bind ?_
    rintro (err | _ | _)
    · trivial
    · trivial
    · trivial
  · trivial

theorem resolveTarget_looksUp :
    Calls (fun c => c.looksUp = true) (resolveTarget cfg symID nodeID) := by
  refine ⟨rfl, ?_⟩
  rintro (err | adoptedID)
  · trivial
  refine Calls.ite ⟨rfl, fun _ => trivial⟩ ⟨rfl, ?_⟩
  rintro (_ | hostID)
  · refine (detectProtocol_looksUp cfg symID nodeID).bind ?_
    rintro (err | protocol)
    · trivial
    · exact ⟨rfl, fun _ => trivial⟩
  · trivial

end

section

variable {c : PubCall} {cfg : PublishConfig} {w : PublishWorld} {symID nodeID : String}
  {target : NodeTarget}

structure SameArray (w w' : PublishWorld) : Prop where
  arrays : w'.arrays = w.arrays
  volume : w'.volume = w.volume
  hosts : w'.hosts = w.hosts

theorem SameArray.refl (w : PublishWorld) : SameArray w w := ⟨rfl, rfl, rfl⟩

theorem SameArray.answers {w₀ w' : PublishWorld} {r : PubAnswer c}
    (hs : SameArray w₀ w) (hc : c.looksUp = true) (ha : w.answers c r w') : SameArray w₀ w' := by
  cases c with
  | nodeCacheLoadOrStore cacheID hostID =>
    obtain rfl : w' = w.cacheNode cacheID hostID := ha
    unfold cacheNode
    split
    · exact ⟨hs.arrays, hs.volume, hs.hosts⟩
    · exact hs
  | getAdoptedHostIDFromNodeLabels | nodeCacheLoad | getMaskingViewByID | getHostByID
  | getHostGroupByID =>
    obtain ⟨-, rfl⟩ := ha
    exact hs
  | _ => cases hc

section

variable (cfg : PublishConfig) (symID maskingViewID devID reqID : String)

end

section

variable {cfg : PublishConfig} {w w₁ : PublishWorld} {volID reqID symID devID wwn portGroupID : String}
  {target : NodeTarget}

theorem resolveTarget_sameArray :
    Yields answers (fun w' _ => SameArray w w') w (resolveTarget cfg symID nodeID) :=
  SafeIn.of_calls (SameArray.refl w) (resolveTarget_looksUp cfg symID nodeID)
    fun _ _ hc hw => ⟨trivial, fun _ _ ha => hw.answers hc ha⟩

def viewFor (target : NodeTarget) (portGroupID : String) : MaskingView :=
  ⟨target.hostID, "", portGroupID, target.storageGroupID⟩

theorem canReturn_getVolumeOfID {csiID : CsiID} {vol : WwnVolume} (hp : parseCsiID volID = .ok csiID)
    (hv : w.volume csiID.arrayID csiID.devID = .ok vol)
    (hm : volumeIdentifiersMatch csiID.volName vol.volumeIdentifier = true) :
    CanReturn answers w (getVolumeOfID volID) w (.ok (csiID, vol)) := by
  unfold getVolumeOfID
  rw [hp]
  refine canReturn_ask (.ok vol) ⟨hv.symm, rfl⟩ ?_
  dsimp only
  rw [if_neg (by simp [hm])]
  exact canReturn_ret _

theorem canReturn_choosePortGroup (hsa : SameArray w w₁)
    (hv : ∀ view, w.arrays.views symID target.maskingViewID = some view →
      (equalFold view.hostID target.hostID || equalFold view.hostGroupID target.hostID) = true ∧
        equalFold view.storageGroupID target.storageGroupID = true)
    (hh : w.arrays.views symID target.maskingViewID = none →
      ∃ host, w.hosts symID target.hostID = .ok host) :
    ∃ portGroupID, CanReturn answers w₁ (choosePortGroup symID target) w₁
      (.ok portGroupID) := by
  have ha : w₁.viewAnswer symID target.maskingViewID = w.viewAnswer symID target.maskingViewID := by
    rw [viewAnswer, viewAnswer, hsa.arrays]
  cases hf : w.arrays.views symID target.maskingViewID with
  | some view =>
    obtain ⟨hho, hs⟩ := hv view hf
    have hok : w₁.viewAnswer symID target.maskingViewID = .ok (some view) := by
      rw [ha, viewAnswer, hf]
    refine ⟨view.portGroupID, canReturn_ask (.ok (some view)) ⟨hok.symm, rfl⟩ ?_⟩
    dsimp only
    rw [if_neg (by simp [hho, hs])]
    exact canReturn_ret _
  | none =>
    obtain ⟨host, hh⟩ := hh hf
    have he : w₁.viewAnswer symID target.maskingViewID = .error viewNotFound := by
      rw [ha, viewAnswer, hf]
    refine ⟨"pg", canReturn_ask (.error viewNotFound) ⟨he.symm, rfl⟩ ?_⟩
    refine canReturn_ask (.ok host) ⟨(hsa.hosts ▸ hh).symm, rfl⟩ ?_
    exact canReturn_ask (.ok "pg") rfl (canReturn_ret _)

theorem canReturn_finishPublishContext (w : PublishWorld) (context : PublishContext)
    (symID mv lunid dirPort : String) (isLocal : Bool) :
    ∃ context', CanReturn answers w
      (finishPublishContext context symID mv isLocal lunid [dirPort]) w (.ok context') := by
  have hp : CanReturn answers w (portIdentifiersOf symID [dirPort] "") w
      "0x5000097398000000," := canReturn_ask (.ok "0x5000097398000000") rfl (canReturn_ret _)
  apply Exists.intro
  refine hp.bind ?_
  exact canReturn_ret _

theorem canReturn_connect (cfg : PublishConfig) (w : PublishWorld)
    (reqID symID devID wwn : String) (target : NodeTarget) :
    ∃ context, CanReturn answers w (connect cfg reqID symID devID wwn target) w
      (.ok context) := by
  let conn : MaskingViewConnection := ⟨devID, "0001", "FA-1D:4"⟩
  have he : enoughConnections symID target.maskingViewID devID reqID [conn, conn] =
      .ret (.ok [conn, conn]) := by simp [enoughConnections, conn]
  have hr : readConnectionsOf cfg devID [conn, conn] "" [] = .ok ("0001", ["FA-1D:4"]) := by
    simp [readConnectionsOf, conn, appendIfMissing]
  obtain ⟨context, hf⟩ := canReturn_finishPublishContext w [("DEVICE_WWN", wwn)] symID
    target.maskingViewID "0001" "FA-1D:4" true
  refine ⟨context, ?_⟩
  refine canReturn_ask (.ok 0) rfl ?_
  refine canReturn_ask (.ok [conn, conn]) rfl ?_
  refine canReturn_ask () rfl ?_
  unfold updatePublishContext
  simp only [he, bind_eq, ret_bind, hr]
  exact hf

theorem Publishable.canReturn {req : PublishRequest} {mode : AccessMode} {csiID : CsiID}
    (hp : Publishable cfg w volID req mode csiID target) (reqID : String) :
    ∃ w' context, CanReturn answers w (u4p104Publish cfg volID reqID req) w'
      (.ok context) := by
  obtain ⟨vol, hv, hm, hw⟩ := hp.volume
  obtain ⟨w₁, hr⟩ := hp.resolves
  have hs : SameArray w w₁ := resolveTarget_sameArray.canReturn hr
  obtain ⟨portGroupID, hcho⟩ := canReturn_choosePortGroup hs hp.view hp.host
  let w₂ := w₁.published csiID.arrayID (buildPublishMaskingViewsParam target.maskingViewID
    target.storageGroupID csiID.devID target.hostID portGroupID)
  obtain ⟨context, hc⟩ := canReturn_connect cfg w₂ reqID csiID.arrayID csiID.devID
    vol.effectiveWWN target
  have hch : CanReturn answers w (publishChecked cfg volID reqID req.nodeID) w₂ (.ok context) := by
    refine (canReturn_getVolumeOfID hp.handle hv hm).bind ?_
    refine hr.bind (hcho.bind ?_)
    dsimp only
    unfold publishTo
    rw [if_neg hw]
    exact canReturn_ask (.ok none) rfl hc
  refine ⟨w₂, context, ?_⟩
  unfold u4p104Publish
  rw [if_neg hp.node]
  split
  case h_1 hn | h_2 hn => cases hp.capability.symm.trans hn
  case h_3 hu =>
    cases hp.capability.symm.trans hu
    exact absurd rfl hp.known
  case h_4 => exact hch

end

/-! ## The publishers agree -/

section

variable {cfg : PublishConfig} {volID reqID : String} {req : PublishRequest}

end

/-! ## Runs of both publishers -/

/-- The storage group and the masking view of a node end alike. -/
def NodeTarget.Named (target : NodeTarget) : Prop :=
  ∃ tail, target.storageGroupID = csiNoSrpSGPrefix ++ tail ∧
    target.maskingViewID = csiMVPrefix ++ tail

theorem NodeTarget.Named.withSuffix (hn : target.Named)
    (suffix : String) : (target.withSuffix suffix).Named := by
  obtain ⟨tail, hsg, hmv⟩ := hn
  refine ⟨tail ++ suffix, ?_, ?_⟩
  · rw [NodeTarget.withSuffix, hsg, String.append_assoc]
  · rw [NodeTarget.withSuffix, hmv, String.append_assoc]

theorem nodeTarget_named (cfg : PublishConfig) (nodeID adoptedID : String) (protocol : Protocol) :
    (nodeTarget cfg nodeID adoptedID protocol).Named := by
  have hi : (getISCSIHostSGAndMVIDFromNodeID cfg nodeID).Named := ⟨_, rfl, rfl⟩
  have hh : ∀ isISCSI, (getHostSGAndMVIDFromNodeID cfg nodeID isISCSI).Named := by
    intro isISCSI
    unfold getHostSGAndMVIDFromNodeID
    split
    · exact ⟨_, rfl, rfl⟩
    split
    · exact hi
    · exact hi.withSuffix _
  have ha : ∀ target : NodeTarget, target.Named →
      (if adoptedID ≠ "" then { target with hostID := adoptedID } else target).Named := by
    intro target ht
    split
    · exact ht
    · exact ht
  cases protocol with
  | nvmeTCP => exact ha _ (hi.withSuffix _)
  | iSCSI => exact ha _ (hh true)
  | fc => exact ha _ (hh false)

theorem resolveTarget_named :
    Yields answers
      (fun _ r => ∀ target, r = .ok target → target.Named) w (resolveTarget cfg symID nodeID) := by
  refine ⟨trivial, ?_⟩
  rintro (err | adoptedID) w₁ -
  · exact nofun
  show SafeIn _ _ _ _ (ite ..)
  split
  · refine ⟨trivial, fun _ w₂ _ target ht => ?_⟩
    cases ht
    exact nodeTarget_named _ _ _ _
  refine ⟨trivial, ?_⟩
  rintro (_ | hostID) w₂ -
  · refine (safeIn_true (detectProtocol cfg symID nodeID)).bind ?_
    rintro w₃ (err | protocol) -
    · exact nofun
    · refine ⟨trivial, fun _ w₄ _ target ht => ?_⟩
      cases ht
      exact nodeTarget_named _ _ _ _
  · intro target ht
    cases ht
    exact nodeTarget_named _ _ _ _

theorem PublishWorld.Resolves.named (h : w.Resolves cfg symID nodeID target) : target.Named := by
  obtain ⟨w', hr⟩ := h
  exact resolveTarget_named.canReturn hr target rfl

namespace SgArrays

variable {a : SgArrays} {symID devID mv : String} {view : MaskingView}

theorem publish_groups_of_ne {sg : String} (hne : sg ≠ view.storageGroupID) :
    (a.publish symID mv devID view).groups symID sg = a.groups symID sg := by
  unfold publish
  split
  · simp [createView, addVolumes, createGroup, setView, setGroup, hne]
  · simp [addVolumes, createGroup, setGroup, hne]

theorem publish_maskingViews {group : Group}
    (hg : (a.publish symID mv devID view).groups symID view.storageGroupID = some group)
    {mv' : String} (hmv : mv' ∈ group.maskingViews) :
    mv' = mv ∨ ∃ old, a.groups symID view.storageGroupID = some old ∧ mv' ∈ old.maskingViews := by
  have hold : mv' ∈ ((a.groups symID view.storageGroupID).getD .new).maskingViews →
      ∃ old, a.groups symID view.storageGroupID = some old ∧ mv' ∈ old.maskingViews := by
    cases a.groups symID view.storageGroupID with
    | none => exact fun h => absurd h not_mem_nil
    | some old => exact fun h => ⟨old, rfl, h⟩
  unfold publish at hg
  split at hg
  · obtain rfl : _ = group := by
      simpa [createView, addVolumes, createGroup, setGroup] using hg
    rcases mem_append.mp hmv with hmv | hmv
    · exact .inr (hold hmv)
    · exact .inl (mem_singleton.mp hmv)
  · obtain rfl : _ = group := by
      simpa [addVolumes, createGroup, setGroup] using hg
    exact .inr (hold hmv)

variable {tail : String}
  (ht : a.Tidy symID) (hsg : view.storageGroupID = csiNoSrpSGPrefix ++ tail)
  (hmv : mv = csiMVPrefix ++ tail)

include ht hsg hmv

theorem Tidy.publish : (a.publish symID mv devID view).Tidy symID := by
  intro tail' group hg mv' hmv'
  by_cases heq : csiNoSrpSGPrefix ++ tail' = view.storageGroupID
  · obtain rfl : tail' = tail := String.append_right_inj _ |>.mp (heq.trans hsg)
    rw [heq] at hg
    rcases publish_maskingViews hg hmv' with rfl | ⟨old, hold, hmem⟩
    · exact hmv
    · exact ht tail' old (hsg ▸ hold) mv' hmem
  · rw [publish_groups_of_ne heq] at hg
    exact ht tail' group hg mv' hmv'

theorem Masks.of_publish {devID' mv' : String}
    (hm : (a.publish symID mv devID view).Masks symID devID' mv') :
    mv' = mv ∨ a.Masks symID devID' mv' := by
  obtain ⟨sg, group, hg, hd, hmem⟩ := hm
  by_cases heq : sg = view.storageGroupID
  · subst heq
    rw [hsg] at hg
    exact .inl ((ht.publish hsg hmv tail group hg mv' hmem).trans hmv.symm)
  · rw [publish_groups_of_ne heq] at hg
    exact .inr ⟨sg, group, hg, hd, hmem⟩

omit ht hsg hmv

/-- The volume is in one masking view at most, and the storage groups are tidy. -/
structure Guarded (a : SgArrays) (symID devID : String) : Prop where
  tidy : a.Tidy symID
  single : a.SingleMasked symID devID

theorem Guarded.publish {portGroupID : String} (h : a.Guarded symID devID)
    (hn : target.Named) (ho : ¬ ∃ mv, a.Masks symID devID mv ∧ mv ≠ target.maskingViewID) :
    (a.publish symID target.maskingViewID devID (viewFor target portGroupID)).Guarded symID devID := by
  obtain ⟨tail, hsg, hmv⟩ := hn
  have hh : ∀ mv, (a.publish symID target.maskingViewID devID
      (viewFor target portGroupID)).Masks symID devID mv → mv = target.maskingViewID := by
    intro mv hm
    rcases hm.of_publish h.tidy hsg hmv with heq | hm
    · exact heq
    · by_contra hne
      exact ho ⟨mv, hm, hne⟩
  refine ⟨h.tidy.publish hsg hmv, fun mv mv' hm hm' => ?_⟩
  exact (hh mv hm).trans (hh mv' hm').symm

end SgArrays

section

variable {cfg : PublishConfig} {symID devID : String} {A B : PublishSite}

end

end

/-! ## A volume of another node -/

namespace TwoNodes

def group : Group := ⟨"", {"011AB"}, ["csi-mv-ABC-node1-FC"]⟩

def volume : WwnVolume where
  volumeID := "011AB"
  volumeIdentifier := "csi-ABC-pmax-260602731A-ns1-nsx"
  storageGroupIDList := ["csi-no-srp-sg-ABC-node1-FC"]
  snapSource := false
  snapTarget := false
  numberOfFrontEndPaths := 1
  effectiveWWN := "60000970000120000548533030313141"

def arrays : SgArrays where
  groups symID sg :=
    if symID = "000120000548" ∧ sg = "csi-no-srp-sg-ABC-node1-FC" then some group else none
  views symID mv :=
    if symID = "000120000548" ∧ mv = "csi-mv-ABC-node1-FC" then
      some ⟨"csi-node-ABC-node1-FC", "", "csi-ABC-pg", "csi-no-srp-sg-ABC-node1-FC"⟩
    else none

theorem masks : arrays.Masks "000120000548" "011AB" "csi-mv-ABC-node1-FC" :=
  ⟨"csi-no-srp-sg-ABC-node1-FC", group, by simp [arrays], by simp [group], by simp [group]⟩

/-- The volume is in the masking view of the first node; the second node has a host. -/
def site : PublishSite where
  arrays := arrays
  volume symID devID :=
    if symID = "000120000548" ∧ devID = "011AB" then .ok volume
    else .error ⟨"Volume cannot be found", false⟩
  hosts _ hostID :=
    if hostID = "csi-node-ABC-node2-FC" then .ok ⟨hostID, "Fibre", 0⟩
    else .error ⟨"Host cannot be found", false⟩
  hostGroups _ _ := .error ⟨"Host Group cannot be found", false⟩
  adopted _ _ := .ok ""
  nodeCache _ := none
  listed := by
    intro symID devID vol hv sg
    split at hv
    case isFalse => cases hv
    case isTrue h =>
      obtain ⟨rfl, rfl⟩ := h
      cases hv
      by_cases hsg : sg = "csi-no-srp-sg-ABC-node1-FC"
      · simp [volume, SgArrays.volumes, arrays, group, hsg]
      · simp [volume, SgArrays.volumes, arrays, hsg]
  paths := by
    intro symID devID vol hv
    split at hv
    case isFalse => cases hv
    case isTrue h =>
      obtain ⟨rfl, rfl⟩ := h
      cases hv
      exact iff_of_true (by decide) ⟨_, masks⟩

def cfg : PublishConfig where
  clusterPrefix := "ABC"
  nodeNameTemplate := ""
  transportProtocol := "FC"
  useNVMeTCP := false
  isVsphereEnabled := false
  vSphereHostName := ""

def target : NodeTarget :=
  ⟨"csi-node-ABC-node2-FC", "csi-no-srp-sg-ABC-node2-FC", "csi-mv-ABC-node2-FC"⟩

def csiID : CsiID := ⟨"csi-ABC-pmax-260602731A-ns1-nsx", "000120000548", "011AB", "", ""⟩

def request : PublishRequest := ⟨"node2", some (some .singleNodeWriter)⟩

theorem canReturn_preferFC :
    CanReturn answers site.toPublishWorld (preferFC cfg "000120000548" "node2")
      site.toPublishWorld (.ok false) := by
  refine canReturn_ask (.error viewNotFound) ⟨by decide, rfl⟩ ?_
  refine canReturn_ask (.error viewNotFound) ⟨by decide, rfl⟩ ?_
  refine canReturn_ask (.ok ⟨"csi-node-ABC-node2-FC", "Fibre", 0⟩) ⟨by decide, rfl⟩ ?_
  exact canReturn_ret _

theorem resolves : site.Resolves cfg "000120000548" "node2" target := by
  have hd : CanReturn answers site.toPublishWorld
      (detectProtocol cfg "000120000548" "node2") site.toPublishWorld (.ok .fc) :=
    canReturn_preferFC.bind (canReturn_ret _)
  refine ⟨site.cacheNode "000120000548:node2" target.hostID, ?_⟩
  refine canReturn_ask (.ok "") ⟨rfl, rfl⟩ ?_
  refine canReturn_ask none ⟨rfl, rfl⟩ ?_
  refine hd.bind ?_
  exact canReturn_ask () rfl (canReturn_ret _)

end TwoNodes

end PowerMaxCsi.Service
