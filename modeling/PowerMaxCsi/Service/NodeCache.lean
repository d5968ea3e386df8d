import PowerMaxCsi.Service.SingleNodePublish

/-!
# The node cache

Both publishers read the protocol back from the name of the host, by the suffixes it contains.
-/

namespace PowerMaxCsi.Service

open Strings Prog Function PublishWorld

/-- The host name of a node, without the suffix of a protocol. -/
def plainHostID (cfg : PublishConfig) (nodeID : String) : String :=
  if cfg.isVsphereEnabled then cfg.vSphereHostName
  else getHostIDFromTemplate cfg (sanitizedNodeID nodeID)

def Tells (cfg : PublishConfig) (nodeID : String) : Protocol → Prop
  | .nvmeTCP => True
  | .iSCSI => contains (plainHostID cfg nodeID) nvmeTCPSuffix = false ∧
      contains (plainHostID cfg nodeID) fcSuffix = false
  | .fc => contains (plainHostID cfg nodeID) nvmeTCPSuffix = false ∧
      (cfg.isVsphereEnabled = true → contains (plainHostID cfg nodeID) fcSuffix = true)

/-- A publish that reads the host name of a protocol derives the protocol and its names. -/
def ReadsBack (cfg : PublishConfig) (nodeID : String) (protocol : Protocol) : Prop :=
  ∀ symID (w : PublishWorld) h w', w.nodeCache (symID ++ ":" ++ nodeID) = none →
    Consistent PublishWorld.answers
      (w.cacheNode (symID ++ ":" ++ nodeID) (nodeTarget cfg nodeID "" protocol).hostID) h w' →
    w'.adopted symID nodeID = .ok "" →
    ∃ hostID, w'.nodeCache (symID ++ ":" ++ nodeID) = some hostID ∧
      cachedProtocol hostID = protocol ∧
      ∀ target, w'.Resolves cfg symID nodeID target ↔ target = nodeTarget cfg nodeID "" protocol

theorem contains_append_eq {s t : String} {p : List Char} {c : Char} (hc : c ∉ t.toList) :
    contains (s ++ t) (String.ofList (p ++ [c])) = contains s (String.ofList (p ++ [c])) := by
  rw [Bool.eq_iff_iff, contains_iff, contains_iff, String.toList_append, String.toList_ofList]
  constructor
  · rintro ⟨l, r, heq⟩
    obtain ⟨rest, hs, -⟩ | ⟨rest, hs, ht⟩ := List.append_eq_append_iff.mp heq
    · exact ⟨l, rest, hs.symm⟩
    · cases rest using List.reverseRecOn with
      | nil => exact ⟨l, [], hs.trans (List.append_nil _) ▸ List.append_nil _⟩
      | append_singleton rest d =>
        rw [← List.append_assoc, ← List.append_assoc] at hs
        obtain ⟨-, rfl⟩ := List.append_inj' hs rfl |>.imp_right List.singleton_inj.mp
        exact absurd (ht ▸ by simp) hc
  · exact fun h => h.trans (List.prefix_append _ _).isInfix

theorem cachedProtocol_iff {cfg : PublishConfig} {nodeID : String} {protocol : Protocol} :
    cachedProtocol (nodeTarget cfg nodeID "" protocol).hostID = protocol ↔
      Tells cfg nodeID protocol := by
  cases protocol with
  | nvmeTCP =>
    have hs := contains_append (getHostIDFromTemplate cfg (sanitizedNodeID nodeID)) nvmeTCPSuffix ""
    rw [String.append_empty] at hs
    exact iff_of_true (if_pos hs) trivial
  | iSCSI =>
    have hh : (nodeTarget cfg nodeID "" .iSCSI).hostID = plainHostID cfg nodeID := by
      cases hv : cfg.isVsphereEnabled <;>
        simp [nodeTarget, getHostSGAndMVIDFromNodeID, plainHostID, hv] <;> rfl
    rw [hh, cachedProtocol, Tells]
    cases contains (plainHostID cfg nodeID) nvmeTCPSuffix <;>
      cases contains (plainHostID cfg nodeID) fcSuffix <;> simp
  | fc =>
    cases hv : cfg.isVsphereEnabled with
    | false =>
      have hh : (nodeTarget cfg nodeID "" .fc).hostID = plainHostID cfg nodeID ++ fcSuffix := by
        simp [nodeTarget, getHostSGAndMVIDFromNodeID, plainHostID, hv]
        rfl
      have hfc := contains_append (plainHostID cfg nodeID) fcSuffix ""
      rw [String.append_empty] at hfc
      have hn : contains (plainHostID cfg nodeID ++ fcSuffix) nvmeTCPSuffix =
          contains (plainHostID cfg nodeID) nvmeTCPSuffix :=
        contains_append_eq (p := "-NVMETC".toList) (c := 'P') (by decide)
      rw [hh, cachedProtocol, hn, hfc, Tells, hv]
      cases contains (plainHostID cfg nodeID) nvmeTCPSuffix <;> simp
    | true =>
      have hh : (nodeTarget cfg nodeID "" .fc).hostID = plainHostID cfg nodeID := by
        simp [nodeTarget, getHostSGAndMVIDFromNodeID, plainHostID, hv]
        rfl
      rw [hh, cachedProtocol, Tells, hv]
      cases contains (plainHostID cfg nodeID) nvmeTCPSuffix <;>
        cases contains (plainHostID cfg nodeID) fcSuffix <;> simp

variable {w w' : PublishWorld} {cacheID hostID : String}

theorem nodeCache_of_answers {c : PubCall} {r : PubAnswer c} (ha : w.answers c r w')
    (hc : w.nodeCache cacheID = some hostID) : w'.nodeCache cacheID = some hostID := by
  cases c with
  | nodeCacheLoadOrStore cacheID' hostID' =>
    obtain rfl : w' = w.cacheNode cacheID' hostID' := ha
    unfold cacheNode
    split
    case isTrue hn =>
      have hne : cacheID ≠ cacheID' := by
        rintro rfl
        cases hn.symm.trans hc
      exact (update_of_ne hne _ _).trans hc
    case isFalse => exact hc
  | publishMaskingViews symID param =>
    cases r with
    | ok => exact (congrArg (nodeCache · cacheID) ha).trans hc
    | error => rcases ha with rfl | rfl <;> exact hc
  | getVolumeByID | getAdoptedHostIDFromNodeLabels | nodeCacheLoad | getMaskingViewByID | getHostByID
  | getHostGroupByID =>
    obtain ⟨-, rfl⟩ := ha
    exact hc
  | _ =>
    obtain rfl : w' = w := ha
    exact hc

theorem nodeCache_of_consistent {h : History PubCall PubAnswer}
    (hr : Consistent answers w h w') (hc : w.nodeCache cacheID = some hostID) :
    w'.nodeCache cacheID = some hostID := by
  induction hr with
  | nil => exact hc
  | cons ha _ ih => exact ih (nodeCache_of_answers ha hc)

theorem resolves_iff_of_cached {cfg : PublishConfig} {symID nodeID : String}
    (hc : w.nodeCache (symID ++ ":" ++ nodeID) = some hostID)
    (ha : w.adopted symID nodeID = .ok "") (target : NodeTarget) :
    w.Resolves cfg symID nodeID target ↔
      target = nodeTarget cfg nodeID "" (cachedProtocol hostID) := by
  constructor
  · rintro ⟨w₁, hr⟩
    have hs : Yields answers
        (fun _ r => r = .ok (nodeTarget cfg nodeID "" (cachedProtocol hostID))) w
        (resolveTarget cfg symID nodeID) := by
      refine ⟨trivial, ?_⟩
      rintro r w₂ ⟨rfl, rfl⟩
      rw [ha]
      refine ⟨trivial, ?_⟩
      rintro r w₃ ⟨rfl, rfl⟩
      rw [hc]
      rfl
    exact Except.ok.inj (hs.canReturn hr)
  · rintro rfl
    exact ⟨w, canReturn_ask (.ok "") ⟨ha.symm, rfl⟩
      (canReturn_ask (some hostID) ⟨hc.symm, rfl⟩ (canReturn_ret _))⟩

theorem cachedProtocol_of_readsBack {cfg : PublishConfig} {nodeID : String} {protocol : Protocol}
    (h : ReadsBack cfg nodeID protocol) :
    cachedProtocol (nodeTarget cfg nodeID "" protocol).hostID = protocol := by
  obtain ⟨hostID, hc, hp, -⟩ :=
    h "" TwoNodes.site.toPublishWorld [] _ rfl .nil rfl
  have hs : hostID = (nodeTarget cfg nodeID "" protocol).hostID :=
    Option.some.inj (hc.symm.trans (update_self _ _ _))
  rwa [hs] at hp

/-- Later publishes go where the first one went exactly when the host name tells the protocol. -/
theorem readsBack_iff (cfg : PublishConfig) (nodeID : String) (protocol : Protocol) :
    ReadsBack cfg nodeID protocol ↔ Tells cfg nodeID protocol := by
  rw [← cachedProtocol_iff]
  refine ⟨cachedProtocol_of_readsBack, ?_⟩
  intro hp symID w h w' hn hr ha
  have hs : (w.cacheNode (symID ++ ":" ++ nodeID)
      (nodeTarget cfg nodeID "" protocol).hostID).nodeCache (symID ++ ":" ++ nodeID) =
        some (nodeTarget cfg nodeID "" protocol).hostID := by
    rw [cacheNode, if_pos hn]
    exact update_self _ _ _
  have hc := nodeCache_of_consistent hr hs
  refine ⟨_, hc, hp, fun target => ?_⟩
  rw [resolves_iff_of_cached hc ha, hp]

/-- With the cluster prefix `FC1`, an iSCSI node is taken for one of Fibre Channel. -/
theorem prefix_taken_for_suffix :
    ¬ ReadsBack { TwoNodes.cfg with clusterPrefix := "FC1" } "node1" .iSCSI := by
  intro h
  have ht := cachedProtocol_of_readsBack h
  revert ht
  decide

end PowerMaxCsi.Service
