import PowerMaxCsi.Service.VolumeID

/-!
# Connectivity of volumes

`ValidateVolumeHostConnectivity` of `service/csi_extension_server.go`.  The arrays of all volumes
are put into one set, and the node is connected if it reaches one of them.  The log lines are left
out.
-/

namespace PowerMaxCsi.Service.Connectivity

open Strings

structure Request where
  volumeIds : List String
  (arrayId nodeId : String)

structure Response where
  messages : List String
  (connected iosInProgress : Bool)

/-- `queryArrayStatus` may return an error next to its answer, and `parseCsiID` a part of the IDs
(`partialID`); `order` is that of the set. -/
structure Env where
  managedArrays : List String
  podmonPort : String
  getNodeIPs : String → String
  queryArrayStatus : String → Bool × Option String
  isIOInProgress : String → String → Bool
  partialID : String → String × String
  order : List String → List String
  perm : ∀ symIDs, (order symIDs).Perm symIDs

variable (env : Env)

def Env.url (symID nodeID : String) : String :=
  "http://" ++ env.getNodeIPs nodeID ++ env.podmonPort ++ "/array-status" ++ "/" ++ symID

def checkIfNodeIsConnected (symID nodeID : String) : Except String (Bool × List String) :=
  if env.getNodeIPs nodeID = "" then .error "failed to parse node ID"
  else
    let (connected, err) := env.queryArrayStatus (env.url symID nodeID)
    let unknown := err.toList.map fun err =>
      "connectivity unknown for array " ++ symID ++ " to node " ++ nodeID ++ " due to " ++ err
    let message := "array " ++ symID ++
      (if connected then " is connected" else " is not connected") ++ " to node " ++ nodeID
    .ok (connected, unknown ++ [message])

/-- The set of the arrays; `none` for a panic. -/
def arraysOf (symIDs : List String) : List String → Option (List String)
  | [] => some symIDs
  | volID :: rest =>
    match parseCsiID volID with
    | .panics => none
    | .malformed _ => arraysOf (symIDs ∪ env.managedArrays) rest
    | .ok id =>
      if id.arrayID = "" then arraysOf (symIDs ∪ env.managedArrays) rest
      else if id.remoteSymID = "" then arraysOf (symIDs.insert id.arrayID) rest
      else arraysOf ((symIDs.insert id.arrayID).insert id.remoteSymID) rest

/-- The loop over the arrays, with the messages so far. -/
def checkArrays (nodeID : String) (messages : List String) (anyConnected : Bool) :
    List String → Except (List String × String) (List String × Bool)
  | [] => .ok (messages, anyConnected)
  | symID :: rest =>
    match checkIfNodeIsConnected env symID nodeID with
    | .error err => .error (messages, err)
    | .ok (connected, perArray) =>
      checkArrays nodeID (messages ++ perArray) (anyConnected || connected) rest

/-- The loop over the volumes: whether one has an IO in progress; `none` for a panic. -/
def iosInProgress (symIDs : List String) : List String → Option (Except String Bool)
  | [] => some (.ok false)
  | volID :: rest =>
    let found (symID devID remoteSymID remoteVolID : String) : Option (Except String Bool) :=
      if symID ∉ symIDs ∧ (remoteSymID = "" ∨ remoteSymID ∉ symIDs) then
        some (.error ("invalid symID " ++ symID ++ " is provided"))
      else if env.isIOInProgress devID symID ∨ remoteSymID ≠ "" ∧ remoteVolID ≠ "" ∧
        env.isIOInProgress remoteVolID remoteSymID then some (.ok true)
      else iosInProgress symIDs rest
    match parseCsiID volID with
    | .panics => none
    | .malformed _ => found (env.partialID volID).1 (env.partialID volID).2 "" ""
    | .ok id => found id.arrayID id.devID id.remoteSymID id.remoteVolID

/-- The response and the error; `none` for a panic. -/
def validateVolumeHostConnectivity (req : Request) : Option (Option Response × Option String) :=
  if (req.volumeIds = [] ∨ req.arrayId = "") ∧ req.nodeId = "" then
    some (some ⟨["ValidateVolumeHostConnectivity is implemented"], false, false⟩, none)
  else if req.nodeId = "" then some (none, some "the NodeID is a required field")
  else if req.arrayId = "" ∧ req.volumeIds = [] then
    some (some ⟨["connectivity unknown for array"], false, false⟩, none)
  else do
    let symIDs ← if req.arrayId = "" then arraysOf env [] req.volumeIds else some [req.arrayId]
    match checkArrays env req.nodeId [] false (env.order symIDs) with
    | .error (messages, err) => some (some ⟨messages, false, false⟩, some err)
    | .ok (messages, anyConnected) =>
      match ← iosInProgress env symIDs req.volumeIds with
      | .error err => some (none, some err)
      | .ok io => some (some ⟨messages, anyConnected, io⟩, none)

def Env.Reaches (nodeID symID : String) : Prop :=
  (env.queryArrayStatus (env.url symID nodeID)).1 = true

def Env.ReachesVolume (nodeID volID : String) : Prop :=
  ∃ id, parseCsiID volID = .ok id ∧ (env.Reaches nodeID id.arrayID ∨
    id.remoteSymID ≠ "" ∧ env.Reaches nodeID id.remoteSymID)

def Parseable (volID : String) : Prop := ∃ id, parseCsiID volID = .ok id ∧ id.arrayID ≠ ""

variable {env} {nodeID : String}

theorem checkArrays_ok {symIDs messages messages' : List String} {any any' : Bool}
    (h : checkArrays env nodeID messages any symIDs = .ok (messages', any')) :
    any' = true ↔ any = true ∨ ∃ symID ∈ symIDs, env.Reaches nodeID symID := by
  induction symIDs generalizing messages any with
  | nil =>
    cases h
    simp
  | cons symID rest ih =>
    rw [checkArrays] at h
    split at h
    case h_1 => cases h
    case h_2 connected perArray hc =>
      obtain rfl : (env.queryArrayStatus (env.url symID nodeID)).1 = connected := by
        unfold checkIfNodeIsConnected at hc
        split at hc <;> cases hc
        rfl
      rw [ih h]
      simp [Env.Reaches, or_assoc]

theorem mem_arraysOf {volIDs symIDs symIDs' : List String} (hp : ∀ volID ∈ volIDs, Parseable volID)
    (h : arraysOf env symIDs volIDs = some symIDs') :
    (∃ symID ∈ symIDs', env.Reaches nodeID symID) ↔
      (∃ symID ∈ symIDs, env.Reaches nodeID symID) ∨
        ∃ volID ∈ volIDs, env.ReachesVolume nodeID volID := by
  induction volIDs generalizing symIDs with
  | nil =>
    cases h
    simp
  | cons volID rest ih =>
    obtain ⟨⟨id, hid, hne⟩, hp⟩ := List.forall_mem_cons.mp hp
    have hv : env.ReachesVolume nodeID volID ↔ env.Reaches nodeID id.arrayID ∨
        id.remoteSymID ≠ "" ∧ env.Reaches nodeID id.remoteSymID := by
      simp [Env.ReachesVolume, hid]
    simp only [arraysOf, hid, hne, if_false] at h
    split at h
    case isTrue hr | isFalse hr =>
      rw [ih hp h, List.exists_mem_cons_iff, hv]
      simp [hr, or_assoc, or_comm, or_left_comm]

/-- **Connectivity.**  The answer is right exactly if the node reaches all volumes or none. -/
theorem connected_iff_all (env : Env) (req : Request) (rep : Response) (hn : req.nodeId ≠ "")
    (ha : req.arrayId = "") (hv : req.volumeIds ≠ [])
    (hp : ∀ volID ∈ req.volumeIds, Parseable volID)
    (h : validateVolumeHostConnectivity env req = some (some rep, none)) :
    (rep.connected = true ↔ ∀ volID ∈ req.volumeIds, env.ReachesVolume req.nodeId volID) ↔
      ((∃ volID ∈ req.volumeIds, env.ReachesVolume req.nodeId volID) →
        ∀ volID ∈ req.volumeIds, env.ReachesVolume req.nodeId volID) := by
  have hc : rep.connected = true ↔ ∃ volID ∈ req.volumeIds, env.ReachesVolume req.nodeId volID := by
    rw [validateVolumeHostConnectivity, if_neg (by simp [hn]), if_neg hn, if_neg (by simp [hv]),
      if_pos ha] at h
    obtain ⟨symIDs, hs, h⟩ := Option.bind_eq_some_iff.mp h
    dsimp only at h
    split at h
    case h_1 => cases h
    case h_2 messages anyConnected hc =>
      obtain ⟨io, -, h⟩ := Option.bind_eq_some_iff.mp h
      split at h
      case h_1 => cases h
      case h_2 =>
        cases h
        dsimp only
        rw [checkArrays_ok hc]
        simpa [(env.perm symIDs).mem_iff] using mem_arraysOf hp hs
  rw [hc]
  obtain ⟨volID, hmem⟩ := List.exists_mem_of_ne_nil _ hv
  exact ⟨Iff.mp, fun hall => ⟨hall, fun h => ⟨volID, hmem, h volID hmem⟩⟩⟩

def oneArray : Env where
  managedArrays := []
  podmonPort := ":8083"
  getNodeIPs _ := "10.0.0.9"
  queryArrayStatus url := (hasSuffix url "/000120000548", none)
  isIOInProgress _ _ := false
  partialID _ := ("", "")
  order symIDs := symIDs
  perm symIDs := .refl symIDs

theorem parseCsiID_volumes :
    parseCsiID "csi-000120000548-011AB" = .ok ⟨"csi", "000120000548", "011AB", "", ""⟩ ∧
      parseCsiID "csi-000120000549-011AB" = .ok ⟨"csi", "000120000549", "011AB", "", ""⟩ := by
  decide

def metroRequest : Request :=
  ⟨["csi-000120000548-011AB", "csi-000120000549:000120000548-022CD:033EF"], "", "node1"⟩

theorem parseCsiID_metro : parseCsiID "csi-000120000549:000120000548-022CD:033EF" =
    .ok ⟨"csi", "000120000549", "022CD", "000120000548", "033EF"⟩ := by
  decide

/-- The second volume is a Metro volume, which is reached on its remote array only. -/
theorem connected_iff_all_metro : ∃ rep,
    validateVolumeHostConnectivity oneArray metroRequest = some (some rep, none) ∧
      rep.connected = true ∧
      ∀ volID ∈ metroRequest.volumeIds, oneArray.ReachesVolume "node1" volID := by
  have hr : oneArray.Reaches "node1" "000120000548" := by
    unfold Env.Reaches
    decide
  have hv : ∀ volID ∈ metroRequest.volumeIds, oneArray.ReachesVolume "node1" volID := by
    simp [metroRequest, Env.ReachesVolume, parseCsiID_volumes, parseCsiID_metro, hr]
  refine ⟨_, rfl, by decide, (connected_iff_all oneArray metroRequest _ (by decide) rfl (by decide)
    ?_ rfl).mpr (fun _ => hv) |>.mp (by decide)⟩
  simp [metroRequest, Parseable, parseCsiID_volumes, parseCsiID_metro]

/-- The second volume is on an array that the node does not reach. -/
theorem connected_two_arrays : ¬ ∀ env req rep, req.nodeId ≠ "" → req.arrayId = "" →
    (∀ volID ∈ req.volumeIds, Parseable volID) →
    validateVolumeHostConnectivity env req = some (some rep, none) → rep.connected = true →
    ∀ volID ∈ req.volumeIds, env.ReachesVolume req.nodeId volID := by
  intro h
  obtain ⟨id, hid, hr⟩ := h oneArray
    ⟨["csi-000120000548-011AB", "csi-000120000549-011AB"], "", "node1"⟩ _ (by decide) rfl
    (by simp [Parseable, parseCsiID_volumes]) rfl (by decide) "csi-000120000549-011AB" (by simp)
  rw [parseCsiID_volumes.2] at hid
  cases hid
  revert hr
  unfold Env.Reaches
  decide

end PowerMaxCsi.Service.Connectivity
