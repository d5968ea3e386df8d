import PowerMaxCsi.Service.CreateMetroVolume
import PowerMaxCsi.Service.DeleteVolumeCalls
import PowerMaxCsi.Service.VolumeHandles

/-!
# The length of volume identifiers

An array takes at most 64 characters.  In the identifier of a new volume (`volumeIdentifier`, and
`buildVolumeIdentifier` for Unisphere 10.4) the name is shortened and the namespace is not.  The
name in a handle is the one that the array gave back, which may have a tenant in front;
`DeleteVolume` tags it if the volume is a source of snapshots, and then cuts one character too few.
-/

namespace PowerMaxCsi.Service

open Prog Strings List String

def buildVolumeIdentifier (clusterPrefix volumeName ns : String) : String :=
  let maxLength := maxVolIdentifierLength - len clusterPrefix - len clusterPrefix -
    len csiVolumePrefix - 1
  let shortVolumeName := truncateString volumeName maxLength
  if ns = "" then csiVolumePrefix ++ clusterPrefix ++ "-" ++ shortVolumeName
  else csiVolumePrefix ++ clusterPrefix ++ "-" ++ shortVolumeName ++ "-" ++ ns

/-- The identifier that an array gives back: it may put a tenant in front. -/
def onArray (tenant identifier : String) : String :=
  if tenant = "" then identifier else tenant ++ "-" ++ identifier

/-- The identifiers that are sent for a request: those of `CreateVolumeInStorageGroupS`, which is
also called for Metro volumes, and of `CreateVolume`, and those of the renames of `DeleteVolume`. -/
inductive Sent (cfg : MetroConfig) (req : MetroRequest) (tenant : String) : String → Prop
  | legacy : Sent cfg req tenant (volumeIdentifier cfg req)
  | u4p104 : Sent cfg req tenant (buildVolumeIdentifier cfg.clusterPrefix req.name req.ns)
  | renamed {service : ServiceConfig} {handle sym dev newName : String} {csiID : CsiID}
      {h : History CtrlCall CtrlAnswer} (hid : parseCsiID handle = .ok csiID)
      (hn : csiID.volName = onArray tenant (volumeIdentifier cfg req))
      (hi : Issues (deleteVolumeRequest service handle) h (.pmax (.renameVolume sym dev newName))) :
      Sent cfg req tenant newName

section

theorem len_truncateString (s : String) (n : Nat) : len (truncateString s n) = min (len s) n := by
  unfold truncateString
  split
  · simp only [cut, len, String.toList_append, String.toList_ofList, List.length_append,
      length_take, length_drop] at *
    split <;> omega
  · omega

theorem len_deletionName_le (identifier : String) :
    len (deletionName identifier) ≤ maxVolIdentifierLength := by
  simp only [deletionName]
  split
  · rw [cut, len, toList_ofList]
    exact length_take_le _ _
  · omega

theorem len_sourceName (volName : String) :
    len (sourceName volName) = min (len volName) 62 + 3 := by
  have hk : maxVolIdentifierLength - len delSrcTag = 62 := rfl
  have ht : len ("-" ++ delSrcTag) = 3 := rfl
  simp only [sourceName, hk, String.append_assoc]
  rw [len_append, ht]
  split
  · rw [cut, len, toList_ofList, length_take, len, Nat.min_comm]
  · omega

variable (cfg : MetroConfig) (req : MetroRequest)

def namespaceLength : Nat := if req.ns = "" then 0 else 1 + len req.ns

/-- The length of what the name, the cluster prefix and the namespace leave in an identifier. -/
def variableLength : Nat :=
  len cfg.clusterPrefix + min (len req.name) (59 - 2 * len cfg.clusterPrefix) + namespaceLength req

def tenantLength (tenant : String) : Nat := if tenant = "" then 0 else 1 + len tenant

theorem len_onArray (tenant identifier : String) :
    len (onArray tenant identifier) = tenantLength tenant + len identifier := by
  unfold onArray tenantLength
  split
  · omega
  · rw [len_append, len_append, show len "-" = 1 from rfl]
    omega

variable {cfg req}

theorem buildVolumeIdentifier_eq :
    buildVolumeIdentifier cfg.clusterPrefix req.name req.ns = volumeIdentifier cfg req := by
  unfold buildVolumeIdentifier volumeIdentifier
  by_cases hns : req.ns = ""
  · simp [hns]
  · simp [hns, String.append_assoc]

theorem len_volumeIdentifier : len (volumeIdentifier cfg req) = 5 + variableLength cfg req := by
  have hm : maxVolIdentifierLength - len cfg.clusterPrefix - len cfg.clusterPrefix -
      len csiVolumePrefix - 1 = 59 - 2 * len cfg.clusterPrefix := by
    rw [maxVolIdentifierLength, show len csiVolumePrefix = 4 from rfl]
    omega
  have hns : len (if req.ns ≠ "" then "-" ++ req.ns else "") = namespaceLength req := by
    unfold namespaceLength
    by_cases he : req.ns = ""
    · rw [if_neg (not_not_intro he), if_pos he]
      rfl
    · rw [if_pos he, if_neg he, len_append]
      rfl
  simp only [volumeIdentifier, hm, len_append, len_truncateString]
  rw [variableLength, show len csiVolumePrefix = 4 from rfl, show len "-" = 1 from rfl]
  omega

/-- A volume that is a source of snapshots is renamed after the name in its handle. -/
theorem issues_sourceName (service : ServiceConfig) {handle : String} {csiID : CsiID}
    (hid : parseCsiID handle = .ok csiID) (hne : csiID.volName ≠ "") :
    ∃ h, Issues (deleteVolumeRequest service handle) h
      (.pmax (.renameVolume csiID.arrayID csiID.devID (sourceName csiID.volName))) := by
  have hm : volumeIdentifiersMatch csiID.volName csiID.volName = true := by
    simp [volumeIdentifiersMatch, hne]
  let vol : Volume := ⟨csiID.devID, csiID.volName, [], true, false, 0⟩
  refine ⟨[⟨.getPowerMaxClient csiID.arrayID csiID.remoteSymID, .ok ()⟩,
    ⟨.checkAndUpdatePendingState handle, .ok ()⟩, ⟨.requireProbe, .ok ()⟩,
    ⟨.pmax (.getVolumeByID csiID.arrayID csiID.devID), .ok vol⟩,
    ⟨.pmax (.getVolumeByID csiID.arrayID csiID.devID), .ok vol⟩], ?_⟩
  simp only [deleteVolumeRequest, hid]
  refine .there (.there (.there (.there (.there ?_))))
  simp only [vol, ret_bind, hm, if_true]
  exact .here

theorem sent_sourceName (cfg : MetroConfig) (req : MetroRequest) (tenant : String) :
    Sent cfg req tenant (sourceName (onArray tenant (volumeIdentifier cfg req))) := by
  have hl : 3 ≤ len (onArray tenant (volumeIdentifier cfg req)) := by
    rw [len_onArray, len_volumeIdentifier]
    omega
  have hne : onArray tenant (volumeIdentifier cfg req) ≠ "" := by
    intro he
    rw [he] at hl
    exact absurd hl (by decide)
  have hid : parseCsiID (onArray tenant (volumeIdentifier cfg req) ++ "-" ++ "000120000548" ++
      "-" ++ "011AB") = .ok _ := parseCsiID_block hl (by decide) (by decide)
  obtain ⟨h, hi⟩ := issues_sourceName ⟨[], false⟩ hid hne
  exact .renamed hid rfl hi

end

/-- **The identifiers fit** exactly if the cluster prefix, the shortened name, the namespace with
its dash and the tenant with its dash have at most 56 characters. -/
theorem identifiersFit_iff (cfg : MetroConfig) (req : MetroRequest) (tenant : String) :
    (∀ identifier, Sent cfg req tenant identifier → len identifier ≤ maxVolIdentifierLength) ↔
      variableLength cfg req + tenantLength tenant ≤ 56 := by
  constructor
  · intro hf
    have hr := hf _ (sent_sourceName cfg req tenant)
    rw [len_sourceName, len_onArray, len_volumeIdentifier, maxVolIdentifierLength] at hr
    omega
  · rintro hl identifier (_ | _ | ⟨hid, hn, hi⟩)
    · rw [len_volumeIdentifier, maxVolIdentifierLength]
      omega
    · rw [buildVolumeIdentifier_eq, len_volumeIdentifier, maxVolIdentifierLength]
      omega
    · have ho := len_onArray tenant (volumeIdentifier cfg req)
      rw [← hn, len_volumeIdentifier] at ho
      rcases (deleteVolumeRequest_renamesAfter hid).issues hi _ _ _ rfl with rfl | rfl | ⟨old, rfl⟩
      · rw [ho, maxVolIdentifierLength]
        omega
      · rw [len_sourceName, ho, maxVolIdentifierLength]
        omega
      · exact len_deletionName_le old

namespace LongNamespace

def cfg : MetroConfig := ⟨"ABC", true, false, false, "csi-powermax", "uid"⟩

def req : MetroRequest :=
  ⟨"pvc-6f0d2e1c-8f4b-4f2a-9c55-0b8c1d2e3f4a5", none, false, "SRP_1", "000120000548", "", "Diamond",
    "", "", "", "", "", "", "production-databases", "", "", "", ⟨"", "", ""⟩⟩

/-- The identifier of the new volume has 70 characters. -/
theorem created_too_long :
    len cfg.clusterPrefix ≤ maxClusterPrefixLength ∧ Sent cfg req "" (volumeIdentifier cfg req) ∧
      ¬ len (volumeIdentifier cfg req) ≤ maxVolIdentifierLength :=
  ⟨by decide, .legacy, by decide +kernel⟩

end LongNamespace

end PowerMaxCsi.Service
