import PowerMaxCsi.Service.MetroHandle

/-!
# The handles of all kinds of volumes

`parseCsiID` reads a handle from its end and tells by lengths which kind it is.
-/

namespace PowerMaxCsi.Service

open Strings

/-- The handle of a block volume, and with the ID of a file system that of a file system. -/
def volumeHandle (volName symID devID : String) : String := volName ++ "-" ++ symID ++ "-" ++ devID

def createCSIVolumeID (clusterPrefix volumeName symID devID : String) : String :=
  csiVolumePrefix ++ clusterPrefix ++ "-" ++ volumeName ++ "-" ++ symID ++ "-" ++ devID

def IsArrayID (id : String) : Prop := len id = 12 ∧ PlainID id

def IsDeviceID (id : String) : Prop := len id = 5 ∧ PlainID id

instance (id : String) : Decidable (IsArrayID id) := inferInstanceAs (Decidable (_ ∧ _))

instance (id : String) : Decidable (IsDeviceID id) := inferInstanceAs (Decidable (_ ∧ _))

/-- Five parts, of which the last is long and the one before it is not. -/
structure FileSystemID where
  (part₁ part₂ part₃ part₄ part₅ : String)
  dashFree : '-' ∉ part₁.toList ∧ '-' ∉ part₂.toList ∧ '-' ∉ part₃.toList ∧ '-' ∉ part₄.toList ∧
    '-' ∉ part₅.toList
  fourth : len part₄ < 12
  last : 5 < len part₅

def FileSystemID.text (id : FileSystemID) : String :=
  join [id.part₁, id.part₂, id.part₃, id.part₄, id.part₅] "-"

section

variable {volName symID remoteSymID devID remoteDevID : String}

theorem contains_colon_eq_false {id : String} (h : PlainID id) : contains id ":" = false := by
  rw [Bool.eq_false_iff, ne_eq, contains_iff]
  exact fun hp => h.2 (hp.subset (List.mem_singleton_self ':'))

theorem splitRemote_of_plain (hs : PlainID symID) :
    splitRemote volName symID devID = .ok ⟨volName, symID, devID, "", ""⟩ := by
  rw [splitRemote, contains_colon_eq_false hs, if_neg Bool.false_ne_true]

theorem parseCsiID_block (hn : 3 ≤ len volName) (hsy : IsArrayID symID) (hd : IsDeviceID devID) :
    parseCsiID (volumeHandle volName symID devID) = .ok ⟨volName, symID, devID, "", ""⟩ := by
  have hs : ¬ (len devID > 5 ∧ len symID < 12) := by
    rintro ⟨hl, -⟩
    exact absurd hd.1 hl.ne'
  rw [volumeHandle, parseCsiID_of_last_two hn hsy.2.1 hd.2.1 hs]
  exact splitRemote_of_plain hsy.2

theorem parseCsiID_fileSystem (hn : 3 ≤ len volName) (hs : IsArrayID symID)
    (fsID : FileSystemID) : parseCsiID (volumeHandle volName symID fsID.text) =
      .ok ⟨volName, symID, fsID.text, "", ""⟩ := by
  rw [volumeHandle, FileSystemID.text, parseCsiID_of_last_six hn hs.2.1 fsID.dashFree fsID.last
    fsID.fourth]
  exact splitRemote_of_plain hs.2

theorem parseCsiID_metro (hn : 3 ≤ len volName) (hsy : IsArrayID symID)
    (hr : IsArrayID remoteSymID) (hd : PlainID devID) (hre : PlainID remoteDevID) :
    parseCsiID (metroHandle volName symID remoteSymID devID remoteDevID) =
      .ok ⟨volName, symID, devID, remoteSymID, remoteDevID⟩ := by
  have hs : 11 ≤ len symID + len remoteSymID := by
    rw [hsy.1, hr.1]
    decide
  exact MetroLegs.parseCsiID_handle ⟨volName, symID, remoteSymID, devID, remoteDevID, hn,
    hs, hsy.2, hr.2, hd, hre⟩

end

/-- **Round trip.**  Handles of all kinds are taken apart into what they were made from. -/
theorem parseCsiID_handles {volName symID remoteSymID devID remoteDevID : String}
    (fsID : FileSystemID) (hn : 3 ≤ len volName) (hs : IsArrayID symID)
    (hr : IsArrayID remoteSymID) (hd : IsDeviceID devID) (hre : IsDeviceID remoteDevID) :
    parseCsiID (volumeHandle volName symID devID) = .ok ⟨volName, symID, devID, "", ""⟩ ∧
      (∀ clusterPrefix, parseCsiID (createCSIVolumeID clusterPrefix volName symID devID) =
        .ok ⟨csiVolumePrefix ++ clusterPrefix ++ "-" ++ volName, symID, devID, "", ""⟩) ∧
      parseCsiID (metroHandle volName symID remoteSymID devID remoteDevID) =
        .ok ⟨volName, symID, devID, remoteSymID, remoteDevID⟩ ∧
      parseCsiID (metroHandle volName symID remoteSymID devID "") =
        .ok ⟨volName, symID, devID, remoteSymID, ""⟩ ∧
      parseCsiID (volumeHandle volName symID fsID.text) =
        .ok ⟨volName, symID, fsID.text, "", ""⟩ := by
  have hno : PlainID "" := by decide
  refine ⟨parseCsiID_block hn hs hd, fun clusterPrefix => ?_,
    parseCsiID_metro hn hs hr hd.2 hre.2,
    parseCsiID_metro hn hs hr hd.2 hno, parseCsiID_fileSystem hn hs fsID⟩
  refine parseCsiID_block ?_ hs hd
  simp only [len_append]
  omega

theorem parseCsiID_handles_pmax :
    (3 ≤ len "csi-ABC-pmax-260602731A-ns1-nsx" ∧ IsArrayID "000120000548" ∧
      IsArrayID "000120000549" ∧ IsDeviceID "011AB" ∧ IsDeviceID "00B17") ∧
    parseCsiID (metroHandle "csi-ABC-pmax-260602731A-ns1-nsx" "000120000548" "000120000549" "011AB"
      "00B17") =
        .ok ⟨"csi-ABC-pmax-260602731A-ns1-nsx", "000120000548", "011AB", "000120000549", "00B17"⟩ :=
  ⟨by decide, (parseCsiID_handles
    ⟨"649112ce", "742b", "b93a", "abcd", "026048200208", by decide, by decide, by decide⟩ (by decide)
    (by decide) (by decide) (by decide) (by decide)).2.2.1⟩

def normalizeProtocol (protocol : String) : String :=
  match toUpper (trimSpace protocol) with
  | "FC" => "FC"
  | "ISCSI" => "ISCSI"
  | "NVMETCP" | "NVME_TCP" | "NVME-TCP" => "NVMETCP"
  | "NVMEFC" | "NVME_FC" | "NVME-FC" => "NVMEFC"
  | _ => "unknown"

/-- `parsePowerMaxVolumeID` of `service/interceptors.go`: the array and the protocol. -/
def parsePowerMaxVolumeID (volumeID : String) : String × String :=
  if volumeID = "" then ("unknown", "unknown")
  else
    match split volumeID '/' with
    | [id, arrayID] =>
      let idParts := split id '-'
      if idParts.length ≥ 4 ∧ hasPrefix id "csivol-" then
        (arrayID, normalizeProtocol (idParts.getLastD ""))
      else (arrayID, "unknown")
    | _ =>
      let parts := split volumeID '-'
      if parts.length ≥ 4 ∧ hasPrefix volumeID "csivol-" then
        (parts.getD 2 "", normalizeProtocol (parts.getLastD ""))
      else ("unknown", "unknown")

/-- The names that the driver gives its volumes, or finds on the array with the prefix of a tenant
before them. -/
def HandleName (volName : String) : Prop :=
  ∃ name, volName = csiVolumePrefix ++ name ∨ ∃ tenant, len tenant ≤ maxClusterPrefixLength ∧
    volName = tenant ++ "-" ++ csiVolumePrefix ++ name

/-- A dash comes within the first four characters. -/
theorem HandleName.dash {volName : String} (h : HandleName volName) :
    ∃ first rest, len first ≤ 3 ∧ volName = first ++ "-" ++ rest := by
  obtain ⟨name, rfl | ⟨tenant, hl, rfl⟩⟩ := h
  · exact ⟨"csi", name, by decide, rfl⟩
  · exact ⟨tenant, csiVolumePrefix ++ name, hl, String.append_assoc⟩

theorem HandleName.three_le_len {volName : String} (h : HandleName volName) : 3 ≤ len volName := by
  have hc : len csiVolumePrefix = 4 := rfl
  obtain ⟨name, rfl | ⟨tenant, -, rfl⟩⟩ := h <;> simp only [len_append, hc] <;> omega

theorem hasPrefix_csivol {first rest : String} (hl : len first ≤ 3) :
    hasPrefix (first ++ "-" ++ rest) "csivol-" = false := by
  rw [Bool.eq_false_iff]
  intro hp
  obtain ⟨tail, ht⟩ := List.isPrefixOf_iff_prefix.mp hp
  -- the character after `first` is a dash, and one of the first four of `csivol-`
  have hd : ("csivol-".toList ++ tail)[len first]? = some '-' := by
    rw [ht]
    simp [len]
  interval_cases len first <;> simp at hd

/-- What follows a slash in a handle is no ID of an array, as the handle ends with another ID. -/
theorem ne_of_split_slash {init last symID id : String} (hs : '-' ∉ symID.toList)
    (hsl : len last ≤ len symID ∨ '/' ∉ last.toList) :
    split (init ++ "-" ++ last) '/' ≠ [id, symID] := by
  intro h
  have hj := join_split (init ++ "-" ++ last) '/'
  rw [h] at hj
  have hj : id.toList ++ '/' :: symID.toList = init.toList ++ '-' :: last.toList := by
    simpa [join, String.toList_intercalate] using congrArg String.toList hj
  rcases List.append_eq_append_iff.mp hj with ⟨mid, -, hm⟩ | ⟨mid, -, hm⟩
  · have hd : '-' ∈ '/' :: symID.toList := hm ▸ by simp
    simp [hs] at hd
  · cases mid with
    | nil => simp at hm
    | cons c mid =>
      obtain ⟨-, hm⟩ := List.cons.inj hm
      rcases hsl with hsl | hsl
      · rw [len, hm, len] at hsl
        simp at hsl
        omega
      · exact hsl (hm ▸ by simp)

theorem parsePowerMaxVolumeID_ne {init last symID : String} (hn : HandleName (init ++ "-" ++ last))
    (hu : symID ≠ "unknown") (hs : '-' ∉ symID.toList)
    (hsl : len last ≤ len symID ∨ '/' ∉ last.toList) :
    (parsePowerMaxVolumeID (init ++ "-" ++ last)).1 ≠ symID := by
  unfold parsePowerMaxVolumeID
  split
  case isTrue => exact hu.symm
  case isFalse =>
    split
    case h_1 id arrayID hp =>
      have ha : arrayID ≠ symID := by
        rintro rfl
        exact ne_of_split_slash hs hsl hp
      dsimp only
      split <;> exact ha
    case h_2 =>
      obtain ⟨first, rest, hf, hd⟩ := hn.dash
      dsimp only
      rw [hd, hasPrefix_csivol hf, if_neg (by simp)]
      exact hu.symm

theorem HandleName.append {volName : String} (h : HandleName volName) (s : String) :
    HandleName (volName ++ s) := by
  obtain ⟨name, rfl | ⟨tenant, hl, rfl⟩⟩ := h
  · exact ⟨name ++ s, .inl String.append_assoc⟩
  · refine ⟨name ++ s, .inr ⟨tenant, hl, ?_⟩⟩
    simp only [String.append_assoc]

/-- **Metrics.**  For no handle that the driver builds is the array of the metrics the one of
`parseCsiID`. -/
theorem metricsArray_ne {volName symID remoteSymID devID remoteDevID : String}
    (fsID : FileSystemID) (hdr : HandleName volName) (hs : IsArrayID symID)
    (hr : IsArrayID remoteSymID) (hd : IsDeviceID devID) (hre : IsDeviceID remoteDevID)
    (hfs : '/' ∉ fsID.part₅.toList) :
    ∀ handle ∈ [volumeHandle volName symID devID,
        metroHandle volName symID remoteSymID devID remoteDevID,
        metroHandle volName symID remoteSymID devID "", volumeHandle volName symID fsID.text],
      ¬ ∃ id, parseCsiID handle = .ok id ∧ (parsePowerMaxVolumeID handle).1 = id.arrayID := by
  have hu : symID ≠ "unknown" := by
    rintro rfl
    exact absurd hs (by decide)
  have hn := hdr.three_le_len
  have hp : ∀ handle id, parseCsiID handle = .ok id → id.arrayID = symID →
      ∀ init last, handle = volName ++ init ++ "-" ++ last →
        len last ≤ len symID ∨ '/' ∉ last.toList →
      ¬ ∃ id, parseCsiID handle = .ok id ∧ (parsePowerMaxVolumeID handle).1 = id.arrayID := by
    rintro _ id hid rfl init last rfl hsl ⟨id', hid', ha⟩
    rw [hid] at hid'
    cases hid'
    refine parsePowerMaxVolumeID_ne ?_ hu hs.2.1 hsl ha
    rw [String.append_assoc, String.append_assoc]
    exact hdr.append _
  have hno : PlainID "" := by decide
  have hlen (dev : String) (h : len dev ≤ 5) : len (devID ++ ":" ++ dev) ≤ len symID := by
    rw [len_append, len_append, hd.1, hs.1, show len ":" = 1 from rfl]
    omega
  simp only [List.forall_mem_cons]
  refine ⟨hp _ _ (parseCsiID_block hn hs hd) rfl ("-" ++ symID) devID ?_ (.inl ?_),
    hp _ _ (parseCsiID_metro hn hs hr hd.2 hre.2) rfl ("-" ++ symID ++ ":" ++ remoteSymID)
      (devID ++ ":" ++ remoteDevID) ?_ (.inl (hlen _ hre.1.le)),
    hp _ _ (parseCsiID_metro hn hs hr hd.2 hno) rfl ("-" ++ symID ++ ":" ++ remoteSymID)
      (devID ++ ":" ++ "") ?_ (.inl (hlen _ (by decide))),
    hp _ _ (parseCsiID_fileSystem hn hs fsID) rfl ("-" ++ symID ++ "-" ++
      join [fsID.part₁, fsID.part₂, fsID.part₃, fsID.part₄] "-") fsID.part₅ ?_ (.inr hfs), by simp⟩
  · simp only [volumeHandle, String.append_assoc]
  · rw [hd.1, hs.1]
    decide
  · simp only [metroHandle, String.append_assoc]
  · simp only [metroHandle, String.append_assoc]
  · apply String.ext
    simp [volumeHandle, FileSystemID.text, join]

theorem metricsArray_ne_pmax : ¬ ∃ id, parseCsiID (metroHandle "T1-csi-ABC-pmax-260602731A-ns1"
      "000120000548" "000120000549" "011AB" "00B17") = .ok id ∧
    (parsePowerMaxVolumeID (metroHandle "T1-csi-ABC-pmax-260602731A-ns1" "000120000548"
      "000120000549" "011AB" "00B17")).1 = id.arrayID :=
  @metricsArray_ne _ "000120000548" "000120000549" "011AB" "00B17"
    ⟨"649112ce", "742b", "b93a", "abcd", "026048200208", by decide, by decide, by decide⟩
    ⟨"ABC-pmax-260602731A-ns1", .inr ⟨"T1", by decide, rfl⟩⟩ (by decide) (by decide) (by decide)
    (by decide) (by decide) _ (List.mem_cons_of_mem _ List.mem_cons_self)

/-- The handle of a block volume in the comments of the source. -/
theorem metricsArray_unknown : ¬ ∀ volName symID devID, HandleName volName → IsArrayID symID →
    IsDeviceID devID → (parsePowerMaxVolumeID (volumeHandle volName symID devID)).1 = symID :=
  fun h => absurd (h "csi-ABC-pmax-260602731A-ns1-nsx" "000120000548" "011AB"
    ⟨"ABC-pmax-260602731A-ns1-nsx", .inl rfl⟩ (by decide) (by decide)) (by decide)

end PowerMaxCsi.Service
