import PowerMaxCsi.Addons.Helpers
import PowerMaxCsi.Service.CreateMetroVolume

/-!
# Names of volume groups

`buildCSIAddonsSGName` marks the name with `addons` where `buildProtectionGroupID` has a namespace.
As all parts may have dashes, a name tells the RDF group and the mode, but not its owner.
-/

namespace PowerMaxCsi.Addons

open Service Strings

def maxStorageGroupNameLength : Int := 64

/-- `truncateString` for any `int`; `none` if it slices out of range. -/
def truncateStringTo (str : String) : Int → Option String
  | .ofNat maxLength => some (truncateString str maxLength)
  | .negSucc 0 =>
    if str = "" then none else some (String.ofList (str.toList.drop (len str - 1)))
  | .negSucc (_ + 1) => none

def variablePart (vgPrefix ns : String) : String :=
  let cleanPrefix := trimSpace vgPrefix
  let cleanPrefix := if cleanPrefix = "" then defaultVolumeGroupPrefix else cleanPrefix
  let cleanNS := trimSpace ns
  let cleanNS := if cleanNS = "" then "default" else cleanNS
  cleanPrefix ++ "-" ++ cleanNS

def maxVariableLen (rdfGrpNo mode : String) : Int :=
  maxStorageGroupNameLength - (len csiAddonsManagedSGPrefix + len rdfGrpNo + len mode + 3 : Nat)

def keptPart (vgPrefix ns rdfGrpNo mode : String) : Option String :=
  if len (variablePart vgPrefix ns) > maxVariableLen rdfGrpNo mode then
    truncateStringTo (variablePart vgPrefix ns) (maxVariableLen rdfGrpNo mode)
  else some (variablePart vgPrefix ns)

/-- `buildCSIAddonsSGName`; `none` for a panic. -/
def buildCSIAddonsSGName (vgPrefix ns rdfGrpNo mode : String) : Option String :=
  (keptPart vgPrefix ns rdfGrpNo mode).map fun part =>
    csiAddonsManagedSGPrefix ++ part ++ "-" ++ rdfGrpNo ++ "-" ++ mode

def Numeric (rdfGrpNo : String) : Prop := ∀ c ∈ rdfGrpNo.toList, c.isDigit = true

def Fits (vgPrefix ns rdfGrpNo mode : String) : Prop :=
  len (variablePart vgPrefix ns) ≤ maxVariableLen rdfGrpNo mode

/-- The namespace starts like the name of a volume group. -/
def Mimics (vgPrefix ns rdfGrpNo mode ns' : String) : Prop :=
  ∃ part ∈ keptPart vgPrefix ns rdfGrpNo mode, ns' = "addons-" ++ part

theorem dash_last_inj {a b s t : String} (hs : '-' ∉ s.toList) (ht : '-' ∉ t.toList) :
    a ++ "-" ++ s = b ++ "-" ++ t ↔ a = b ∧ s = t := by
  constructor
  · intro h
    have hsp : split a '-' ++ [s] = split b '-' ++ [t] := by
      rw [← split_dash_last a hs, ← split_dash_last b ht, h]
    obtain ⟨-, hst⟩ := List.append_inj' hsp rfl
    obtain rfl : s = t := by simpa using hst
    exact ⟨by simpa using h, rfl⟩
  · rintro ⟨rfl, rfl⟩
    rfl

variable {vgPrefix ns n mode vgPrefix' ns' n' mode' : String}

theorem Numeric.dash_notMem (hn : Numeric n) : '-' ∉ n.toList :=
  fun h => absurd (hn _ h) (by decide)

variable (hn : Numeric n) (hn' : Numeric n') (hm : '-' ∉ mode.toList) (hm' : '-' ∉ mode'.toList)

include hn hn' hm hm'

theorem numbered_inj {a b : String} :
    a ++ "-" ++ n ++ "-" ++ mode = b ++ "-" ++ n' ++ "-" ++ mode' ↔ a = b ∧ n = n' ∧ mode = mode' := by
  rw [dash_last_inj hm hm', dash_last_inj hn.dash_notMem hn'.dash_notMem, and_assoc]

theorem addonsName_eq_protectionGroup_iff {part : String} :
    csiAddonsManagedSGPrefix ++ part ++ "-" ++ n ++ "-" ++ mode = buildProtectionGroupID ns' n' mode' ↔
      mode' ≠ metro ∧ (n = n' ∧ mode = mode') ∧ ns' = "addons-" ++ part := by
  unfold buildProtectionGroupID csiAddonsManagedSGPrefix
  split
  case isTrue hme =>
    refine iff_of_false (fun h => ?_) fun h => h.1 hme
    -- the number of the RDF group would have a dash
    have hf := ((dash_last_inj hm hm').mp h).1
    simp only [String.append_assoc, String.append_right_inj] at hf
    exact hn'.dash_notMem (by simp [← hf])
  case isFalse hme =>
    rw [numbered_inj hn hn' hm hm', String.append_assoc, String.append_right_inj]
    tauto

omit hn hn' hm hm'

/-- **Owners of names.**  The name of a volume group is that of a protected storage group exactly if
the namespace of the latter starts like it, and of another volume group if prefixes and namespaces
join to the same text. -/
theorem addonsName_ne_iff (vgPrefix ns n mode vgPrefix' ns' n' mode' : String) (hn : Numeric n)
    (hn' : Numeric n') (hm : '-' ∉ mode.toList) (hm' : '-' ∉ mode'.toList) :
    (buildCSIAddonsSGName vgPrefix ns n mode ≠ some (buildProtectionGroupID ns' n' mode') ↔
      ¬ (mode' ≠ metro ∧ (n = n' ∧ mode = mode') ∧ Mimics vgPrefix ns n mode ns')) ∧
    (Fits vgPrefix ns n mode → Fits vgPrefix' ns' n' mode' →
      (buildCSIAddonsSGName vgPrefix ns n mode ≠ buildCSIAddonsSGName vgPrefix' ns' n' mode' ↔
        ¬ (variablePart vgPrefix ns = variablePart vgPrefix' ns' ∧ n = n' ∧ mode = mode'))) := by
  constructor
  · unfold buildCSIAddonsSGName Mimics
    cases keptPart vgPrefix ns n mode with
    | none => simp
    | some part => simp [addonsName_eq_protectionGroup_iff hn hn' hm hm']
  · intro hf hf'
    have hk : keptPart vgPrefix ns n mode = some (variablePart vgPrefix ns) := if_neg hf.not_gt
    have hk' : keptPart vgPrefix' ns' n' mode' = some (variablePart vgPrefix' ns') :=
      if_neg hf'.not_gt
    simp [buildCSIAddonsSGName, hk, hk', numbered_inj hn hn' hm hm']

/-- Two namespaces with volume groups in one RDF group. -/
theorem addonsName_ne_shop :
    buildCSIAddonsSGName "vg" "shop" "13" "ASYNC" ≠ some (buildProtectionGroupID "demo" "13" "ASYNC") ∧
      buildCSIAddonsSGName "vg" "shop" "13" "ASYNC" ≠ buildCSIAddonsSGName "vg" "demo" "13" "ASYNC" := by
  have hn : Numeric "13" := by simp [Numeric]
  obtain ⟨hp, hv⟩ := addonsName_ne_iff "vg" "shop" "13" "ASYNC" "vg" "demo" "13" "ASYNC" hn hn
    (by decide) (by decide)
  refine ⟨hp.mpr ?_, (hv (by unfold Fits; decide) (by unfold Fits; decide)).mpr (by decide)⟩
  rintro ⟨-, -, part, -, h⟩
  exact absurd (congrArg (·.toList.head?) h) (by simp)

/-- The namespace `addons-vg-shop`, and a dash that may belong to the prefix or the namespace. -/
theorem addonsName_shared :
    (¬ ∀ vgPrefix ns n mode ns' n' mode', Numeric n → Numeric n' →
      buildCSIAddonsSGName vgPrefix ns n mode ≠ some (buildProtectionGroupID ns' n' mode')) ∧
    ¬ ∀ vgPrefix ns n mode vgPrefix' ns' n' mode', Numeric n → Numeric n' →
      (vgPrefix, ns) ≠ (vgPrefix', ns') → Fits vgPrefix ns n mode → Fits vgPrefix' ns' n' mode' →
      buildCSIAddonsSGName vgPrefix ns n mode ≠ buildCSIAddonsSGName vgPrefix' ns' n' mode' := by
  have hn : Numeric "13" := by simp [Numeric]
  refine ⟨fun h => ?_, fun h => ?_⟩
  · exact h "vg" "shop" "13" "ASYNC" "addons-vg-shop" "13" "ASYNC" hn hn (by decide)
  · exact h "vg" "team-shop" "13" "ASYNC" "vg-team" "shop" "13" "ASYNC" hn hn (by decide)
      (by unfold Fits; decide) (by unfold Fits; decide) (by decide)

theorem notMem_of_length_split {s : String} {c : Char} (hl : (split s c).length ≤ 1) :
    c ∉ s.toList := by
  intro hmem
  obtain ⟨l, r, hs⟩ := List.append_of_mem hmem
  have hs' : s = String.ofList l ++ String.ofList [c] ++ String.ofList r := by
    apply String.ext
    simp [hs]
  rw [hs', split_append, List.length_append] at hl
  have h₁ := List.length_pos_iff.mpr (split_ne_nil (String.ofList l) c)
  have h₂ := List.length_pos_iff.mpr (split_ne_nil (String.ofList r) c)
  omega

/-- **Volume group IDs.**  What the decoder accepts is what the encoder writes for names without a
colon, of which the first two are not empty. -/
theorem decodeVolumeGroupID_iff (vgID : String) (id : VolumeGroupID) :
    decodeVolumeGroupID vgID = .ok id ↔ vgID = encodeVolumeGroupID id ∧
      (id.symID ≠ "" ∧ id.sgName ≠ "") ∧
      ∀ part ∈ [id.symID, id.sgName, id.rdfGrpNo], ':' ∉ part.toList := by
  have hsplit (a b c : String) :
      split (encodeVolumeGroupID ⟨a, b, c⟩) ':' = split a ':' ++ split b ':' ++ split c ':' := by
    rw [encodeVolumeGroupID, ← split_append, ← split_append]
  constructor
  · intro h
    unfold decodeVolumeGroupID at h
    split at h
    · cases h
    split at h
    · next symID sgName rdfGrpNo hs =>
      split at h
      · cases h
      next hne =>
      cases h
      have henc : vgID = encodeVolumeGroupID ⟨symID, sgName, rdfGrpNo⟩ := by
        rw [← join_split vgID ':', hs]
        simp [join, encodeVolumeGroupID, String.append_assoc]
      refine ⟨henc, not_or.mp hne, ?_⟩
      have hl := congrArg List.length (hs.symm.trans (henc ▸ hsplit symID sgName rdfGrpNo))
      have h₁ := List.length_pos_iff.mpr (split_ne_nil symID ':')
      have h₂ := List.length_pos_iff.mpr (split_ne_nil sgName ':')
      have h₃ := List.length_pos_iff.mpr (split_ne_nil rdfGrpNo ':')
      simp only [List.length_append, List.length_cons, List.length_nil] at hl
      simp only [List.forall_mem_cons, List.not_mem_nil, false_imp_iff, implies_true, and_true]
      exact ⟨notMem_of_length_split (by omega), notMem_of_length_split (by omega),
        notMem_of_length_split (by omega)⟩
    · cases h
  · rintro ⟨rfl, ⟨h₁, h₂⟩, hc⟩
    simp only [List.forall_mem_cons] at hc
    have hs := hsplit id.symID id.sgName id.rdfGrpNo
    rw [split_of_notMem hc.1, split_of_notMem hc.2.1, split_of_notMem hc.2.2.1] at hs
    have hne : encodeVolumeGroupID id ≠ "" := by
      intro he
      rw [show encodeVolumeGroupID ⟨id.symID, id.sgName, id.rdfGrpNo⟩ = "" from he] at hs
      simp [split] at hs
    unfold decodeVolumeGroupID
    rw [if_neg hne, show split (encodeVolumeGroupID id) ':' = _ from hs]
    exact if_neg (not_or.mpr ⟨h₁, h₂⟩)

/-- **The name of a volume group** tells its RDF group and its mode. -/
theorem parseCSIAddonsSGName_build (vgPrefix ns n mode name : String) (hn : '-' ∉ n.toList)
    (hm : '-' ∉ mode.toList) (hne : n ≠ "" ∧ mode ≠ "")
    (hb : buildCSIAddonsSGName vgPrefix ns n mode = some name) :
    parseCSIAddonsSGName name = some (n, mode) := by
  obtain ⟨part, -, rfl⟩ := Option.map_eq_some_iff.mp hb
  have hp : isCSIAddonsManagedSG
      (csiAddonsManagedSGPrefix ++ part ++ "-" ++ n ++ "-" ++ mode) = true := by
    simp [isCSIAddonsManagedSG, hasPrefix, String.toList_append, List.append_assoc]
  unfold parseCSIAddonsSGName
  rw [hp, split_dash_last _ hm, split_dash_last _ hn]
  simp [hne.1, hne.2]

theorem parseCSIAddonsSGName_shop :
    parseCSIAddonsSGName "csi-rep-sg-addons-vg-shop-13-ASYNC" = some ("13", "ASYNC") :=
  parseCSIAddonsSGName_build "vg" "shop" "13" "ASYNC" _ (by decide) (by decide) (by decide) (by decide)

end PowerMaxCsi.Addons
