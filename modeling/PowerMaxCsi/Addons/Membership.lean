import PowerMaxCsi.Addons.ManagedGroups

/-!
# The members of a volume group

`ModifyVolumeGroupMembership` adds and removes the differences.  The world is the set of the
members; all calls but the list and the changes may be answered in any way.
-/

namespace PowerMaxCsi.Addons

open Service Prog

def membersAfter (id : VolumeGroupID) (w : Set String) : AddonsCall → Set String
  | .addVolumesToStorageGroup symID sg ids | .addVolumesToProtectedStorageGroup symID sg _ _ ids =>
    if symID = id.symID ∧ sg = id.sgName then w ∪ {d | d ∈ ids} else w
  | .removeVolumesFromStorageGroup symID sg ids
  | .removeVolumesFromProtectedStorageGroup symID sg _ _ ids =>
    if symID = id.symID ∧ sg = id.sgName then w \ {d | d ∈ ids} else w
  | _ => w

def memberAnswers (id : VolumeGroupID) (w : Set String) (c : AddonsCall) (r : AddonsAnswer c)
    (w' : Set String) : Prop :=
  w' = membersAfter id w c ∧
    match c, r with
    | .getVolumeIDListInStorageGroup symID sg, r => symID = id.symID → sg = id.sgName →
        ∃ devIDs, r = .ok devIDs ∧ ∀ d, d ∈ devIDs ↔ d ∈ w
    | .addVolumesToStorageGroup _ _ _, r => r = .ok ()
    | .addVolumesToProtectedStorageGroup _ _ _ _ _, r => r = .ok ()
    | .removeVolumesFromStorageGroup _ _ _, r => r = .ok ()
    | .removeVolumesFromProtectedStorageGroup _ _ _ _ _, r => r = .ok ()
    | _, _ => True

theorem membersAfter_of_reads {id : VolumeGroupID} {w : Set String} {c : AddonsCall} (hc : Reads c) :
    membersAfter id w c = w := by
  cases c with
  | addVolumesToStorageGroup | removeVolumesFromStorageGroup | addVolumesToProtectedStorageGroup
  | removeVolumesFromProtectedStorageGroup => cases hc
  | _ => rfl

section

variable {id : VolumeGroupID} {w : Set String} {B : Prop} {remoteSymID : Option String}
  {devIDs desired : List String} {volumeIDs : List String}

theorem addMembers_spec (h : B → devIDs = []) :
    SafeIn (memberAnswers id) (fun _ c => B → Reads c)
      (fun w' r => r = .ok () ∧ w' = w ∪ {d | d ∈ devIDs}) w (addMembers id remoteSymID devIDs) := by
  refine .ite (fun hnil => ⟨rfl, by simp [hnil]⟩) fun hne => ?_
  cases remoteSymID with
  | none | some remoteSymID =>
    refine ⟨fun hb => absurd (h hb) hne, ?_⟩
    rintro r w' ⟨rfl, hr⟩
    obtain rfl : r = .ok () := hr
    exact ⟨rfl, if_pos ⟨rfl, rfl⟩⟩

theorem removeMembers_spec (h : B → devIDs = []) :
    SafeIn (memberAnswers id) (fun _ c => B → Reads c) (fun w' _ => w' = w \ {d | d ∈ devIDs}) w
      (removeMembers id remoteSymID devIDs) := by
  refine .ite (fun hnil => by simp [hnil, SafeIn]) fun hne => ?_
  cases remoteSymID with
  | none | some remoteSymID =>
    refine ⟨fun hb => absurd (h hb) hne, ?_⟩
    rintro r w' ⟨rfl, hr⟩
    obtain rfl : r = .ok () := hr
    exact if_pos ⟨rfl, rfl⟩

variable (hb : B → w = {d | d ∈ desired})

include hb

theorem changeMembers_spec :
    SafeIn (memberAnswers id) (fun _ c => B → Reads c) (fun w' _ => w' = {d | d ∈ desired}) w
      (changeMembers id remoteSymID desired) := by
  refine ⟨fun _ => rfl, ?_⟩
  rintro r w' ⟨rfl, hr⟩
  obtain ⟨current, rfl, hcur⟩ := hr rfl rfl
  refine (addMembers_spec fun h => ?_).bind ?_
  · simp [hcur, hb h]
  rintro w₁ _ ⟨rfl, rfl⟩
  refine (removeMembers_spec fun h => ?_).mono ?_
  · simp [hcur, hb h]
  rintro w' - rfl
  ext d
  simp [hcur]
  tauto

theorem modifyGroup_spec (hd : desiredDevIDs volumeIDs = .ok desired) :
    SafeIn (memberAnswers id) (fun _ c => B → Reads c)
      (fun w' r => ∀ vg, r = .ok vg → w' = {d | d ∈ desired}) w (modifyGroup id volumeIDs) := by
  have hre : SafeIn (memberAnswers id) (fun _ c => B → Reads c) (fun w' _ => w' = w) w
      (resolveProtection id) :=
    .of_calls (I := (· = w)) rfl resolveProtection_reads fun c w₁ hc hw =>
      ⟨fun _ => hc, fun r w₂ ha => ha.1.trans ((membersAfter_of_reads hc).trans hw)⟩
  refine hre.bind ?_
  rintro w₁ (failure | remoteSymID) rfl
  · exact nofun
  rw [hd]
  refine (changeMembers_spec hb).bind ?_
  rintro w₂ (failure | _) rfl
  · exact nofun
  · refine ⟨fun _ => rfl, ?_⟩
    rintro r w₃ ⟨rfl, -⟩
    exact fun _ _ => rfl

/-- What a request does, and does not do if the members are those of the request (`B`). -/
theorem modifyVolumeGroupMembership_spec {vgID : String} (hi : decodeVolumeGroupID vgID = .ok id)
    (hd : desiredDevIDs volumeIDs = .ok desired) :
    SafeIn (memberAnswers id) (fun _ c => B → Reads c)
      (fun w' r => ∀ vg, r = .ok vg → w' = {d | d ∈ desired}) w
      (modifyVolumeGroupMembership vgID volumeIDs) := by
  unfold modifyVolumeGroupMembership
  rw [hi]
  refine ⟨fun _ => rfl, ?_⟩
  rintro (err | _) w₁ ⟨rfl, -⟩
  · exact nofun
  refine ⟨fun _ => rfl, ?_⟩
  rintro (err | lockNum) w₂ ⟨rfl, -⟩
  · exact nofun
  refine (modifyGroup_spec hb hd).bind fun w₃ r hr => ⟨fun _ => rfl, ?_⟩
  rintro _ w₄ ⟨rfl, -⟩
  exact hr

end

/-- **The members are those of the request** once it has succeeded; a repetition changes nothing. -/
theorem members_of_modify {vgID : String} {volumeIDs desired : List String} {id : VolumeGroupID}
    (hi : decodeVolumeGroupID vgID = .ok id) (hd : desiredDevIDs volumeIDs = .ok desired)
    {w w₁ : Set String} {vg : VolumeGroup}
    (hr : CanReturn (memberAnswers id) w (modifyVolumeGroupMembership vgID volumeIDs) w₁ (.ok vg)) :
    w₁ = {d | d ∈ desired} ∧ ∀ w₂ c, CanIssue (memberAnswers id) w₁
      (modifyVolumeGroupMembership vgID volumeIDs) w₂ c → changedGroups c = [] := by
  have hw := (modifyVolumeGroupMembership_spec False.elim hi hd).canReturn hr vg rfl
  exact ⟨hw, fun w₂ c hc => (modifyVolumeGroupMembership_spec (fun _ => hw) hi hd).canIssue hc trivial⟩

namespace OneDevice

def id : VolumeGroupID := ⟨"000120000548", "csi-rep-sg-addons-vg-ns1-13-ASYNC", "13"⟩

def request : AddonsProg (Except Failure VolumeGroup) :=
  modifyVolumeGroupMembership (encodeVolumeGroupID id)
    ["csi-ABC-pmax-260602731A-ns1-nsx-000120000548-011AB"]

def replaced : AddonsHistory :=
  [⟨.getPowerMaxClient [id.symID], .ok ()⟩, ⟨.rep (.requestLock (id.sgName ++ id.symID)), .ok 1⟩,
   ⟨.getProtectedStorageGroup id.symID id.sgName, .ok none⟩,
   ⟨.getVolumeIDListInStorageGroup id.symID id.sgName, .ok ["00001"]⟩,
   ⟨.addVolumesToStorageGroup id.symID id.sgName ["011AB"], .ok ()⟩,
   ⟨.removeVolumesFromStorageGroup id.symID id.sgName ["00001"], .ok ()⟩,
   ⟨.getVolumeIDListInStorageGroup id.symID id.sgName, .ok ["011AB"]⟩,
   ⟨.rep (.releaseLock (id.sgName ++ id.symID) 1), ()⟩]

theorem consistent_replaced : ∃ w₁, Consistent (memberAnswers id) {"00001"} replaced w₁ := by
  refine ⟨_, .cons ⟨rfl, trivial⟩ <| .cons ⟨rfl, trivial⟩ <| .cons ⟨rfl, trivial⟩ <|
    .cons ⟨rfl, fun _ _ => ⟨_, rfl, ?_⟩⟩ <| .cons ⟨rfl, rfl⟩ <| .cons ⟨rfl, rfl⟩ <|
    .cons ⟨rfl, fun _ _ => ⟨_, rfl, ?_⟩⟩ <| .cons ⟨rfl, trivial⟩ .nil⟩
  · simp [membersAfter]
  · simp [membersAfter]

theorem members_of_modify_replaced : ∃ w₁ vg,
    CanReturn (memberAnswers id) {"00001"} request w₁ (.ok vg) ∧ w₁ = {d | d ∈ ["011AB"]} := by
  obtain ⟨w₁, hc⟩ := consistent_replaced
  have he : Exec request replaced (.ok ⟨encodeVolumeGroupID id, id.sgName, id.symID, "13", "ASYNC", "",
      ["000120000548-011AB"]⟩) := exec_of_follow (by decide +kernel)
  exact ⟨w₁, _, ⟨_, hc, he⟩, (members_of_modify (by decide) (by decide) ⟨_, hc, he⟩).1⟩

end OneDevice

end PowerMaxCsi.Addons
