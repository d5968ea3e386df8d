import PowerMaxCsi.Addons.ManagedGroups

/-!
# What the array has confirmed before a group is changed

`DeleteVolumeGroup` and `ModifyVolumeGroupMembership` look up whether the group is there, protected,
and on which side (`Lookups`).  A look-up that fails counts as absent, unprotected, or the source.
-/

namespace PowerMaxCsi.Addons

open Service Strings Prog List

def missing (err : PmaxError) : Bool :=
  contains err.text cannotBeFound || contains err.text errorNotFound

def saysAbsent : Except PmaxError (Option StorageGroup) → Bool
  | .error err => missing err
  | .ok none => true
  | .ok (some _) => false

def saysUnprotected : Except PmaxError (Option RDFStorageGroup) → Bool
  | .error err => missing err
  | .ok none => true
  | .ok (some psg) => !psg.rdf

def saysSource : Except PmaxError (Option SGRDFInfo) → Bool
  | .ok (some sgRDF) => (csiAddonsSRDFPersonality sgRDF).isR1
  | _ => false

def saysTarget : Except PmaxError (Option SGRDFInfo) → Bool
  | .ok (some sgRDF) => (sgRDF.volumeRdfTypes.filter (· ≠ "")).dedup = ["R2"]
  | _ => false

def ConfirmedAbsent (id : VolumeGroupID) (h : AddonsHistory) : Prop :=
  ∃ r, ⟨.rep (.getStorageGroup id.symID id.sgName), r⟩ ∈ h ∧ saysAbsent r = true

def ConfirmedUnprotected (id : VolumeGroupID) (h : AddonsHistory) : Prop :=
  ∃ r, ⟨.getProtectedStorageGroup id.symID id.sgName, r⟩ ∈ h ∧ saysUnprotected r = true

def ConfirmedSource (id : VolumeGroupID) (h : AddonsHistory) : Prop :=
  ∃ rdfGrpNo r, ⟨.getStorageGroupRDFInfo id.symID id.sgName rdfGrpNo, r⟩ ∈ h ∧ saysSource r = true

def ConfirmedTarget (id : VolumeGroupID) (h : AddonsHistory) : Prop :=
  ∃ rdfGrpNo r, ⟨.getStorageGroupRDFInfo id.symID id.sgName rdfGrpNo, r⟩ ∈ h ∧ saysTarget r = true

/-- What has to be confirmed before a call.  A teardown on the source side also deletes the
group. -/
def Allowed (id : VolumeGroupID) (h : AddonsHistory) : AddonsCall → Prop
  | .addVolumesToStorageGroup _ _ _ => ConfirmedUnprotected id h
  | .removeVolumesFromStorageGroup _ _ _ => ConfirmedUnprotected id h
  | .rep (.deleteStorageGroup _ _) => ConfirmedUnprotected id h ∨ ConfirmedSource id h
  | .removeVolumesFromProtectedStorageGroup _ _ _ _ _ => ConfirmedSource id h
  | .executeReplicationActionOnSG _ action _ _ _ _ _ => action = "Suspend" → ConfirmedSource id h
  | _ => True

def Changed (h : AddonsHistory) : Prop := ∃ e ∈ h, changedGroups e.1 ≠ []

def Reported (id : VolumeGroupID) (h : AddonsHistory) (r : Except Failure Unit) : Prop :=
  r = .ok () → ¬ Changed h → ConfirmedAbsent id h ∨ ConfirmedTarget id h

structure Lookups where
  storageGroup : Except PmaxError (Option StorageGroup)
  protectedGroup : Except PmaxError (Option RDFStorageGroup)
  rdfInfo : Except PmaxError (Option SGRDFInfo)
  rdfGroup : Except PmaxError RDFGroup

namespace Lookups

variable (L : Lookups)

def Gives : (c : AddonsCall) → AddonsAnswer c → Prop
  | .rep (.getStorageGroup _ _), r => r = L.storageGroup
  | .getProtectedStorageGroup _ _, r => r = L.protectedGroup
  | .getStorageGroupRDFInfo _ _ _, r => r = L.rdfInfo
  | .getRDFGroupByID _ _, r => r = L.rdfGroup
  | _, _ => True

/-- The world of a request; its state are the calls so far. -/
def answers (h : AddonsHistory) (c : AddonsCall) (r : AddonsAnswer c) (h' : AddonsHistory) : Prop :=
  L.Gives c r ∧ h' = h ++ [⟨c, r⟩]

/-- `DeleteVolumeGroup` knows the side, or does not get further. -/
def SideConfirmed : Prop :=
  match L.rdfInfo with
  | .ok (some _) => saysSource L.rdfInfo = true ∨ saysTarget L.rdfInfo = true
  | _ => ∃ err, L.rdfGroup = .error err

/-- The answers with which `DeleteVolumeGroup` does only what is confirmed. -/
def DeleteConfirmed (id : VolumeGroupID) : Prop :=
  match L.storageGroup with
  | .ok (some _) =>
    match L.protectedGroup with
    | .ok (some psg) => psg.rdf = true → ∀ rdfGrpNo,
        resolveEffectiveRDFGroup id.rdfGrpNo psg = .ok rdfGrpNo → L.SideConfirmed
    | _ => saysUnprotected L.protectedGroup = true
  | _ => saysAbsent L.storageGroup = true

/-- The answers with which `ModifyVolumeGroupMembership` does only what is confirmed. -/
def ModifyConfirmed (id : VolumeGroupID) : Prop :=
  match L.protectedGroup with
  | .ok (some psg) => psg.rdf = true → id.rdfGrpNo ≠ "" ∧
      match L.rdfInfo with
      | .ok (some _) => saysSource L.rdfInfo = true → ∃ rdfInfo, L.rdfGroup = .ok rdfInfo
      | _ => False
  | _ => saysUnprotected L.protectedGroup = true

end Lookups

inductive GroupRequest where
  | deleteVolumeGroup (volumeGroupID : String)
  | modifyVolumeGroupMembership (volumeGroupID : String) (volumeIDs : List String)

/-- Every call, and every success without a change, has been confirmed to be in order. -/
def GroupRequest.Confirmed (L : Lookups) : GroupRequest → Prop
  | .deleteVolumeGroup vgID => ∀ id, decodeVolumeGroupID vgID = .ok id →
      SafeIn L.answers (Allowed id) (Reported id) [] (Addons.deleteVolumeGroup vgID)
  | .modifyVolumeGroupMembership vgID volumeIDs => ∀ id, decodeVolumeGroupID vgID = .ok id →
      SafeIn L.answers (Allowed id) (fun _ _ => True) []
        (Addons.modifyVolumeGroupMembership vgID volumeIDs)

/-- The answers with which a request does only what is confirmed. -/
def GroupRequest.Answered (L : Lookups) : GroupRequest → Prop
  | .deleteVolumeGroup vgID => ∀ id, decodeVolumeGroupID vgID = .ok id → L.DeleteConfirmed id
  | .modifyVolumeGroupMembership vgID volumeIDs => ∀ id desired,
      decodeVolumeGroupID vgID = .ok id → desiredDevIDs volumeIDs = .ok desired →
        L.ModifyConfirmed id

section

variable {id : VolumeGroupID} {h : AddonsHistory} {e : Entry AddonsCall AddonsAnswer}

theorem ConfirmedAbsent.append (hc : ConfirmedAbsent id h) : ConfirmedAbsent id (h ++ [e]) := by
  obtain ⟨r, hmem, hr⟩ := hc
  exact ⟨r, mem_append_left _ hmem, hr⟩

theorem ConfirmedUnprotected.append (hc : ConfirmedUnprotected id h) :
    ConfirmedUnprotected id (h ++ [e]) := by
  obtain ⟨r, hmem, hr⟩ := hc
  exact ⟨r, mem_append_left _ hmem, hr⟩

theorem ConfirmedSource.append (hc : ConfirmedSource id h) : ConfirmedSource id (h ++ [e]) := by
  obtain ⟨rdfGrpNo, r, hmem, hr⟩ := hc
  exact ⟨rdfGrpNo, r, mem_append_left _ hmem, hr⟩

theorem ConfirmedTarget.append (hc : ConfirmedTarget id h) : ConfirmedTarget id (h ++ [e]) := by
  obtain ⟨rdfGrpNo, r, hmem, hr⟩ := hc
  exact ⟨rdfGrpNo, r, mem_append_left _ hmem, hr⟩

theorem Changed.append (hc : Changed h) : Changed (h ++ [e]) := by
  obtain ⟨e₁, hmem, he₁⟩ := hc
  exact ⟨e₁, mem_append_left _ hmem, he₁⟩

theorem changed_append (he : changedGroups e.1 ≠ []) : Changed (h ++ [e]) :=
  ⟨e, mem_concat_self, he⟩

theorem Reported.append {r : Except Failure Unit} (hr : Reported id h r) :
    Reported id (h ++ [e]) r := by
  intro hok hch
  rcases hr hok fun hc => hch hc.append with ha | ht
  · exact .inl ha.append
  · exact .inr ht.append

theorem reported_error {failure : Failure} : Reported id h (.error failure) := by
  intro hok
  cases hok

theorem reported_of_changed {r : Except Failure Unit} (hc : Changed h) : Reported id h r :=
  fun _ hch => absurd hc hch

end

/-! ## Requests that do only what is confirmed -/

section

variable {α : Type} {L : Lookups} {id : VolumeGroupID} {h : AddonsHistory} {p : AddonsProg α}
  {body : AddonsProg (Except Failure α)}

theorem safeIn_of_confirmed {K : AddonsHistory → Prop} (ha : ∀ h e, K h → K (h ++ [e])) (hK : K h)
    (hp : Calls (fun c => ∀ h, K h → Allowed id h c) p) :
    SafeIn L.answers (Allowed id) (fun h' _ => K h') h p := by
  refine SafeIn.of_calls hK hp fun c h₁ hc hK₁ => ⟨hc h₁ hK₁, ?_⟩
  rintro r h₂ ⟨-, rfl⟩
  exact ha _ _ hK₁

theorem reads_allowed {c : AddonsCall} (hc : Reads c) : Allowed id h c := by
  cases c with
  | rep c => cases c <;> trivial
  | _ => trivial

theorem reads_safeIn (hp : Calls Reads p) : SafeIn L.answers (Allowed id) (fun _ _ => True) h p :=
  SafeIn.of_calls trivial hp fun _ _ hc _ => ⟨reads_allowed hc, fun _ _ _ => trivial⟩

variable {post : AddonsHistory → Except Failure α → Prop}
  (hf : ∀ h failure, post h (.error failure)) (hb : ∀ h, SafeIn L.answers (Allowed id) post h body)

include hf hb

theorem withClient_safeIn {rpc : String} {symIDs : List String} :
    SafeIn L.answers (Allowed id) post h (withClient rpc symIDs body) := by
  refine ⟨trivial, ?_⟩
  rintro (err | _) h₁ -
  · exact hf _ _
  · exact hb h₁

theorem withSGLock_safeIn (ha : ∀ h e r, post h r → post (h ++ [e]) r) :
    SafeIn L.answers (Allowed id) post h (withSGLock id body) := by
  refine ⟨trivial, ?_⟩
  rintro (err | lockNum) h₁ -
  · exact hf _ _
  · refine (hb h₁).bind fun h₂ result hr => ⟨trivial, ?_⟩
    rintro _ h₃ ⟨-, rfl⟩
    exact ha _ _ _ hr

omit hf hb

theorem deleteLocalSG_safeIn (hc : ConfirmedUnprotected id h) :
    SafeIn L.answers (Allowed id) (Reported id) h (deleteLocalSG id) := by
  refine ⟨.inl hc, ?_⟩
  rintro (err | _) h₁ ⟨-, rfl⟩
  · exact reported_error
  · exact reported_of_changed (changed_append (by simp [changedGroups, repChangedGroups]))

theorem deleteUnprotectedSG_safeIn (hc : ConfirmedUnprotected id h) :
    SafeIn L.answers (Allowed id) (Reported id) h (deleteUnprotectedSG id) := by
  refine ⟨trivial, ?_⟩
  rintro (err | (_ | ⟨devID, devIDs⟩)) h₁ ⟨-, rfl⟩
  · exact deleteLocalSG_safeIn hc.append
  · exact deleteLocalSG_safeIn hc.append
  · refine ⟨hc.append, ?_⟩
    rintro (err | _) h₁ ⟨-, rfl⟩
    · exact reported_error
    · exact deleteLocalSG_safeIn hc.append.append

variable {rdfGrpNo state : String}

theorem suspendSession_allowed :
    Calls (fun c => ∀ h, ConfirmedSource id h → Allowed id h c)
      (suspendSession id rdfGrpNo state) := by
  refine Calls.ite ⟨fun _ hc _ => hc, ?_⟩ trivial
  rintro (err | _) <;> trivial

theorem breakPairs_allowed {remoteSymID : String} :
    Calls (fun c => ∀ h, ConfirmedSource id h → Allowed id h c) (breakPairs id remoteSymID) := by
  refine ⟨fun _ _ => trivial, ?_⟩
  rintro (err | (_ | ⟨devID, devIDs⟩))
  · trivial
  · trivial
  · refine ⟨fun _ hc => hc, ?_⟩
    rintro (err | _) <;> trivial

theorem tearDown_safeIn {remoteSymID : String} (hc : ConfirmedSource id h) :
    SafeIn L.answers (Allowed id) (Reported id) h (tearDown id rdfGrpNo state remoteSymID) := by
  have ha : ∀ h e, ConfirmedSource id h → ConfirmedSource id (h ++ [e]) :=
    fun _ _ hc => hc.append
  refine (safeIn_of_confirmed ha hc suspendSession_allowed).bind ?_
  rintro h₁ (failure | _) hc₁
  · exact reported_error
  refine (safeIn_of_confirmed ha hc₁ breakPairs_allowed).bind ?_
  rintro h₂ (failure | _) hc₂
  · exact reported_error
  refine ⟨.inr hc₂, ?_⟩
  rintro (err | _) h₃ ⟨-, rfl⟩
  · exact reported_error
  · refine ⟨.inr hc₂.append, ?_⟩
    rintro r h₄ ⟨-, rfl⟩
    exact reported_of_changed (changed_append (by simp [changedGroups, repChangedGroups]))

theorem deleteSourceGroup_safeIn (hc : (∃ err, L.rdfGroup = .error err) ∨ ConfirmedSource id h) :
    SafeIn L.answers (Allowed id) (Reported id) h (deleteSourceGroup id rdfGrpNo state) := by
  refine ⟨trivial, ?_⟩
  rintro (err | rdfInfo) h₁ ⟨hg, rfl⟩
  · exact reported_error
  rcases hc with ⟨err, he⟩ | hc
  · rw [Lookups.Gives, he] at hg
    cases hg
  refine ⟨trivial, ?_⟩
  rintro (err | _) h₂ ⟨-, rfl⟩
  · exact reported_error
  · exact tearDown_safeIn hc.append.append

theorem deleteProtectedVolumeGroup_safeIn {psg : RDFStorageGroup}
    (hs : ∀ rdfGrpNo, resolveEffectiveRDFGroup id.rdfGrpNo psg = .ok rdfGrpNo → L.SideConfirmed) :
    SafeIn L.answers (Allowed id) (Reported id) h (deleteProtectedVolumeGroup id psg) := by
  unfold deleteProtectedVolumeGroup
  split
  case h_1 => exact reported_error
  case h_2 rdfGrpNo hr =>
    have hs := hs rdfGrpNo hr
    refine ⟨trivial, ?_⟩
    rintro r h₁ ⟨hg, rfl⟩
    have hmem : (⟨.getStorageGroupRDFInfo id.symID id.sgName rdfGrpNo, r⟩ :
        Entry AddonsCall AddonsAnswer) ∈
          h ++ [⟨.getStorageGroupRDFInfo id.symID id.sgName rdfGrpNo, r⟩] :=
      mem_concat_self
    rw [Lookups.SideConfirmed, ← hg] at hs
    rcases r with err | (_ | sgRDF)
    · exact deleteSourceGroup_safeIn (.inl hs)
    · exact deleteSourceGroup_safeIn (.inl hs)
    · refine .ite (fun hso => ?_) fun hso => ?_
      · exact deleteSourceGroup_safeIn (.inr ⟨rdfGrpNo, _, hmem, hso⟩)
      · rcases hs with hs | ht
        · exact absurd hs hso
        · exact fun _ _ => .inr ⟨rdfGrpNo, _, hmem, ht⟩

theorem deleteGroup_safeIn (hL : L.DeleteConfirmed id) :
    SafeIn L.answers (Allowed id) (Reported id) h (deleteGroup id) := by
  refine ⟨trivial, ?_⟩
  rintro r h₁ ⟨hg, rfl⟩
  rw [Lookups.DeleteConfirmed, ← hg] at hL
  have ha (hr : saysAbsent r = true) :
      ConfirmedAbsent id (h ++ [⟨.rep (.getStorageGroup id.symID id.sgName), r⟩]) :=
    ⟨r, mem_concat_self, hr⟩
  rcases r with err | (_ | sg)
  · exact fun _ _ => .inl (ha hL)
  · exact fun _ _ => .inl (ha hL)
  refine ⟨trivial, ?_⟩
  rintro r h₂ ⟨hg, rfl⟩
  rw [← hg] at hL
  have hu (hr : saysUnprotected r = true) : ConfirmedUnprotected id
      (h ++ [⟨.rep (.getStorageGroup id.symID id.sgName), .ok (some sg)⟩] ++
        [⟨.getProtectedStorageGroup id.symID id.sgName, r⟩]) :=
    ⟨r, mem_concat_self, hr⟩
  rcases r with err | (_ | psg)
  · exact deleteUnprotectedSG_safeIn (hu hL)
  · exact deleteUnprotectedSG_safeIn (hu hL)
  · refine .ite (fun hrd => deleteProtectedVolumeGroup_safeIn (hL hrd)) fun hrd => ?_
    exact deleteUnprotectedSG_safeIn (hu (by simpa [saysUnprotected] using hrd))

/-- What `ModifyVolumeGroupMembership` knows about the protection. -/
def ProtectionKnown (id : VolumeGroupID) (h : AddonsHistory) :
    Except Failure (Option String) → Prop
  | .error _ => True
  | .ok none => ConfirmedUnprotected id h
  | .ok (some _) => ConfirmedSource id h

theorem resolveRemote_safeIn (hc : ConfirmedSource id h) (hg : ∃ rdfInfo, L.rdfGroup = .ok rdfInfo) :
    SafeIn L.answers (Allowed id) (ProtectionKnown id) h (resolveRemote id) := by
  obtain ⟨rdfInfo, hg⟩ := hg
  refine ⟨trivial, ?_⟩
  rintro (err | rdfInfo) h₁ ⟨hgi, rfl⟩
  · rw [Lookups.Gives, hg] at hgi
    cases hgi
  · refine ⟨trivial, ?_⟩
    rintro r h₂ ⟨-, rfl⟩
    exact hc.append.append

theorem resolveProtection_safeIn (hL : L.ModifyConfirmed id) :
    SafeIn L.answers (Allowed id) (ProtectionKnown id) h (resolveProtection id) := by
  refine ⟨trivial, ?_⟩
  rintro r h₁ ⟨hg, rfl⟩
  rw [Lookups.ModifyConfirmed, ← hg] at hL
  have hu (hr : saysUnprotected r = true) : ConfirmedUnprotected id
      (h ++ [⟨.getProtectedStorageGroup id.symID id.sgName, r⟩]) :=
    ⟨r, mem_concat_self, hr⟩
  rcases r with err | (_ | psg)
  · exact hu hL
  · exact hu hL
  refine .ite (fun hrd => ?_) fun hrd => ?_
  · obtain ⟨-, hL⟩ := hL hrd.1
    refine ⟨trivial, ?_⟩
    rintro r h₂ ⟨hg, rfl⟩
    rw [← hg] at hL
    rcases r with err | (_ | sgRDF)
    · exact hL.elim
    · exact hL.elim
    · refine .ite (fun _ => trivial) fun hs => ?_
      have hs : saysSource (.ok (some sgRDF)) = true := by
        simpa [saysSource] using hs
      refine resolveRemote_safeIn ⟨id.rdfGrpNo, _, ?_, hs⟩ (hL hs)
      exact mem_concat_self
  · have hrd : psg.rdf ≠ true := fun hp => hrd ⟨hp, (hL hp).1⟩
    exact hu (by simpa [saysUnprotected] using hrd)

theorem changeMembers_safeIn {remoteSymID : Option String} {desired : List String}
    (hk : ProtectionKnown id h (.ok remoteSymID)) :
    SafeIn L.answers (Allowed id) (fun h' _ => ProtectionKnown id h' (.ok remoteSymID)) h
      (changeMembers id remoteSymID desired) := by
  refine safeIn_of_confirmed ?_ hk (changeMembers_calls (fun _ _ => trivial) ?_ ?_)
  · intro h e hk
    cases remoteSymID with
    | none => exact ConfirmedUnprotected.append hk
    | some remoteSymID => exact ConfirmedSource.append hk
  · rintro rfl devIDs
    exact ⟨fun _ hc => hc, fun _ hc => hc⟩
  · rintro remoteSymID rfl devIDs
    exact ⟨fun _ _ => trivial, fun _ hc => hc⟩

theorem modifyGroup_safeIn {volumeIDs : List String}
    (hL : ∀ desired, desiredDevIDs volumeIDs = .ok desired → L.ModifyConfirmed id) :
    SafeIn L.answers (Allowed id) (fun _ _ => True) h (modifyGroup id volumeIDs) := by
  rcases hd : desiredDevIDs volumeIDs with failure | desired
  · -- nothing is changed
    have hr : Calls Reads (resolveProtection id) := resolveProtection_reads
    refine (reads_safeIn hr).bind ?_
    rintro h₁ (failure | remoteSymID) -
    · trivial
    · simp only [hd]
      trivial
  · refine (resolveProtection_safeIn (hL desired hd)).bind ?_
    rintro h₁ (failure | remoteSymID) hk
    · trivial
    simp only [hd]
    refine (changeMembers_safeIn hk).bind ?_
    rintro h₂ (failure | _) -
    · trivial
    · exact ⟨trivial, fun _ _ _ => trivial⟩

end

/-! ## What is not confirmed happens -/

section

variable {α : Type} {L : Lookups} {id : VolumeGroupID} {h h' : AddonsHistory} {c : AddonsCall}
  {p : AddonsProg α} {k : AddonsAnswer c → AddonsProg α}

theorem gives_of_consistent {t : AddonsHistory} (hc : Consistent L.answers h t h')
    (hh : ∀ e ∈ h, L.Gives e.1 e.2) : ∀ e ∈ h', L.Gives e.1 e.2 := by
  induction hc with
  | nil => exact hh
  | cons ha _ ih =>
    obtain ⟨hg, rfl⟩ := ha
    exact ih (forall_mem_append.mpr ⟨hh, forall_mem_singleton.mpr hg⟩)

theorem says_of_confirmedUnprotected (hp : CanIssue L.answers [] p h c)
    (hc : ConfirmedUnprotected id h) : saysUnprotected L.protectedGroup = true := by
  obtain ⟨t, hco, -⟩ := hp
  obtain ⟨r, hmem, hr⟩ := hc
  have hg : r = L.protectedGroup := gives_of_consistent hco (by simp) _ hmem
  rwa [← hg]

theorem says_of_confirmedSource (hp : CanIssue L.answers [] p h c) (hc : ConfirmedSource id h) :
    saysSource L.rdfInfo = true := by
  obtain ⟨t, hco, -⟩ := hp
  obtain ⟨rdfGrpNo, r, hmem, hr⟩ := hc
  have hg : r = L.rdfInfo := gives_of_consistent hco (by simp) _ hmem
  rwa [← hg]

def CanDo (L : Lookups) (p : AddonsProg α) (c : AddonsCall) : Prop :=
  ∀ h, ∃ h', CanIssue L.answers h p h' c

theorem canDo_call_self : CanDo L (.call c k) c :=
  fun h => ⟨h, canIssue_call_self⟩

theorem canDo_call {c' : AddonsCall} {k : AddonsAnswer c' → AddonsProg α} (r : AddonsAnswer c')
    (hr : L.Gives c' r) (hk : CanDo L (k r) c) : CanDo L (.call c' k) c := by
  intro h
  obtain ⟨h', hh'⟩ := hk (h ++ [⟨c', r⟩])
  exact ⟨h', canIssue_call ⟨hr, rfl⟩ hh'⟩

theorem CanDo.bind {β : Type} (hp : CanDo L p c) (f : α → AddonsProg β) : CanDo L (p.bind f) c := by
  intro h
  obtain ⟨h', hh'⟩ := hp h
  exact ⟨h', hh'.bind f⟩

variable {symIDs : List String} {sg : StorageGroup} {psg : RDFStorageGroup}

theorem locked_canDo {rpc : String} {body : AddonsProg (Except Failure α)}
    (hb : CanDo L body c) : CanDo L (withClient rpc symIDs (withSGLock id body)) c :=
  canDo_call (.ok ()) trivial (canDo_call (.ok 0) trivial (hb.bind _))

theorem deleteGroup_removes (hsg : L.storageGroup = .ok (some sg))
    (hp : ∀ psg, L.protectedGroup ≠ .ok (some psg)) :
    CanDo L (deleteGroup id) (.removeVolumesFromStorageGroup id.symID id.sgName ["00001"]) := by
  have hr : CanDo L (deleteUnprotectedSG id)
      (.removeVolumesFromStorageGroup id.symID id.sgName ["00001"]) :=
    canDo_call (.ok ["00001"]) trivial canDo_call_self
  refine canDo_call (.ok (some sg)) hsg.symm (canDo_call L.protectedGroup rfl ?_)
  rcases hL : L.protectedGroup with err | (_ | psg)
  · exact hr
  · exact hr
  · exact absurd hL (hp psg)

theorem deleteGroup_suspends {rdfInfo : RDFGroup}
    {rdfGrpNo : String} (hsg : L.storageGroup = .ok (some sg))
    (hp : L.protectedGroup = .ok (some psg)) (hrd : psg.rdf = true)
    (hr : resolveEffectiveRDFGroup id.rdfGrpNo psg = .ok rdfGrpNo)
    (hi : ∀ sgRDF, L.rdfInfo ≠ .ok (some sgRDF)) (hg : L.rdfGroup = .ok rdfInfo) :
    CanDo L (deleteGroup id)
      (.executeReplicationActionOnSG id.symID "Suspend" id.sgName rdfGrpNo true false false) := by
  have hs : CanDo L (deleteSourceGroup id rdfGrpNo "")
      (.executeReplicationActionOnSG id.symID "Suspend" id.sgName rdfGrpNo true false false) :=
    canDo_call (.ok rdfInfo) hg.symm (canDo_call (.ok ()) trivial (canDo_call_self.bind _))
  refine canDo_call (.ok (some sg)) hsg.symm (canDo_call (.ok (some psg)) hp.symm ?_)
  show CanDo L (ite ..) _
  rw [if_pos hrd, deleteProtectedVolumeGroup, hr]
  refine canDo_call L.rdfInfo rfl ?_
  rcases hL : L.rdfInfo with err | (_ | sgRDF)
  · exact hs
  · exact hs
  · exact absurd hL (hi sgRDF)

theorem canReturn_gives {a : α} (r : AddonsAnswer c) (hr : L.Gives c r)
    (hk : CanReturn L.answers (h ++ [⟨c, r⟩]) (k r) h' a) :
    CanReturn L.answers h (.call c k) h' a :=
  canReturn_call ⟨hr, rfl⟩ hk

theorem deleteGroup_absent (hsg : ∀ sg, L.storageGroup ≠ .ok (some sg)) :
    CanReturn L.answers h (deleteGroup id)
      (h ++ [⟨.rep (.getStorageGroup id.symID id.sgName), L.storageGroup⟩]) (.ok ()) := by
  refine canReturn_gives L.storageGroup rfl ?_
  rcases hL : L.storageGroup with err | (_ | sg)
  · exact canReturn_ret _
  · exact canReturn_ret _
  · exact absurd hL (hsg sg)

theorem deleteGroup_target {sgRDF : SGRDFInfo}
    {rdfGrpNo : String} (hsg : L.storageGroup = .ok (some sg))
    (hp : L.protectedGroup = .ok (some psg)) (hrd : psg.rdf = true)
    (hr : resolveEffectiveRDFGroup id.rdfGrpNo psg = .ok rdfGrpNo)
    (hi : L.rdfInfo = .ok (some sgRDF)) (hs : (csiAddonsSRDFPersonality sgRDF).isR1 ≠ true) :
    CanReturn L.answers h (deleteGroup id)
      (h ++ [⟨.rep (.getStorageGroup id.symID id.sgName), .ok (some sg)⟩] ++
        [⟨.getProtectedStorageGroup id.symID id.sgName, .ok (some psg)⟩] ++
        [⟨.getStorageGroupRDFInfo id.symID id.sgName rdfGrpNo, .ok (some sgRDF)⟩]) (.ok ()) := by
  refine canReturn_gives (.ok (some sg)) hsg.symm ?_
  refine canReturn_gives (.ok (some psg)) hp.symm ?_
  show CanReturn _ _ (ite ..) _ _
  rw [if_pos hrd, deleteProtectedVolumeGroup, hr]
  refine canReturn_gives (.ok (some sgRDF)) hi.symm ?_
  show CanReturn _ _ (ite ..) _ _
  rw [if_neg hs]
  exact canReturn_ret _

def lockedHistory (id : VolumeGroupID) (symIDs : List String) (body : AddonsHistory) :
    AddonsHistory :=
  [⟨.getPowerMaxClient symIDs, .ok ()⟩, ⟨.rep (.requestLock (csiAddonsSGLockHandle id)), .ok 0⟩] ++
    body ++ [⟨.rep (.releaseLock (csiAddonsSGLockHandle id) 0), ()⟩]

theorem mem_lockedHistory {body : AddonsHistory}
    {e : Entry AddonsCall AddonsAnswer} (he : e ∈ lockedHistory id symIDs body) :
    e ∈ body ∨ e.1 = .getPowerMaxClient symIDs ∨
      e.1 = .rep (.requestLock (csiAddonsSGLockHandle id)) ∨
        e.1 = .rep (.releaseLock (csiAddonsSGLockHandle id) 0) := by
  simp only [lockedHistory, mem_append, mem_cons, not_mem_nil, or_false] at he
  rcases he with ((rfl | rfl) | he) | rfl
  · exact .inr (.inl rfl)
  · exact .inr (.inr (.inl rfl))
  · exact .inl he
  · exact .inr (.inr (.inr rfl))

theorem locked_canReturn {rpc : String} {a : Except Failure α}
    {p : AddonsProg (Except Failure α)} {body : AddonsHistory}
    (hp : ∀ h, CanReturn L.answers h p (h ++ body) a) :
    CanReturn L.answers [] (withClient rpc symIDs (withSGLock id p))
      (lockedHistory id symIDs body) a := by
  refine canReturn_gives (.ok ()) trivial (canReturn_gives (.ok 0) trivial ?_)
  exact (hp _).bind (canReturn_gives () trivial (canReturn_ret _))

def removal (id : VolumeGroupID) (devIDs : List String) : Option String → AddonsCall
  | none => .removeVolumesFromStorageGroup id.symID id.sgName devIDs
  | some remoteSymID =>
    .removeVolumesFromProtectedStorageGroup id.symID id.sgName remoteSymID id.sgName devIDs

theorem changeMembers_removes (L : Lookups) (id : VolumeGroupID) (desired : List String)
    (remoteSymID : Option String) :
    ∃ devIDs, CanDo L (changeMembers id remoteSymID desired) (removal id devIDs remoteSymID) := by
  obtain ⟨devID, hd⟩ := Infinite.exists_notMem_finset desired.toFinset
  rw [mem_toFinset] at hd
  -- the array lists the desired members and one more
  let current := desired ++ [devID]
  have ha : desired.dedup.filter (· ∉ current) = [] := by
    rw [filter_eq_nil_iff]
    intro devID₁ hmem
    simp [current, mem_dedup.mp hmem]
  have hr : current.dedup.filter (· ∉ desired) ≠ [] := by
    simp [current, hd]
  refine ⟨current.dedup.filter (· ∉ desired), canDo_call (.ok current) trivial ?_⟩
  show CanDo L ((addMembers id remoteSymID (desired.dedup.filter (· ∉ current))).bind _) _
  rw [ha]
  show CanDo L (ite ..) _
  rw [if_neg hr]
  cases remoteSymID with
  | none => exact canDo_call_self
  | some remoteSymID => exact canDo_call_self

def CanGive (L : Lookups) (p : AddonsProg α) (a : α) : Prop :=
  ∀ h, ∃ h', CanReturn L.answers h p h' a

theorem canGive_ret (a : α) : CanGive L (ret a) a := fun h => ⟨h, canReturn_ret a⟩

theorem canGive_call {a : α} (r : AddonsAnswer c) (hr : L.Gives c r) (hk : CanGive L (k r) a) :
    CanGive L (.call c k) a := by
  intro h
  obtain ⟨h', hh'⟩ := hk (h ++ [⟨c, r⟩])
  exact ⟨h', canReturn_gives r hr hh'⟩

theorem CanGive.bind_canDo {β : Type} {f : α → AddonsProg β} {a : α} (hp : CanGive L p a)
    (hf : CanDo L (f a) c) : CanDo L (p.bind f) c := by
  intro h
  obtain ⟨h₁, hh₁⟩ := hp h
  obtain ⟨h₂, hh₂⟩ := hf h₁
  exact ⟨h₂, hh₁.bind_issue hh₂⟩

theorem modifyGroup_removes {volumeIDs desired : List String} {remoteSymID : Option String}
    (hd : desiredDevIDs volumeIDs = .ok desired)
    (hr : CanGive L (resolveProtection id) (.ok remoteSymID)) :
    ∃ devIDs, CanDo L (modifyGroup id volumeIDs) (removal id devIDs remoteSymID) := by
  obtain ⟨devIDs, hde⟩ := changeMembers_removes L id desired remoteSymID
  refine ⟨devIDs, hr.bind_canDo ?_⟩
  simp only [hd]
  exact hde.bind _

theorem resolveProtection_none
    (hp : ∀ psg, L.protectedGroup = .ok (some psg) → ¬ (psg.rdf = true ∧ id.rdfGrpNo ≠ "")) :
    CanGive L (resolveProtection id) (.ok none) := by
  refine canGive_call L.protectedGroup rfl ?_
  rcases hL : L.protectedGroup with err | (_ | psg)
  · exact canGive_ret _
  · exact canGive_ret _
  · show CanGive _ (ite ..) _
    rw [if_neg (hp psg hL)]
    exact canGive_ret _

theorem resolveRemote_gives (L : Lookups) (id : VolumeGroupID) :
    CanGive L (resolveRemote id) (.ok (L.rdfGroup.toOption.map (·.remoteSymmetrix))) := by
  refine canGive_call L.rdfGroup rfl ?_
  rcases L.rdfGroup with err | rdfInfo
  · exact canGive_ret _
  · exact canGive_call (.ok ()) trivial (canGive_ret _)

theorem resolveProtection_remote (hp : L.protectedGroup = .ok (some psg))
    (hr : psg.rdf = true ∧ id.rdfGrpNo ≠ "")
    (hi : ∀ sgRDF, L.rdfInfo = .ok (some sgRDF) → saysSource L.rdfInfo = true) :
    CanGive L (resolveProtection id) (.ok (L.rdfGroup.toOption.map (·.remoteSymmetrix))) := by
  refine canGive_call (.ok (some psg)) hp.symm ?_
  show CanGive _ (ite ..) _
  rw [if_pos hr]
  refine canGive_call L.rdfInfo rfl ?_
  rcases hL : L.rdfInfo with err | (_ | sgRDF)
  · exact resolveRemote_gives L id
  · exact resolveRemote_gives L id
  · have hs := hi sgRDF hL
    rw [hL] at hs
    show CanGive _ (ite ..) _
    rw [if_neg (by simpa [saysSource] using hs)]
    exact resolveRemote_gives L id

end

section

variable {L : Lookups} {id : VolumeGroupID} {vgID : String} {volumeIDs desired : List String}

theorem not_saysSource {r : Except PmaxError (Option SGRDFInfo)}
    (hr : ∀ sgRDF, r = .ok (some sgRDF) → False) : saysSource r ≠ true := by
  rcases r with err | (_ | sgRDF)
  · simp [saysSource]
  · simp [saysSource]
  · exact (hr sgRDF rfl).elim

theorem confirmed_of_reads {reads : AddonsHistory}
    (hs : SafeIn L.answers (Allowed id) (Reported id) []
      (withClient "DeleteVolumeGroup: " [id.symID] (withSGLock id (deleteGroup id))))
    (hrea : ∀ e ∈ reads, changedGroups e.1 = [])
    (hb : ∀ h, CanReturn L.answers h (deleteGroup id) (h ++ reads) (.ok ())) :
    saysAbsent L.storageGroup = true ∨
      saysTarget L.rdfInfo = true ∧ ∃ e ∈ reads, ∃ rdfGrpNo,
        e.1 = .getStorageGroupRDFInfo id.symID id.sgName rdfGrpNo := by
  have hre : CanReturn L.answers [] (withClient "DeleteVolumeGroup: " [id.symID]
      (withSGLock id (deleteGroup id))) (lockedHistory id [id.symID] reads) (.ok ()) :=
    locked_canReturn hb
  have hu : ¬ Changed (lockedHistory id [id.symID] reads) := by
    rintro ⟨e, he, hc⟩
    rcases mem_lockedHistory he with he | he | he | he
    · exact hc (hrea e he)
    all_goals
      rw [he] at hc
      exact hc rfl
  have hg := gives_of_consistent hre.choose_spec.1 (by simp)
  rcases hs.canReturn hre rfl hu with ⟨r, hmem, hr⟩ | ⟨rdfGrpNo, r, hmem, hr⟩
  · have hr' : r = L.storageGroup := hg _ hmem
    exact .inl (hr' ▸ hr)
  · have hr' : r = L.rdfInfo := hg _ hmem
    refine .inr ⟨hr' ▸ hr, ?_⟩
    rcases mem_lockedHistory hmem with he | he | he | he
    · exact ⟨_, he, rdfGrpNo, rfl⟩
    all_goals cases he

theorem deleteConfirmed_of_safeIn (hd : decodeVolumeGroupID vgID = .ok id)
    (hs : SafeIn L.answers (Allowed id) (Reported id) [] (deleteVolumeGroup vgID)) :
    L.DeleteConfirmed id := by
  rw [deleteVolumeGroup, hd] at hs
  unfold Lookups.DeleteConfirmed
  split
  case h_2 ho =>
    rcases confirmed_of_reads hs (by simp [changedGroups, repChangedGroups])
      (fun h => deleteGroup_absent ho) with ha | ⟨-, e, he, rdfGrpNo, hc⟩
    · exact ha
    · rw [mem_singleton.mp he] at hc
      cases hc
  case h_1 sg hsg =>
    split
    case h_2 ho =>
      obtain ⟨h, hh⟩ := locked_canDo (deleteGroup_removes hsg ho) []
      exact says_of_confirmedUnprotected hh (hs.canIssue hh)
    case h_1 psg hp =>
      intro hrd rdfGrpNo hr
      unfold Lookups.SideConfirmed
      split
      case h_1 sgRDF hi =>
        by_cases hso : (csiAddonsSRDFPersonality sgRDF).isR1 = true
        · exact .inl (by rw [hi]; exact hso)
        · have hb (h : AddonsHistory) := deleteGroup_target (h := h) hsg hp hrd hr hi hso
          simp only [append_assoc] at hb
          rcases confirmed_of_reads hs (by simp [changedGroups, repChangedGroups]) hb with
            ha | ⟨ht, -⟩
          · rw [hsg] at ha
            cases ha
          · exact .inr ht
      case h_2 ho =>
        rcases hg : L.rdfGroup with err | rdfInfo
        · exact ⟨err, rfl⟩
        · obtain ⟨h, hh⟩ :=
            locked_canDo (deleteGroup_suspends hsg hp hrd hr ho hg) []
          exact absurd (says_of_confirmedSource hh (hs.canIssue hh rfl)) (not_saysSource ho)

/-- What the array says if the removal for a remote array, or for none, is confirmed. -/
def Lookups.Says (L : Lookups) : Option String → Prop
  | none => saysUnprotected L.protectedGroup = true
  | some _ => saysSource L.rdfInfo = true

variable (hde : decodeVolumeGroupID vgID = .ok id) (hd : desiredDevIDs volumeIDs = .ok desired)

include hde hd

theorem removal_confirmed {remoteSymID : Option String}
    (hs : SafeIn L.answers (Allowed id) (fun _ _ => True) []
      (modifyVolumeGroupMembership vgID volumeIDs))
    (hr : CanGive L (resolveProtection id) (.ok remoteSymID)) : L.Says remoteSymID := by
  rw [modifyVolumeGroupMembership, hde] at hs
  obtain ⟨devIDs, hc⟩ := modifyGroup_removes hd hr
  obtain ⟨h, hh⟩ := locked_canDo hc []
  have ha := hs.canIssue hh
  cases remoteSymID with
  | none => exact says_of_confirmedUnprotected hh ha
  | some remoteSymID => exact says_of_confirmedSource hh ha

theorem modifyConfirmed_of_safeIn (hsa : SafeIn L.answers (Allowed id) (fun _ _ => True) []
      (modifyVolumeGroupMembership vgID volumeIDs)) : L.ModifyConfirmed id := by
  have hs {remoteSymID : Option String}
      (hr : CanGive L (resolveProtection id) (.ok remoteSymID)) : L.Says remoteSymID :=
    removal_confirmed hde hd hsa hr
  unfold Lookups.ModifyConfirmed
  split
  case h_2 ho =>
    exact hs (resolveProtection_none fun psg hps => absurd hps (ho psg))
  case h_1 psg hps =>
    intro hrd
    have hp : ¬ L.Says none := by
      simp [Lookups.Says, hps, saysUnprotected, hrd]
    have hno : id.rdfGrpNo ≠ "" := by
      intro hno
      exact hp (hs (resolveProtection_none fun _ _ h => h.2 hno))
    refine ⟨hno, ?_⟩
    split
    case h_1 sgRDF hi =>
      intro hso
      have hr := hs (resolveProtection_remote hps ⟨hrd, hno⟩ fun _ _ => hso)
      rcases hg : L.rdfGroup with err | rdfInfo
      · rw [hg] at hr
        exact absurd hr hp
      · exact ⟨rdfInfo, rfl⟩
    case h_2 ho =>
      have hr := hs (resolveProtection_remote hps ⟨hrd, hno⟩ fun sgRDF hi => absurd hi (ho sgRDF))
      rcases hg : L.rdfGroup with err | rdfInfo
      · rw [hg] at hr
        exact hp hr
      · rw [hg] at hr
        exact not_saysSource ho hr

omit hde hd

/-- The requests do only what the array has confirmed exactly for these answers to the look-ups. -/
theorem GroupRequest.confirmed_iff (L : Lookups) (req : GroupRequest) :
    req.Confirmed L ↔ req.Answered L := by
  cases req with
  | deleteVolumeGroup vgID =>
    constructor
    · intro hc id hde
      exact deleteConfirmed_of_safeIn hde (hc id hde)
    · intro ha id hde
      rw [Addons.deleteVolumeGroup, hde]
      refine withClient_safeIn (fun _ _ => reported_error) fun h => ?_
      refine withSGLock_safeIn (fun _ _ => reported_error) (fun h => ?_) fun _ _ _ hr => hr.append
      exact deleteGroup_safeIn (ha id hde)
  | modifyVolumeGroupMembership vgID volumeIDs =>
    constructor
    · intro hc id desired hde hd
      exact modifyConfirmed_of_safeIn hde hd (hc id hde)
    · intro ha id hde
      rw [Addons.modifyVolumeGroupMembership, hde]
      refine withClient_safeIn (fun _ _ => trivial) fun h => ?_
      refine withSGLock_safeIn (fun _ _ => trivial) (fun h => ?_) fun _ _ _ _ => trivial
      exact modifyGroup_safeIn fun desired hd => ha id desired hde hd

end

namespace ProtectionUnread

def lookups : Lookups where
  storageGroup := .ok (some ⟨"csi-rep-sg-addons-vg-13-ASYNC", "SRP_1", 1, 0, []⟩)
  protectedGroup := .error ⟨"503 Service Unavailable", true⟩
  rdfInfo := .ok (some ⟨["Consistent"], ["R1"]⟩)
  rdfGroup := .ok ⟨⟨true, 1⟩, "000197900047"⟩

/-- The volumes of a protected storage group are removed as if it were not protected. -/
theorem removed : ¬ ∀ (L : Lookups) (req : GroupRequest), req.Confirmed L := by
  intro hc
  let id : VolumeGroupID := ⟨"000197900046", "csi-rep-sg-addons-vg-13-ASYNC", "13"⟩
  have hs := hc lookups
    (.deleteVolumeGroup "000197900046:csi-rep-sg-addons-vg-13-ASYNC:13") id (by decide)
  obtain ⟨h, hr⟩ : ∃ h, CanIssue lookups.answers []
      (deleteVolumeGroup "000197900046:csi-rep-sg-addons-vg-13-ASYNC:13") h
      (.removeVolumesFromStorageGroup id.symID id.sgName ["00001"]) :=
    locked_canDo (deleteGroup_removes rfl fun _ hp => by cases hp) []
  have hsa := says_of_confirmedUnprotected hr (hs.canIssue hr)
  revert hsa
  decide

end ProtectionUnread

end PowerMaxCsi.Addons
