import PowerMaxCsi.Service.DeleteVolumeCalls
import PowerMaxCsi.Service.DeleteVolumeSafety
import PowerMaxCsi.Service.MetroHandle
import PowerMaxCsi.Service.MetroRollback

/-!
# Deleting a volume that was created in degraded mode

The handle of such a volume ends in a colon, and an `OpMetroPairing` is pending.  `DeleteVolume`
looks at neither (`namesDevices_iff`, `deleted_unpaired`).
-/

namespace PowerMaxCsi.Service

open Prog Set Relation

def MetroLegs.Degraded (m : MetroLegs) : Prop := m.devID ≠ "" ∧ m.remoteDevID = ""

def CtrlCall.device : CtrlCall → Option String
  | .pmax (.getVolumeByID _ dev) => some dev
  | .pmax (.renameVolume _ dev _) => some dev
  | .deletionQueueChan _ dev _ => some dev
  | _ => none

def NamesDevice (_ : Arrays) (c : CtrlCall) : Prop := c.device ≠ some ""

/-- Whatever the arrays answer, `DeleteVolume` names no empty device ID. -/
def NamesDevices (cfg : ServiceConfig) (w : Arrays) (id : String) : Prop :=
  ∀ w' c, CanIssue Arrays.answers w (deleteVolumeRequest cfg id) w' c → c.device ≠ some ""

section

variable {cfg : ServiceConfig} {w : Arrays}

theorem OnlyNames.namesDevice {c : CtrlCall}
    (hc : OnlyNames (fun _ dev => dev ≠ "") (fun _ dev => dev ≠ "") w c) : NamesDevice w c := by
  intro hd
  unfold CtrlCall.device at hd
  split at hd
  case h_1 sym dev => exact hc.1 sym dev rfl (Option.some.inj hd)
  case h_2 sym dev newName => exact hc.2 sym dev rfl (Option.some.inj hd)
  case h_3 sym dev volumeIdentifier => exact hc.2 sym dev rfl (Option.some.inj hd)
  case h_4 => cases hd

variable {m : MetroLegs}

theorem namesDevices_of_not_passes (hd : m.devID ≠ "")
    (hpa : ¬ LegPasses cfg w m.volName m.symID m.devID) : NamesDevices cfg w m.handle := by
  intro w' c hi
  have hsa := deleteVolumeRequest_safe (Q := fun _ dev => dev ≠ "") (P := fun _ dev => dev ≠ "")
    m.parseCsiID_handle hd (fun _ _ _ => hd) fun _ hp => absurd hp hpa
  exact (hsa.canIssue hi).namesDevice

/-- `DeleteVolume` of a degraded volume names no empty device ID if and only if its local leg does
not pass. -/
theorem namesDevices_iff (hm : m.Degraded) (hme : m.remoteSymID ≠ "") :
    NamesDevices cfg w m.handle ↔ ¬ LegPasses cfg w m.volName m.symID m.devID := by
  constructor
  · intro hn hp
    obtain ⟨w', hi⟩ := deleteVolumeRequest_canIssue m.parseCsiID_handle hme hp
    refine hn w' _ hi ?_
    exact congrArg some hm.2
  · exact namesDevices_of_not_passes hm.1

end

section

def MetroPairingOp.key (op : MetroPairingOp) : Journal.OpKey :=
  ⟨op.volumeID, .metroPairing, op.arrayID, op.rdfGroupNo⟩

def pairingsAsked (h : RepHistory) : Set Journal.OpKey :=
  {key | ∃ op answer, ⟨.createDeferredOperation op, answer⟩ ∈ h ∧ op.key = key}

def pairingsAccepted (h : RepHistory) : Set Journal.OpKey :=
  {key | ∃ op token, ⟨.createDeferredOperation op, .ok token⟩ ∈ h ∧ op.key = key}

def cleanupsAsked (h : History CtrlCall CtrlAnswer) : Set Journal.OpKey :=
  {key | ∃ e ∈ h, e.1.deferred = some key}

def cleanupsAccepted (h : History CtrlCall CtrlAnswer) : Set Journal.OpKey :=
  {key | ∃ token, ⟨.deferOperation key.operationType key.volumeID key.arrayID key.rdfGroupNo,
    .ok token⟩ ∈ h}

theorem pairingsAccepted_subset (h : RepHistory) : pairingsAccepted h ⊆ pairingsAsked h := by
  rintro key ⟨op, token, hmem, hk⟩
  exact ⟨op, .ok token, hmem, hk⟩

theorem cleanupsAccepted_subset (h : History CtrlCall CtrlAnswer) :
    cleanupsAccepted h ⊆ cleanupsAsked h := by
  rintro key ⟨token, hmem⟩
  exact ⟨_, hmem, rfl⟩

end

/-- The arrays, the operations that are pending in the journal, and the volumes. -/
structure Site where
  arrays : Arrays
  journal : Set Journal.OpKey
  /-- The handles that `createMetroVolume` has returned in degraded mode. -/
  degraded : Set String
  /-- The handles for which `DeleteVolume` has returned success. -/
  deleted : Set String

def Site.Pairing (s : Site) (id : String) : Prop :=
  ∃ key ∈ s.journal, key.operationType = .metroPairing ∧ key.volumeID = id

inductive SiteEvent where
  /-- `createMetroVolume`, with the calls that it makes and their answers. -/
  | create (req : MetroRequest) (h : RepHistory)
  | delete (id : String)
  | conclude (key : Journal.OpKey)
  | arrays

/-- One operation.  An operation that the journal does not accept may still have reached it. -/
inductive SiteStep (mcfg : MetroConfig) (cfg : ServiceConfig) : Site → SiteEvent → Site → Prop where
  | create {s : Site} {req : MetroRequest} {h : RepHistory} {response : CreateResponse}
      {arrays : Arrays} {journal : Set Journal.OpKey}
      (hexec : Exec (createMetroVolume mcfg req) h response)
      (hasked : journal ⊆ s.journal ∪ pairingsAsked h)
      (haccepted : s.journal ∪ pairingsAccepted h ⊆ journal) :
      SiteStep mcfg cfg s (.create req h)
        { s with
          arrays := arrays
          journal := journal
          degraded := s.degraded ∪
            {id | ∃ vol, response = .ok vol ∧ vol.remoteVolumeID = "" ∧ vol.volumeID = id} }
  | delete {s : Site} {id : String} {h : History CtrlCall CtrlAnswer} {response : DeleteResponse}
      {arrays : Arrays} {journal : Set Journal.OpKey}
      (hanswers : Consistent Arrays.answers s.arrays h arrays)
      (hexec : Exec (deleteVolumeRequest cfg id) h response)
      (hasked : journal ⊆ s.journal ∪ cleanupsAsked h)
      (haccepted : s.journal ∪ cleanupsAccepted h ⊆ journal) :
      SiteStep mcfg cfg s (.delete id)
        { s with
          arrays := arrays
          journal := journal
          deleted := s.deleted ∪ {id' | response = .success ∧ id' = id} }
  | conclude {s : Site} {key : Journal.OpKey} (hkey : key ∈ s.journal) :
      SiteStep mcfg cfg s (.conclude key) { s with journal := s.journal \ {key} }
  | arrays {s : Site} {arrays : Arrays} : SiteStep mcfg cfg s .arrays { s with arrays := arrays }

/-- A degraded volume is deleted only without a local device that `DeleteVolume` deletes and without
a pending pairing, and its handle is not used again. -/
def Careful (cfg : ServiceConfig) (s : Site) : SiteEvent → Prop
  | .create _ h => ∀ key ∈ pairingsAsked h, key.volumeID ∉ s.deleted
  | .delete id => ∀ m : MetroLegs, m.Degraded → m.handle = id →
      ¬ s.Pairing id ∧ ¬ LegPasses cfg s.arrays m.volName m.symID m.devID
  | .conclude _ => True
  | .arrays => True

section

variable {mcfg : MetroConfig} {cfg : ServiceConfig} {s s' : Site} {e : SiteEvent}

/-- Deleted handles stay, and what is pending afterwards was pending or asked for. -/
theorem SiteStep.unpaired (hst : SiteStep mcfg cfg s e s') (hc : Careful cfg s e)
    (hs : ∀ m : MetroLegs, m.Degraded → m.handle ∈ s.deleted → ¬ s.Pairing m.handle)
    (m : MetroLegs) (hm : m.Degraded) (hd : m.handle ∈ s'.deleted) : ¬ s'.Pairing m.handle := by
  rintro ⟨key, hk, hp, hv⟩
  cases hst with
  | create he ha hac =>
    rcases ha hk with hold | hn
    · exact hs m hm hd ⟨key, hold, hp, hv⟩
    · exact hc key hn (hv ▸ hd)
  | delete han he ha hac =>
    rcases ha hk with hold | ⟨entry, hen, hde⟩
    · rcases hd with hd | ⟨-, hid⟩
      · exact hs m hm hd ⟨key, hold, hp, hv⟩
      · exact (hc m hm hid).1 ⟨key, hold, hp, hv.trans hid⟩
    · have hcl := (deleteVolumeRequest_defers cfg _).exec he entry hen key hde
      rw [hp] at hcl
      cases hcl
  | conclude hco => exact hs m hm hd ⟨key, hk.1, hp, hv⟩
  | arrays => exact hs m hm hd ⟨key, hk, hp, hv⟩

end

def SiteRuns (mcfg : MetroConfig) (cfg : ServiceConfig) (s s' : Site) : Prop :=
  ∃ e, SiteStep mcfg cfg s e s'

def SiteRunsCarefully (mcfg : MetroConfig) (cfg : ServiceConfig) (s s' : Site) : Prop :=
  ∃ e, SiteStep mcfg cfg s e s' ∧ Careful cfg s e

/-- In every careful run no pairing is pending for a degraded volume that was deleted, and deleting
one names no empty device ID. -/
theorem deleted_unpaired (mcfg : MetroConfig) (cfg : ServiceConfig) (s₀ s : Site)
    (hin : s₀.deleted = ∅) (hr : Relation.ReflTransGen (SiteRunsCarefully mcfg cfg) s₀ s) :
    (∀ m : MetroLegs, m.Degraded → m.handle ∈ s.degraded → m.handle ∈ s.deleted →
      ¬ s.Pairing m.handle) ∧
    ∀ m : MetroLegs, m.Degraded → m.handle ∈ s.degraded → Careful cfg s (.delete m.handle) →
      NamesDevices cfg s.arrays m.handle := by
  have hu : ∀ m : MetroLegs, m.Degraded → m.handle ∈ s.deleted → ¬ s.Pairing m.handle := by
    induction hr with
    | refl =>
      intro m _ hd
      rw [hin] at hd
      exact hd.elim
    | tail _ hs ih =>
      obtain ⟨e, hs, hc⟩ := hs
      exact hs.unpaired hc ih
  exact ⟨fun m hm _ => hu m hm, fun m hm _ hc =>
    namesDevices_of_not_passes hm.1 (hc m hm rfl).2⟩

section

def degradedLegs : MetroLegs where
  volName := volumeIdentifier degradedConfig degradedRequest
  symID := "000001"
  remoteSymID := "000002"
  devID := "00A1"
  remoteDevID := ""
  named := by decide
  serials := by decide
  plainSym := by decide
  plainRemoteSym := by decide
  plainDev := by decide
  plainRemoteDev := by decide

theorem degradedLegs_degraded : degradedLegs.Degraded := ⟨by decide, rfl⟩

def pairingDeferred : RepHistory :=
  [⟨.getQueueStatus, ⟨false, false⟩⟩,
    ⟨.createDeferredOperation (pairingOp degradedConfig degradedRequest degradedVolume),
      .ok "token"⟩]

def degradedResponse : CreatedVolume where
  volumeID := degradedLegs.handle
  capacityCYL := 10
  storageGroup := localStorageGroupName degradedConfig degradedRequest
  remoteVolumeID := ""

theorem degradedRun_exec : Exec (createMetroVolume degradedConfig degradedRequest)
    (degradedRun deviceCreated pairingDeferred) (.ok degradedResponse) :=
  exec_of_follow (by decide +kernel)

def pairingKey : Journal.OpKey := (pairingOp degradedConfig degradedRequest degradedVolume).key

theorem pairingsAccepted_degradedRun :
    pairingsAccepted (degradedRun deviceCreated pairingDeferred) = {pairingKey} := by
  ext key
  constructor
  · rintro ⟨op, token, hmem, rfl⟩
    simp [degradedRun, deviceCreated, pairingDeferred] at hmem
    rw [hmem.1]
    rfl
  · rintro rfl
    refine ⟨_, "token", ?_, rfl⟩
    simp [degradedRun, pairingDeferred]

def localDevice : Arrays where
  volumes
    | "000001", "00A1" => some ⟨"00A1", degradedLegs.volName, [], false, false, 0⟩
    | _, _ => none
  storageGroups _ _ := none

def noDevices : Arrays := ⟨fun _ _ => none, fun _ _ => none⟩

def degradedService : ServiceConfig := ⟨["000001"], true⟩

theorem localDevice_passes :
    LegPasses degradedService localDevice degradedLegs.volName "000001" "00A1" := by
  refine ⟨_, rfl, ?_⟩
  exact ⟨nofun, .inr ⟨by decide, by decide, _, rfl⟩⟩

def createdSite (arrays : Arrays) : Site where
  arrays := arrays
  journal := ∅ ∪ pairingsAccepted (degradedRun deviceCreated pairingDeferred)
  degraded := ∅ ∪ {id | ∃ vol, (Except.ok degradedResponse : CreateResponse) = .ok vol ∧
    vol.remoteVolumeID = "" ∧ vol.volumeID = id}
  deleted := ∅

theorem createdSite_step (arrays : Arrays) :
    SiteStep degradedConfig degradedService ⟨noDevices, ∅, ∅, ∅⟩
      (.create degradedRequest (degradedRun deviceCreated pairingDeferred))
      (createdSite arrays) :=
  .create degradedRun_exec (union_subset_union_right _ (pairingsAccepted_subset _))
    Subset.rfl

theorem mem_createdSite_degraded (arrays : Arrays) :
    degradedLegs.handle ∈ (createdSite arrays).degraded :=
  .inr ⟨degradedResponse, rfl, rfl, rfl⟩

def absentDelete : History CtrlCall CtrlAnswer :=
  [⟨.getPowerMaxClient "000001" "000002", .ok ()⟩,
    ⟨.checkAndUpdatePendingState degradedLegs.handle, .ok ()⟩,
    ⟨.requireProbe, .ok ()⟩,
    ⟨.pmax (.getVolumeByID "000001" "00A1"), .error ⟨cannotBeFound, false⟩⟩,
    ⟨.pmax (.getFileSystemByID "000001" "00A1"), .error ⟨cannotBeFound, false⟩⟩]

theorem absentDelete_consistent : Consistent Arrays.answers noDevices absentDelete noDevices :=
  .cons rfl (.cons rfl (.cons rfl (.cons ⟨rfl, fun h => absurd rfl h⟩ (.cons rfl .nil))))

theorem absentDelete_exec :
    Exec (deleteVolumeRequest degradedService degradedLegs.handle) absentDelete .success :=
  exec_of_follow (by decide +kernel)

def concludedSite : Site :=
  { createdSite noDevices with journal := (createdSite noDevices).journal \ {pairingKey} }

theorem concludedSite_not_pairing (id : String) : ¬ concludedSite.Pairing id := by
  rintro ⟨key, ⟨hk | hk, hne⟩, -⟩
  · exact hk
  · rw [pairingsAccepted_degradedRun] at hk
    exact hne hk

def deletedSite : Site :=
  { concludedSite with
    arrays := noDevices
    journal := concludedSite.journal ∪ cleanupsAccepted absentDelete
    deleted := concludedSite.deleted ∪
      {id | DeleteResponse.success = .success ∧ id = degradedLegs.handle} }

theorem deletedSite_run : Relation.ReflTransGen (SiteRunsCarefully degradedConfig degradedService)
    ⟨noDevices, ∅, ∅, ∅⟩ deletedSite := by
  have hcr : SiteRunsCarefully degradedConfig degradedService ⟨noDevices, ∅, ∅, ∅⟩
      (createdSite noDevices) := by
    refine ⟨_, createdSite_step noDevices, fun key _ hd => ?_⟩
    exact hd.elim
  have hc : SiteRunsCarefully degradedConfig degradedService (createdSite noDevices)
      concludedSite := by
    refine ⟨.conclude pairingKey, .conclude (.inr ?_), trivial⟩
    rw [pairingsAccepted_degradedRun]
    rfl
  have hde : SiteRunsCarefully degradedConfig degradedService concludedSite deletedSite := by
    refine ⟨.delete degradedLegs.handle, .delete absentDelete_consistent absentDelete_exec
      (union_subset_union_right _ (cleanupsAccepted_subset _)) Subset.rfl, ?_⟩
    intro m hm hid
    refine ⟨concludedSite_not_pairing _, ?_⟩
    rintro ⟨v, hv, -⟩
    cases hv
  exact ((ReflTransGen.single hcr).tail hc).tail hde

theorem deletedSite_unpaired : degradedLegs.handle ∈ deletedSite.deleted ∧
    ¬ deletedSite.Pairing degradedLegs.handle := by
  have hd : degradedLegs.handle ∈ deletedSite.deleted := .inr ⟨rfl, rfl⟩
  have hc := deleted_unpaired degradedConfig degradedService ⟨noDevices, ∅, ∅, ∅⟩ deletedSite rfl
    deletedSite_run
  exact ⟨hd, hc.1 degradedLegs degradedLegs_degraded (mem_createdSite_degraded noDevices) hd⟩

theorem deleteVolumeRequest_canReturn {cfg : ServiceConfig} {w : Arrays} {m : MetroLegs}
    (hm : m.remoteSymID ≠ "") (hp : LegPasses cfg w m.volName m.symID m.devID) :
    ∃ w', CanReturn Arrays.answers w (deleteVolumeRequest cfg m.handle) w' .success := by
  obtain ⟨w', hl⟩ := deleteVolume_canReturn hp
  obtain ⟨v, hv, -⟩ := hp
  refine ⟨w', ?_⟩
  simp only [deleteVolumeRequest, m.parseCsiID_handle]
  refine canReturn_ask (.ok ()) rfl ?_
  refine canReturn_ask (.ok ()) rfl ?_
  refine canReturn_ask (.ok ()) rfl ?_
  refine canReturn_ask _ (answers_getVolumeByID hv) ?_
  refine hl.bind ?_
  simp only [MetroLegs.csiID, ne_eq, hm]
  refine canReturn_ask (.error ⟨cannotBeFound, false⟩) (.inl rfl) ?_
  exact canReturn_ret _

/-- The pairing is left behind, and the call names the empty device ID. -/
theorem degradedLegs_orphaned :
    ¬ (∀ mcfg cfg s₀ s, s₀.deleted = ∅ → Relation.ReflTransGen (SiteRuns mcfg cfg) s₀ s →
      ∀ m : MetroLegs, m.Degraded → m.handle ∈ s.degraded → m.handle ∈ s.deleted →
        ¬ s.Pairing m.handle) ∧
    ¬ ∀ mcfg cfg s₀ s, s₀.deleted = ∅ → Relation.ReflTransGen (SiteRuns mcfg cfg) s₀ s →
      ∀ m : MetroLegs, m.Degraded → m.handle ∈ s.degraded →
        NamesDevices cfg s.arrays m.handle := by
  have hcr : SiteRuns degradedConfig degradedService ⟨noDevices, ∅, ∅, ∅⟩
      (createdSite localDevice) := ⟨_, createdSite_step localDevice⟩
  have hm : degradedLegs.remoteSymID ≠ "" := by decide
  constructor
  · intro hc
    obtain ⟨w', h, ha, he⟩ :=
      deleteVolumeRequest_canReturn hm localDevice_passes
    have hd : SiteStep degradedConfig degradedService (createdSite localDevice)
        (.delete degradedLegs.handle) _ :=
      .delete ha he (union_subset_union_right _ (cleanupsAccepted_subset _)) Subset.rfl
    refine hc degradedConfig degradedService ⟨noDevices, ∅, ∅, ∅⟩ _ rfl
      ((ReflTransGen.single hcr).tail ⟨_, hd⟩) degradedLegs degradedLegs_degraded
        (mem_createdSite_degraded localDevice) (.inr ⟨rfl, rfl⟩) ?_
    refine ⟨pairingKey, .inl (.inr ?_), rfl, rfl⟩
    rw [pairingsAccepted_degradedRun]
    rfl
  · intro hc
    have hn := hc degradedConfig degradedService ⟨noDevices, ∅, ∅, ∅⟩ _ rfl
      (ReflTransGen.single hcr) degradedLegs degradedLegs_degraded
        (mem_createdSite_degraded localDevice)
    exact (namesDevices_iff degradedLegs_degraded hm).mp hn localDevice_passes

end

end PowerMaxCsi.Service
