import PowerMaxCsi.Service.CreateMetroVolume

/-!
# What a failed creation deletes

When the pairing of a degraded volume cannot be put off, `createMetroVolume` deletes the device of
the volume, which it has created unless the scan has found one that is not paired.
-/

namespace PowerMaxCsi.Service

open Prog List

/-! ## What the arrays have answered -/

section

variable (req : MetroRequest)

def CreatedIn (h : RepHistory) (symID devID : String) : Prop :=
  ∃ sgID identifier cylinders, ∃ vol : SizedVolume,
    ⟨.createVolumeInStorageGroupS symID sgID identifier cylinders, .ok vol⟩ ∈ h ∧
      vol.volumeID = devID

def pairEntry (devID : String) (answer : Except PmaxError String) : Entry RepCall RepAnswer :=
  ⟨.getRDFDevicePairInfo req.symID req.localRDFGrpNo devID, answer⟩

def remoteEntry (remoteDevID : String) (vol : SizedVolume) : Entry RepCall RepAnswer :=
  ⟨.getVolumeByID req.remoteSymID remoteDevID, .ok vol⟩

/-- A device with the identifier and size of the volume, in its storage group, has no remote device,
or one in less than two storage groups. -/
def Unpaired (h : RepHistory) : Prop :=
  (∃ devID answer, pairEntry req devID answer ∈ h ∧ remoteOf answer = .ok none) ∨
    ∃ devID answer remoteDevID, ∃ vol : SizedVolume,
      [pairEntry req devID answer, remoteEntry req remoteDevID vol] <:+: h ∧
        remoteOf answer = .ok (some remoteDevID) ∧ vol.storageGroupIDList.length < 2

/-- The last call has asked for the remote device, which is this one. -/
def Asked (h : RepHistory) (remoteDevID : String) : Prop :=
  ∃ devID answer, [pairEntry req devID answer] <:+ h ∧ remoteOf answer = .ok (some remoteDevID)

variable {req} {h : RepHistory} {e : Entry RepCall RepAnswer}

theorem pair_infix_concat {a b : Entry RepCall RepAnswer} :
    [a, b] <:+: h ++ [e] ↔ [a, b] <:+: h ∨ b = e ∧ [a] <:+ h := by
  rw [infix_concat_iff, suffix_concat_iff, or_comm]
  refine or_congr Iff.rfl ?_
  constructor
  · rintro (hnil | ⟨t, ht, hs⟩)
    · cases hnil
    · obtain ⟨rfl, hb⟩ := append_inj' (show [a] ++ [b] = t ++ [e] from ht) rfl
      exact ⟨singleton_injective hb, hs⟩
  · rintro ⟨rfl, hs⟩
    exact .inr ⟨[a], rfl, hs⟩

theorem unpaired_concat : Unpaired req (h ++ [e]) ↔ Unpaired req h ∨
    (∃ devID answer, pairEntry req devID answer = e ∧ remoteOf answer = .ok none) ∨
      ∃ remoteDevID, ∃ vol : SizedVolume, Asked req h remoteDevID ∧
        remoteEntry req remoteDevID vol = e ∧ vol.storageGroupIDList.length < 2 := by
  simp only [Unpaired, pair_infix_concat, mem_append, mem_singleton]
  constructor
  · rintro (⟨devID, answer, hmem | rfl, hn⟩ |
      ⟨devID, answer, remoteDevID, vol, hi | ⟨rfl, hs⟩, hso, hl⟩)
    · exact .inl (.inl ⟨devID, answer, hmem, hn⟩)
    · exact .inr (.inl ⟨devID, answer, rfl, hn⟩)
    · exact .inl (.inr ⟨devID, answer, remoteDevID, vol, hi, hso, hl⟩)
    · exact .inr (.inr ⟨remoteDevID, vol, ⟨devID, answer, hs, hso⟩, rfl, hl⟩)
  · rintro ((⟨devID, answer, hmem, hn⟩ | ⟨devID, answer, remoteDevID, vol, hi, hr⟩) |
      ⟨devID, answer, rfl, hn⟩ | ⟨remoteDevID, vol, ⟨devID, answer, hs, hso⟩, rfl, hl⟩)
    · exact .inl ⟨devID, answer, .inl hmem, hn⟩
    · exact .inr ⟨devID, answer, remoteDevID, vol, .inl hi, hr⟩
    · exact .inl ⟨devID, answer, .inr rfl, hn⟩
    · exact .inr ⟨devID, answer, remoteDevID, vol, .inr ⟨rfl, hs⟩, hso, hl⟩

theorem asked_concat {remoteDevID : String} : Asked req (h ++ [e]) remoteDevID ↔
    ∃ devID answer, pairEntry req devID answer = e ∧ remoteOf answer = .ok (some remoteDevID) := by
  refine exists_congr fun devID => exists_congr fun answer => and_congr_left fun _ => ?_
  rw [suffix_concat_iff]
  constructor
  · rintro (hnil | ⟨t, ht, -⟩)
    · cases hnil
    · exact singleton_injective (append_inj' (show [] ++ [_] = t ++ [e] from ht) rfl).2
  · rintro rfl
    exact .inr ⟨[], rfl, nil_suffix⟩

theorem createdIn_concat {symID devID : String} : CreatedIn (h ++ [e]) symID devID ↔
    CreatedIn h symID devID ∨ ∃ sgID identifier cylinders, ∃ vol : SizedVolume,
      ⟨.createVolumeInStorageGroupS symID sgID identifier cylinders, .ok vol⟩ = e ∧
        vol.volumeID = devID := by
  simp [CreatedIn, or_and_right, exists_or]

end

/-! ## Calls that show nothing -/

/-- The calls that neither create or delete a device nor ask for one. -/
def RepCall.quiet : RepCall → Bool
  | .getVolumeByID _ _ | .getRDFDevicePairInfo _ _ _ | .createVolumeInStorageGroupS _ _ _ _
  | .deleteVolume _ _ => false
  | _ => true

/-- The calls that neither create nor delete a device nor ask for its remote device. -/
def RepCall.early : RepCall → Bool
  | .getRDFDevicePairInfo _ _ _ | .createVolumeInStorageGroupS _ _ _ _ | .deleteVolume _ _ => false
  | _ => true

/-- A device that is deleted was created in the call, unless an unpaired one was found. -/
def RollbackIssue (req : MetroRequest) (h : RepHistory) : RepCall → Prop
  | .deleteVolume symID devID => CreatedIn h symID devID ↔ ¬ Unpaired req h
  | _ => True

section

variable {req : MetroRequest} {h : RepHistory} {c : RepCall} {r : RepAnswer c}

theorem unpaired_quiet (hc : c.quiet = true) : Unpaired req (h ++ [⟨c, r⟩]) ↔ Unpaired req h := by
  rw [unpaired_concat]
  refine or_iff_left ?_
  rintro (⟨devID, answer, heq, -⟩ | ⟨remoteDevID, vol, -, heq, -⟩)
  all_goals
    obtain ⟨rfl, -⟩ := Sigma.mk.inj heq
    cases hc

theorem createdIn_quiet (hc : c.quiet = true) {symID devID : String} :
    CreatedIn (h ++ [⟨c, r⟩]) symID devID ↔ CreatedIn h symID devID := by
  rw [createdIn_concat]
  refine or_iff_left ?_
  rintro ⟨sgID, identifier, cylinders, vol, heq, -⟩
  obtain ⟨rfl, -⟩ := Sigma.mk.inj heq
  cases hc

structure Scanning (req : MetroRequest) (isLocalVolumePresent : Bool) (h : RepHistory) : Prop where
  present : isLocalVolumePresent = true ↔ Unpaired req h
  closed : ∀ remoteDevID, ¬ Asked req h remoteDevID
  uncreated : ∀ symID devID, ¬ CreatedIn h symID devID

theorem Scanning.nil : Scanning req false [] := by
  refine ⟨⟨nofun, ?_⟩, ?_, ?_⟩
  · rintro (⟨_, _, hmem, -⟩ | ⟨_, _, _, _, hi, -⟩)
    · cases hmem
    · cases infix_nil.mp hi
  · rintro _ ⟨_, _, hs, -⟩
    cases suffix_nil.mp hs
  · rintro _ _ ⟨_, _, _, _, hmem, -⟩
    cases hmem

theorem Scanning.early {present : Bool} (hh : Scanning req present h) (hc : c.early = true) :
    Scanning req present (h ++ [⟨c, r⟩]) := by
  refine ⟨hh.present.trans ⟨fun hu => unpaired_concat.mpr (.inl hu), ?_⟩, ?_, ?_⟩
  · rw [unpaired_concat]
    rintro (hu | ⟨_, _, heq, -⟩ | ⟨_, _, ha, -⟩)
    · exact hu
    · obtain ⟨rfl, -⟩ := Sigma.mk.inj heq
      cases hc
    · exact absurd ha (hh.closed _)
  · intro remoteDevID
    rw [asked_concat]
    rintro ⟨_, _, heq, -⟩
    obtain ⟨rfl, -⟩ := Sigma.mk.inj heq
    cases hc
  · intro symID devID
    rw [createdIn_concat]
    rintro (hcr | ⟨_, _, _, _, heq, -⟩)
    · exact hh.uncreated symID devID hcr
    · obtain ⟨rfl, -⟩ := Sigma.mk.inj heq
      cases hc

/-- The device of the volume was created unless one that is not paired was found. -/
def Settled (req : MetroRequest) (devID : String) (h : RepHistory) : Prop :=
  CreatedIn h req.symID devID ↔ ¬ Unpaired req h

theorem Settled.quiet {devID : String} (hh : Settled req devID h) (hc : c.quiet = true) :
    Settled req devID (h ++ [⟨c, r⟩]) := by
  unfold Settled
  rw [createdIn_quiet hc, unpaired_quiet hc]
  exact hh

end

section

variable {req : MetroRequest} {h : RepHistory} {α : Type} {p : RepProg α}

theorem rollbackIssue_early {c : RepCall} (hc : c.early = true) : RollbackIssue req h c := by
  cases c with
  | deleteVolume => cases hc
  | _ => trivial

theorem rollbackIssue_quiet {c : RepCall} (hc : c.quiet = true) : RollbackIssue req h c := by
  cases c with
  | deleteVolume => cases hc
  | _ => trivial

theorem safe_kept (hp : Calls (fun c => c.quiet = true) p) :
    Safe (RollbackIssue req) (fun _ _ => True) h p :=
  Safe.of_calls trivial hp fun _ _ hc _ => ⟨rollbackIssue_quiet hc, fun _ => trivial⟩

theorem safe_early {present : Bool} (hh : Scanning req present h)
    (hp : Calls (fun c => c.early = true) p) :
    Safe (RollbackIssue req) (fun h' _ => Scanning req present h') h p :=
  Safe.of_calls hh hp fun _ _ hc hh => ⟨rollbackIssue_early hc, fun _ => hh.early hc⟩

theorem safe_quiet {devID : String} (hh : Settled req devID h)
    (hp : Calls (fun c => c.quiet = true) p) :
    Safe (RollbackIssue req) (fun h' _ => Settled req devID h') h p :=
  Safe.of_calls hh hp fun _ _ hc hh => ⟨rollbackIssue_quiet hc, fun _ => hh.quiet hc⟩

end

/-! ## The calls of the helpers -/

section

variable {P : RepCall → Prop}

theorem withLock_calls {α : Type} {handle : String} {refused : String → Failure}
    {body : RepProg (Except Failure α)} (hr : P (.requestLock handle))
    (hre : ∀ lockNum, P (.releaseLock handle lockNum)) (hb : Calls P body) :
    Calls P (withLock handle refused body) := by
  refine ⟨hr, ?_⟩
  rintro (err | lockNum)
  · trivial
  · exact hb.bind fun _ => ⟨hre lockNum, fun _ => trivial⟩

theorem lookUpSource_early (req : MetroRequest) (requiredCylinders : Nat) (source : Source)
    (symmID srcDevID : String) :
    Calls (fun c => c.early = true) (lookUpSource req requiredCylinders source symmID srcDevID) := by
  refine ⟨rfl, ?_⟩
  rintro (_ | err)
  · refine Calls.ite (Calls.ite trivial ⟨rfl, ?_⟩) trivial
    rintro (err | srcVol)
    · trivial
    · exact Calls.ite trivial trivial
  · trivial

theorem contentSource_early (req : MetroRequest) (requiredCylinders : Nat) :
    Calls (fun c => c.early = true) (contentSource req requiredCylinders) := by
  unfold contentSource
  split
  · trivial
  · trivial
  all_goals
    refine Calls.ite (lookUpSource_early ..) ?_
    split
    · trivial
    · trivial
    · exact lookUpSource_early ..

theorem getOrCreateProtectedStorageGroup_early
    (symID localProtectionGroupID localRDFGrpNo repMode : String) :
    Calls (fun c => c.early = true)
      (getOrCreateProtectedStorageGroup symID localProtectionGroupID localRDFGrpNo repMode) := by
  refine withLock_calls rfl (fun _ => rfl) ⟨rfl, ?_⟩
  rintro (err | rdf)
  · refine Calls.ite trivial ⟨rfl, ?_⟩
    rintro (err | ids)
    · trivial
    · show Calls _ (Prog.bind (.ret (ids.findSome? _)) _)
      cases ids.findSome? (protectionGroupConflict localRDFGrpNo repMode) with
      | some err => trivial
      | none =>
        refine ⟨rfl, ?_⟩
        rintro (err | _) <;> trivial
  · trivial

theorem verifyProtectedGroupDirection_early (symID localProtectionGroupID localRdfGrpNo : String) :
    Calls (fun c => c.early = true)
      (verifyProtectedGroupDirection symID localProtectionGroupID localRdfGrpNo) := by
  refine ⟨rfl, ?_⟩
  rintro (err | ⟨states, _ | ⟨rdfType, rdfTypes⟩⟩)
  · trivial
  · trivial
  · exact Calls.ite trivial trivial

theorem ensureMetroStorageGroup_early (req : MetroRequest)
    (symID storageGroupName srpID serviceLevel : String) :
    Calls (fun c => c.early = true)
      (ensureMetroStorageGroup req symID storageGroupName srpID serviceLevel) := by
  refine ⟨rfl, ?_⟩
  rintro (err | _ | sg)
  case ok.some => trivial
  all_goals
    refine ⟨rfl, ?_⟩
    rintro (err | _) <;> trivial

theorem addVolumesToProtectedStorageGroup_quiet
    (symID localProtectionGroupID remoteSymID remoteProtectionGroupID volID : String) :
    Calls (fun c => c.quiet = true) (addVolumesToProtectedStorageGroup symID localProtectionGroupID
      remoteSymID remoteProtectionGroupID volID) := by
  refine withLock_calls rfl (fun _ => rfl) ⟨rfl, ?_⟩
  rintro (err | _) <;> trivial

theorem verifyAndDeleteRemoteStorageGroup_quiet (remoteSymID remoteStorageGroupName : String) :
    Calls (fun c => c.quiet = true)
      (verifyAndDeleteRemoteStorageGroup remoteSymID remoteStorageGroupName) := by
  refine ⟨rfl, ?_⟩
  rintro (err | _ | sg)
  · trivial
  · trivial
  · refine Calls.ite trivial ⟨rfl, ?_⟩
    rintro (err | _) <;> trivial

variable (symID remoteSymID storageGroupName remoteStorageGroupName remoteServiceLevel rdfGrpNo
  rdfMode : String) (bias : Bool)

theorem createReplica_quiet :
    Calls (fun c => c.quiet = true) (createReplica symID remoteSymID storageGroupName
      remoteStorageGroupName remoteServiceLevel rdfGrpNo rdfMode bias) := by
  refine ⟨rfl, ?_⟩
  rintro (err | rdfg)
  · trivial
  · refine Calls.ite trivial ((verifyAndDeleteRemoteStorageGroup_quiet ..).bind ?_)
    rintro (_ | err)
    · refine ⟨rfl, ?_⟩
      rintro (err | _) <;> trivial
    · trivial

theorem protectStorageGroup_quiet :
    Calls (fun c => c.quiet = true) (protectStorageGroup symID remoteSymID storageGroupName
      remoteStorageGroupName remoteServiceLevel rdfGrpNo rdfMode bias) := by
  refine withLock_calls rfl (fun _ => rfl) ⟨rfl, ?_⟩
  rintro (err | _ | _)
  · trivial
  · exact createReplica_quiet ..
  · trivial

theorem protect_quiet (cfg : MetroConfig) (req : MetroRequest) (vol : SizedVolume) :
    Calls (fun c => c.quiet = true) (protect cfg req vol) := by
  refine (protectStorageGroup_quiet ..).bind ?_
  rintro ((err | _) | _)
  · refine Calls.bind (?_ : Calls _ (isRemoteUnreachable cfg req err)) ?_
    · refine Calls.ite trivial (Calls.ite trivial ⟨rfl, fun _ => trivial⟩)
    · rintro (_ | _)
      · exact ⟨rfl, fun _ => trivial⟩
      · trivial
  · trivial
  · trivial

theorem preflight_quiet (cfg : MetroConfig) (req : MetroRequest) :
    Calls (fun c => c.quiet = true) (preflight cfg req) := by
  refine Calls.ite ⟨rfl, ?_⟩ trivial
  rintro (_ | err)
  · exact ⟨rfl, fun _ => trivial⟩
  · trivial

theorem deferPairing_quiet (cfg : MetroConfig) (op : MetroPairingOp) :
    Calls (fun c => c.quiet = true) (deferPairing cfg op) := by
  refine Calls.ite trivial ⟨rfl, fun qs => ?_⟩
  exact Calls.ite ⟨rfl, fun _ => trivial⟩
    (Calls.ite ⟨rfl, fun _ => ⟨rfl, fun _ => trivial⟩⟩ ⟨rfl, fun _ => trivial⟩)

theorem linkSource_quiet (req : MetroRequest) (source : Source) (vol : SizedVolume) :
    Calls (fun c => c.quiet = true) (linkSource req source vol) := by
  refine Calls.ite ?_ (Calls.ite ?_ trivial)
  · split
    · trivial
    · refine ⟨rfl, ?_⟩
      rintro (_ | err) <;> trivial
  · split
    · trivial
    · refine Calls.bind (?_ : Calls _ (linkVolume req _ vol)) ?_
      · refine ⟨rfl, ?_⟩
        rintro (_ | _)
        · exact ⟨rfl, fun _ => trivial⟩
        · exact ⟨rfl, fun _ => trivial⟩
      · rintro (_ | err) <;> trivial

end

section

variable {req : MetroRequest} {h : RepHistory} {cfg : MetroConfig} {source : Source}
  {requiredCylinders : Nat}

def ScannedPost (req : MetroRequest) (h : RepHistory) : Scanned → Prop
  | .done _ => True
  | .next scan => Scanning req scan.isLocalVolumePresent h

variable {devID : String} {scan : Scan} {present : Bool}
  {answer : RepAnswer (.getRDFDevicePairInfo req.symID req.localRDFGrpNo devID)}

theorem Scanning.alone (hh : Scanning req present h) (ha : remoteOf answer = .ok none) :
    Scanning req true (h ++ [⟨.getRDFDevicePairInfo req.symID req.localRDFGrpNo devID, answer⟩]) := by
  refine ⟨iff_of_true rfl ?_, ?_, ?_⟩
  · exact unpaired_concat.mpr (.inr (.inl ⟨devID, answer, rfl, ha⟩))
  · intro remoteDevID
    rw [asked_concat]
    rintro ⟨_, _, heq, hs⟩
    cases heq
    rw [ha] at hs
    cases hs
  · intro symID devID
    rw [createdIn_concat]
    rintro (hc | ⟨_, _, _, _, heq, -⟩)
    · exact hh.uncreated symID devID hc
    · cases heq

theorem Scanning.pair {remoteDevID : String} {vol : SizedVolume} (hh : Scanning req present h)
    (ha : remoteOf answer = .ok (some remoteDevID)) (hl : vol.storageGroupIDList.length < 2) :
    Scanning req true (h ++ [⟨.getRDFDevicePairInfo req.symID req.localRDFGrpNo devID, answer⟩] ++
      [⟨.getVolumeByID req.remoteSymID remoteDevID, .ok vol⟩]) := by
  refine ⟨iff_of_true rfl ?_, ?_, ?_⟩
  · refine unpaired_concat.mpr (.inr (.inr ⟨remoteDevID, vol, ?_, rfl, hl⟩))
    exact asked_concat.mpr ⟨devID, answer, rfl, ha⟩
  · intro remoteDevID
    rw [asked_concat]
    rintro ⟨_, _, heq, -⟩
    cases heq
  · intro symID devID
    rw [createdIn_concat, createdIn_concat]
    rintro ((hc | ⟨_, _, _, _, heq, -⟩) | ⟨_, _, _, _, heq, -⟩)
    · exact hh.uncreated symID devID hc
    · cases heq
    · cases heq

theorem scanPair_safe {vol : SizedVolume} {remoteVolumeID : String}
    (hs : Scanning req scan.isLocalVolumePresent h)
    (ha : remoteOf answer = .ok (some remoteVolumeID)) : Safe (RollbackIssue req) (ScannedPost req)
      (h ++ [⟨.getRDFDevicePairInfo req.symID req.localRDFGrpNo devID, answer⟩])
      (scanPair cfg req source scan vol remoteVolumeID) := by
  refine ⟨trivial, ?_⟩
  rintro (err | remoteVol)
  · trivial
  refine ⟨trivial, ?_⟩
  rintro (_ | err)
  case some => trivial
  refine .ite (fun hl => (hs.pair ha hl).early rfl) fun _ => ?_
  -- The device is complete, and the request is answered whatever the links say.
  refine Safe.bind (safe_kept (Calls.ite (linkSource_quiet ..) trivial)) ?_
  rintro h' (failure | _) - -
  · trivial
  · trivial

theorem scanVolume_safe {volumeID : String} (hs : Scanning req scan.isLocalVolumePresent h) :
    Safe (RollbackIssue req) (ScannedPost req) h
      (scanVolume cfg req source requiredCylinders scan volumeID) := by
  refine ⟨trivial, ?_⟩
  rintro (err | vol)
  · trivial
  have hr := hs.early (c := .getVolumeByID req.symID volumeID) (r := .ok vol) rfl
  refine .ite (fun _ => trivial) fun _ => ?_
  split
  · exact hr
  split
  · exact hr
  split
  · exact hr
  refine ⟨trivial, fun answer => ?_⟩
  simp only [ret_bind]
  split
  case h_1 => trivial
  case h_2 ha => exact hr.alone ha
  case h_3 remoteVolumeID ha => exact scanPair_safe hr ha

theorem scanVolumes_safe {volumeIDList : List String}
    (hs : Scanning req scan.isLocalVolumePresent h) :
    Safe (RollbackIssue req) (ScannedPost req) h
      (scanVolumes cfg req source requiredCylinders scan volumeIDList) := by
  induction volumeIDList generalizing h scan with
  | nil => exact hs
  | cons volumeID rest ih =>
    refine Safe.bind (scanVolume_safe hs) ?_
    rintro h' (response | scan') - hp
    · trivial
    · exact ih hp

end

section

variable {req : MetroRequest} {h : RepHistory} {cfg : MetroConfig} {source : Source}
  {requiredCylinders : Nat} {isSGUnprotected : Bool} {storageGroupName : String}
  {vol : SizedVolume}

theorem enterDegradedMode_safe (hv : Settled req vol.volumeID h) :
    Safe (RollbackIssue req) (fun _ _ => True) h
      (enterDegradedMode cfg req storageGroupName vol) := by
  refine ⟨trivial, fun _ => ⟨trivial, fun answer => ?_⟩⟩
  show Safe _ _ _ (Prog.bind (deferPairing cfg (pairingOp cfg req vol)) _)
  refine Safe.bind (safe_quiet ((hv.quiet rfl).quiet rfl) (deferPairing_quiet ..)) ?_
  rintro h' (deferErr | name) - hv'
  · exact ⟨hv', fun _ => trivial⟩
  · trivial

theorem completePair_safe : Safe (RollbackIssue req) (fun _ _ => True) h
    (completePair cfg req source storageGroupName vol) := by
  refine ⟨trivial, ?_⟩
  rintro (err | remoteVolumeID)
  · trivial
  refine ⟨trivial, ?_⟩
  rintro (err | _ | r2PSG)
  · trivial
  · trivial
  show Safe _ _ _ (Prog.bind (ite ..) _)
  refine Safe.bind (safe_kept (Calls.ite (p := Prog.ask _) ⟨rfl, fun _ => trivial⟩ trivial)) ?_
  rintro h' (err | _) - -
  · trivial
  refine ⟨trivial, ?_⟩
  rintro (err | _)
  · trivial
  refine ⟨trivial, ?_⟩
  rintro (_ | err)
  · show Safe _ _ _ (Prog.bind (linkSource ..) _)
    refine Safe.bind (safe_kept (linkSource_quiet ..)) ?_
    rintro h' (failure | _) - -
    · trivial
    · trivial
  · trivial

theorem protectVolume_safe (hv : Settled req vol.volumeID h) :
    Safe (RollbackIssue req) (fun _ _ => True) h
      (protectVolume cfg req source isSGUnprotected storageGroupName vol) := by
  refine .ite (fun _ => ?_) fun _ => completePair_safe
  refine Safe.bind (safe_quiet hv (preflight_quiet ..)) ?_
  rintro h' (err | remoteUnreachable) - hv'
  · trivial
  refine Safe.bind (safe_quiet hv' (Calls.ite trivial (protect_quiet ..))) ?_
  rintro h'' (response | _ | _) - hv''
  · trivial
  · exact completePair_safe
  · exact enterDegradedMode_safe hv''

theorem addProtected_safe (hv : Settled req vol.volumeID h) :
    Safe (RollbackIssue req) (fun _ _ => True) h
      (addProtected cfg req source isSGUnprotected storageGroupName vol) := by
  refine Safe.bind (safe_quiet hv
    (Calls.ite (addVolumesToProtectedStorageGroup_quiet ..) trivial)) ?_
  rintro h' (failure | _) - hv'
  · trivial
  · exact protectVolume_safe hv'

theorem Scanning.settled (hh : Scanning req true h) (devID : String) : Settled req devID h :=
  iff_of_false (hh.uncreated _ _) (not_not_intro (hh.present.mp rfl))

variable (hh : Scanning req false h)

include hh

theorem Scanning.created {sgID identifier : String} {cylinders : Int} :
    Settled req vol.volumeID
      (h ++ [⟨.createVolumeInStorageGroupS req.symID sgID identifier cylinders, .ok vol⟩]) := by
  refine iff_of_true ?_ ?_
  · exact createdIn_concat.mpr (.inr ⟨sgID, identifier, cylinders, vol, rfl, rfl⟩)
  · rw [unpaired_concat]
    rintro (hu | ⟨_, _, heq, -⟩ | ⟨_, _, -, heq, -⟩)
    · cases hh.present.mpr hu
    · cases heq
    · cases heq

theorem createDevice_safe :
    Safe (RollbackIssue req) (fun _ _ => True) h
      (createDevice cfg req source requiredCylinders isSGUnprotected) := by
  refine ⟨trivial, ?_⟩
  rintro (err | volumeIDList)
  · trivial
  show Safe _ _ _ (Prog.bind (scanVolumes ..) _)
  refine Safe.bind (scanVolumes_safe (hh.early rfl)) ?_
  rintro h' (response | ⟨name, vol, alreadyExists, isLocalVolumePresent⟩) - hs
  · trivial
  dsimp only
  split
  · trivial
  split
  case isTrue hp =>
    obtain rfl : isLocalVolumePresent = true := hp
    rcases vol with _ | vol
    · trivial
    · exact addProtected_safe (hs.settled vol.volumeID)
  case isFalse hp =>
    obtain rfl : isLocalVolumePresent = false := eq_false_of_ne_true hp
    refine ⟨trivial, ?_⟩
    rintro (err | vol)
    · trivial
    · exact addProtected_safe hs.created

theorem createInGroups_safe :
    Safe (RollbackIssue req) (fun _ _ => True) h
      (createInGroups cfg req source requiredCylinders isSGUnprotected) := by
  refine Safe.bind (safe_early hh (ensureMetroStorageGroup_early ..)) ?_
  rintro h' (_ | failure) - hh'
  case some => trivial
  refine Safe.bind (safe_early hh' (ensureMetroStorageGroup_early ..)) ?_
  rintro h'' (_ | failure) - hh''
  · exact createDevice_safe hh''
  · trivial

theorem createProtected_safe :
    Safe (RollbackIssue req) (fun _ _ => True) h
      (createProtected cfg req source requiredCylinders) := by
  refine Safe.bind (safe_early hh (getOrCreateProtectedStorageGroup_early ..)) ?_
  rintro h' ((err | _) | _ | _) - hh'
  · trivial
  · trivial
  · exact createInGroups_safe hh'
  · refine Safe.bind (safe_early hh' (verifyProtectedGroupDirection_early ..)) ?_
    rintro h'' (failure | _) - hh''
    · trivial
    · exact createInGroups_safe hh''

omit hh

theorem createMetroVolume_safe (cfg : MetroConfig) (req : MetroRequest) :
    Safe (RollbackIssue req) (fun _ _ => True) [] (createMetroVolume cfg req) := by
  have hh : Scanning req false [] := .nil
  refine ⟨trivial, ?_⟩
  rintro (err | _)
  · trivial
  refine ⟨trivial, ?_⟩
  rintro (err | requiredCylinders)
  · trivial
  refine ⟨trivial, ?_⟩
  rintro (err | remoteCylinders)
  · trivial
  show Safe _ _ _ (Prog.bind (contentSource ..) _)
  refine Safe.bind (safe_early (((hh.early rfl).early rfl).early rfl) (contentSource_early ..)) ?_
  rintro h (failure | source) - hh
  · trivial
  dsimp only
  split
  · trivial
  split
  · trivial
  · exact createProtected_safe hh

end

/-- A device that is deleted was created by the same call if and only if no device of the volume was
found that is not paired. -/
theorem deletes_created_iff (cfg : MetroConfig) (req : MetroRequest) (h : RepHistory)
    (symID devID : String) (hd : Issues (createMetroVolume cfg req) h (.deleteVolume symID devID)) :
    CreatedIn h symID devID ↔ ¬ Unpaired req h := by
  exact (createMetroVolume_safe cfg req).issues hd

/-! ## Two requests at the queue limit -/

def degradedConfig : MetroConfig := ⟨"abc", true, true, true, "csi-powermax", "uid"⟩

def degradedRequest : MetroRequest :=
  ⟨"pvc", none, false, "SRP_1", "000001", "", "Diamond", "", "000002", "10", "11", "Diamond",
    "SRP_1", "", "", "", "", ⟨"", "", ""⟩⟩

def degradedVolume : SizedVolume where
  volumeID := "00A1"
  volumeIdentifier := volumeIdentifier degradedConfig degradedRequest
  storageGroupIDList := [localStorageGroupName degradedConfig degradedRequest]
  snapSource := false
  snapTarget := false
  numberOfFrontEndPaths := 0
  capacityCYL := 10

/-- The volume is created on the local array alone.  The parameters are what the arrays and the
journal answer. -/
def degradedRun (device journal : RepHistory) : RepHistory :=
  let cfg := degradedConfig
  let req := degradedRequest
  let lock := req.localProtectionGroupID ++ req.symID
  [⟨.getPowerMaxClient "000001" "000002", .ok ()⟩,
    ⟨.validateVolSize "000001" "SRP_1", .ok 10⟩,
    ⟨.validateVolSize "000002" "SRP_1", .ok 10⟩,
    ⟨.requestLock lock, .ok 0⟩,
    ⟨.getProtectedStorageGroup "000001" req.localProtectionGroupID, .ok false⟩,
    ⟨.releaseLock lock 0, ()⟩,
    ⟨.getStorageGroup "000001" (localStorageGroupName cfg req), .ok (some ⟨"", "", 0, 0, []⟩)⟩,
    ⟨.getStorageGroup "000002" (remoteStorageGroupName cfg req), .ok (some ⟨"", "", 0, 0, []⟩)⟩] ++
  device ++
  [⟨.requestLock lock, .ok 1⟩,
    ⟨.addVolumesToProtectedStorageGroup "000001" req.localProtectionGroupID "000002"
      req.remoteProtectionGroupID "00A1", .ok ()⟩,
    ⟨.releaseLock lock 1, ()⟩,
    ⟨.logMetroStateCheck "000001" "000002" "10" "11", none⟩,
    ⟨.getState "000002", .unreachable⟩,
    ⟨.emitMetroEvent "MetroDegradedStateEntry", ()⟩,
    ⟨.removeVolumesFromStorageGroup "000001" req.localProtectionGroupID "00A1", .ok ()⟩] ++
  journal

def deviceCreated : RepHistory :=
  [⟨.getVolumeIDList "000001" (volumeIdentifier degradedConfig degradedRequest), .ok []⟩,
    ⟨.createVolumeInStorageGroupS "000001" (localStorageGroupName degradedConfig degradedRequest)
      (volumeIdentifier degradedConfig degradedRequest) 10, .ok degradedVolume⟩]

def deviceUnpaired : RepHistory :=
  [⟨.getVolumeIDList "000001" (volumeIdentifier degradedConfig degradedRequest), .ok ["00A1"]⟩,
    ⟨.getVolumeByID "000001" "00A1", .ok degradedVolume⟩,
    ⟨.getRDFDevicePairInfo "000001" "10" "00A1",
      .error ⟨"The device must be an RDF device", false⟩⟩]

def queueFull : RepHistory :=
  [⟨.getQueueStatus, ⟨true, true⟩⟩, ⟨.emitMetroEvent "MetroQueueFull", ()⟩]

def firstRun : RepHistory := degradedRun deviceCreated queueFull

def retryRun : RepHistory := degradedRun deviceUnpaired queueFull

theorem firstRun_deletes_created :
    CreatedIn firstRun "000001" "00A1" ↔ ¬ Unpaired degradedRequest firstRun :=
  deletes_created_iff degradedConfig degradedRequest firstRun "000001" "00A1"
    (issues_of_follow (by decide +kernel))

/-- The retried request deletes the device that an earlier one has created. -/
theorem retryRun_deletes_existing :
    ¬ ∀ (cfg : MetroConfig) (req : MetroRequest) (h : RepHistory) (symID devID : String),
      Issues (createMetroVolume cfg req) h (.deleteVolume symID devID) →
        CreatedIn h symID devID := by
  intro hc
  have hd : Issues (createMetroVolume degradedConfig degradedRequest) retryRun
      (.deleteVolume "000001" "00A1") := issues_of_follow (by decide +kernel)
  obtain ⟨sgID, identifier, cylinders, vol, hmem, -⟩ := hc _ _ _ _ _ hd
  simp [retryRun, degradedRun, deviceUnpaired, queueFull] at hmem

end PowerMaxCsi.Service
