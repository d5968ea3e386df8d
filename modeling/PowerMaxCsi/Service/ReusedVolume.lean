import PowerMaxCsi.Service.IdempotentCreate

/-!
# The local volume that is reused

A device that passes the checks but has no remote device is noted in `isLocalVolumePresent`, and the
volume that is then in `vol`, the one read last, is paired.
-/

namespace PowerMaxCsi.Service

open Prog Strings Scanned

/-! ## The verdicts on a list of devices -/

section

variable (check : String → SizedVolumeEnhanced → Check)

/-- The devices of a list, each with what the checks say when its turn comes. -/
def judged : String → List SizedVolumeEnhanced → List (SizedVolumeEnhanced × Check)
  | _, [] => []
  | name, vol :: rest =>
    (vol, check name vol) :: judged (nameAfter name vol.storageGroups) rest

def Passed (name : String) (vols : List SizedVolumeEnhanced) (volumeID : String) : Prop :=
  ∃ vol, (vol, .passes) ∈ judged check name vols ∧ vol.id = volumeID

/-- If a device passes the checks then the last one does, unless the request fails: a device is in
no storage group, or has another size. -/
def LastPassed (name : String) (vols : List SizedVolumeEnhanced) : Prop :=
  (∀ p ∈ judged check name vols, p.2 = .other ∨ p.2 = .passes) →
    (∃ volumeID, Passed check name vols volumeID) →
      ∀ last ∈ vols.getLast?, Passed check name vols last.id

end

/-! ## Reading one device after the other -/

/-- The checks of a scan, as a function of the name and the device. -/
abbrev Checks := String → SizedVolumeEnhanced → Check

/-- What a device that is read leaves if the loop goes on. -/
def reads (check : Checks) (scan : Scan) (vol : SizedVolume) : Option Scan :=
  let scan' : Scan :=
    { scan with
      storageGroupName := nameAfter scan.storageGroupName vol.listed.storageGroups
      vol := some vol }
  match check scan.storageGroupName vol.listed with
  | .noGroups => none
  | .other => some scan'
  | .otherSize => some { scan' with alreadyExists := true }
  | .passes => some { scan' with isLocalVolumePresent := true }

def readAll (check : Checks) : Scan → List SizedVolume → Option Scan
  | scan, [] => some scan
  | scan, vol :: rest => (reads check scan vol).bind fun scan' => readAll check scan' rest

section

variable {check : Checks} {scan scan' final : Scan} {vol : SizedVolume} {vols : List SizedVolume}

theorem reads_eq_some (h : reads check scan vol = some scan') :
    scan'.storageGroupName = nameAfter scan.storageGroupName vol.listed.storageGroups ∧
      scan'.vol = some vol ∧ check scan.storageGroupName vol.listed ≠ .noGroups ∧
      (scan'.isLocalVolumePresent = true ↔ scan.isLocalVolumePresent = true ∨
        check scan.storageGroupName vol.listed = .passes) ∧
      (scan'.alreadyExists = true ↔ scan.alreadyExists = true ∨
        check scan.storageGroupName vol.listed = .otherSize) := by
  cases hc : check scan.storageGroupName vol.listed <;> simp only [reads, hc] at h
  · cases h
  all_goals
    cases h
    simp

theorem reads_isSome (h : check scan.storageGroupName vol.listed ≠ .noGroups) :
    ∃ scan', reads check scan vol = some scan' := by
  cases hc : check scan.storageGroupName vol.listed with
  | noGroups => exact absurd hc h
  | _ => simp [reads, hc]

theorem readAll_eq_some (h : readAll check scan vols = some final) :
    (∀ p ∈ judged check scan.storageGroupName (vols.map (·.listed)), p.2 ≠ .noGroups) ∧
      final.vol = vols.getLast?.or scan.vol ∧
      (final.isLocalVolumePresent = true ↔ scan.isLocalVolumePresent = true ∨
        ∃ p ∈ judged check scan.storageGroupName (vols.map (·.listed)), p.2 = .passes) ∧
      (final.alreadyExists = true ↔ scan.alreadyExists = true ∨
        ∃ p ∈ judged check scan.storageGroupName (vols.map (·.listed)), p.2 = .otherSize) := by
  induction vols generalizing scan with
  | nil =>
    cases h
    simp [judged]
  | cons vol rest ih =>
    obtain ⟨scan', hv, hr⟩ := Option.bind_eq_some_iff.mp h
    obtain ⟨hn, hs, hg, hp, he⟩ := reads_eq_some hv
    obtain ⟨hg', hl, hp', he'⟩ := ih hr
    rw [hn] at hg' hp' he'
    simp only [List.map_cons, judged, List.forall_mem_cons, List.exists_mem_cons_iff]
    refine ⟨⟨hg, hg'⟩, ?_, ?_, ?_⟩
    · rw [hl, hs, List.getLast?_cons]
      cases rest.getLast? <;> rfl
    · rw [hp', hp, or_assoc]
    · rw [he', he, or_assoc]

theorem readAll_isSome
    (h : ∀ p ∈ judged check scan.storageGroupName (vols.map (·.listed)), p.2 ≠ .noGroups) :
    ∃ final, readAll check scan vols = some final := by
  induction vols generalizing scan with
  | nil => exact ⟨scan, rfl⟩
  | cons vol rest ih =>
    simp only [List.map_cons, judged, List.forall_mem_cons] at h
    obtain ⟨scan', hs'⟩ := reads_isSome h.1
    have hn := (reads_eq_some hs').1
    obtain ⟨final, hf⟩ := ih (hn ▸ h.2)
    exact ⟨final, by rw [readAll, hs', Option.bind_some, hf]⟩

/-- The reused volume passed the checks just if the last device of the list does. -/
theorem lastPassed_iff {name : String} :
    (∀ final vol, readAll check ⟨name, none, false, false⟩ vols = some final →
        final.isLocalVolumePresent = true → final.alreadyExists = false → final.vol = some vol →
          Passed check name (vols.map (·.listed)) vol.volumeID) ↔
      LastPassed check name (vols.map (·.listed)) := by
  constructor
  · rintro h hv ⟨volumeID, passed, hpa, -⟩ last hl
    have hg : ∀ p ∈ judged check name (vols.map (·.listed)), p.2 ≠ .noGroups := by
      intro p hp hn
      rcases hv p hp with heq | heq <;> rw [heq] at hn <;> cases hn
    have hr : ∃ final, readAll check ⟨name, none, false, false⟩ vols = some final :=
      readAll_isSome hg
    obtain ⟨final, hf⟩ := hr
    obtain ⟨-, hvol, hpr, he⟩ := readAll_eq_some hf
    rw [List.getLast?_map] at hl
    obtain ⟨vol, hvo, rfl⟩ := Option.map_eq_some_iff.mp hl
    refine h final vol hf (hpr.mpr (.inr ⟨_, hpa, rfl⟩)) ?_ ?_
    · rw [← Bool.not_eq_true, he]
      rintro (hfa | ⟨p, hp, hs⟩)
      · cases hfa
      · rcases hv p hp with heq | heq <;> rw [heq] at hs <;> cases hs
    · rw [hvol, hvo]
      rfl
  · intro h final vol hf hpr he hvol
    obtain ⟨hg, hl, hpr', he'⟩ := readAll_eq_some hf
    have hv : ∀ p ∈ judged check name (vols.map (·.listed)), p.2 = .other ∨ p.2 = .passes := by
      intro p hp
      cases hp2 : p.2 with
      | noGroups => exact absurd hp2 (hg p hp)
      | other => exact .inl rfl
      | otherSize =>
        rw [he'.mpr (.inr ⟨p, hp, hp2⟩)] at he
        cases he
      | passes => exact .inr rfl
    obtain ⟨p, hp, hp2⟩ := (hpr'.mp hpr).resolve_left Bool.false_ne_true
    refine h hv ⟨p.1.id, p.1, hp2 ▸ hp, rfl⟩ vol.listed ?_
    rw [List.getLast?_map]
    rw [hvol, Option.or_none] at hl
    rw [← hl]
    rfl

end

/-! ## The devices of an array -/

structure Devices where
  listed : List SizedVolumeEnhanced
  volumeIDs : List String
  read : String → SizedVolume

namespace Devices

def inOrder (devices : Devices) : List SizedVolume := devices.volumeIDs.map devices.read

def repAnswers (devices : Devices) (symID : String) :
    Unit → (c : RepCall) → RepAnswer c → Unit → Prop
  | _, .getVolumeIDList _ _, r, _ => r = .ok devices.volumeIDs
  | _, .getVolumeByID symID' volumeID, r, _ => symID' = symID → r = .ok (devices.read volumeID)
  | _, _, _, _ => True

def answers (devices : Devices) (symID : String) :
    Unit → (c : CreateCall) → CreateAnswer c → Unit → Prop
  | w, .rep c, r, w' => devices.repAnswers symID w c r w'
  | _, .getVolumesByIdentifier _ _, r, _ => r = .ok devices.listed
  | _, _, _, _ => True

theorem freeOtherwise (devices : Devices) (symID : String) :
    FreeOtherwise (devices.answers symID) := by
  intro w c r hc
  cases c with
  | getVolumesByIdentifier symID identifier => cases hc
  | rep c =>
    cases c with
    | getVolumeIDList symID identifier => cases hc
    | getVolumeByID symID volumeID => cases hc
    | _ => trivial
  | _ => trivial

end Devices

/-! ## The scan of a volume that is not a Metro one -/

namespace Prepared

variable (prep : Prepared) (devices : Devices)

def candidates : List SizedVolumeEnhanced :=
  if prep.enhanced then devices.listed else devices.inOrder.map (·.listed)

/-- The scan ends with the volume, which `afterScan` goes on with. -/
def Reuses (vol : SizedVolume) : Prop :=
  ∃ final, CanReturn (devices.answers prep.req.symID) () prep.idempotencyScan () (.next final) ∧
    final.isLocalVolumePresent = true ∧ final.alreadyExists = false ∧ final.vol = some vol

/-- The local volume that is reused is one that passed the checks. -/
def ReusesPassed : Prop :=
  ∀ vol, prep.Reuses devices vol →
    Passed prep.check prep.storageGroupName (prep.candidates devices) vol.volumeID

variable {prep devices} {vol : SizedVolume}

theorem afterScan_of_present {final : Scan}
    (hp : final.isLocalVolumePresent = true) (he : final.alreadyExists = false)
    (hv : final.vol = some vol) :
    prep.afterScan final = prep.complete final.storageGroupName vol := by
  simp [afterScan, hp, he, hv]

theorem scanByID_safe (scan : Scan) (volumeID : String) (w : Unit) :
    Yields (devices.answers prep.req.symID) (fun _ verdict => verdict.Sat
        (fun _ => True) fun scan' => reads prep.check scan (devices.read volumeID) = some scan') w
      (prep.scanByID scan volumeID) := by
  refine ⟨trivial, ?_⟩
  intro r w₁ ha
  obtain rfl : r = .ok (devices.read volumeID) := ha rfl
  exact yields_sat (scanDevice_safe prep { scan with vol := some (devices.read volumeID) } volumeID
    (devices.read volumeID).listed id (some (devices.read volumeID)) prep.req.symmIDFoundInAZ w₁)
    (fun _ _ => trivial) fun _ => id

theorem canReturn_scanByID (hre : prep.req.replicationEnabled = true) {scan scan' : Scan}
    {volumeID : String} (h : reads prep.check scan (devices.read volumeID) = some scan') :
    CanReturn (devices.answers prep.req.symID) () (prep.scanByID scan volumeID) ()
      (.next scan') := by
  have hd : CanReturn (devices.answers prep.req.symID) () (prep.scanDevice
      { scan with vol := some (devices.read volumeID) } volumeID (devices.read volumeID).listed id
      (some (devices.read volumeID)) prep.req.symmIDFoundInAZ) () (.next scan') :=
    canReturn_scanDevice_next (devices.freeOtherwise _) hre h
  have hr : devices.answers prep.req.symID () (.rep (.getVolumeByID prep.req.symID volumeID))
      (.ok (devices.read volumeID)) () := fun _ => rfl
  exact canReturn_ask _ hr hd

theorem scanAll_scanByID_safe (volumeIDs : List String) (scan : Scan) :
    Yields (devices.answers prep.req.symID) (fun _ verdict => verdict.Sat
        (fun _ => True) fun final =>
          readAll prep.check scan (volumeIDs.map devices.read) = some final) ()
      (scanAll prep.scanByID scan volumeIDs) := by
  -- what the rest of the list leaves is what the whole list leaves
  refine (scanAll_safe (I := fun rest scan' => readAll prep.check scan (volumeIDs.map devices.read) =
    readAll prep.check scan' (rest.map devices.read)) ?_ volumeIDs scan () rfl)
  intro w volumeID rest scan₁ hs₁
  refine yields_sat (scanByID_safe scan₁ volumeID w) (fun _ => id) fun scan' h => ?_
  rw [hs₁]
  show (reads prep.check scan₁ (devices.read volumeID)).bind _ = _
  rw [h, Option.bind_some]

theorem canReturn_scanAll_scanByID (hre : prep.req.replicationEnabled = true) {final : Scan}
    {volumeIDs : List String} {scan : Scan}
    (h : readAll prep.check scan (volumeIDs.map devices.read) = some final) :
    CanReturn (devices.answers prep.req.symID) () (scanAll prep.scanByID scan volumeIDs) ()
      (.next final) := by
  induction volumeIDs generalizing scan with
  | nil =>
    cases h
    exact canReturn_ret _
  | cons volumeID rest ih =>
    obtain ⟨scan', hs', hr⟩ := Option.bind_eq_some_iff.mp h
    exact canReturn_scanAll_next (canReturn_scanByID hre hs') (ih hr)

theorem reuses_iff_readAll (hre : prep.req.replicationEnabled = true) (he : prep.enhanced = false) :
    prep.Reuses devices vol ↔
      ∃ final, readAll prep.check prep.start devices.inOrder = some final ∧
        final.isLocalVolumePresent = true ∧ final.alreadyExists = false ∧ final.vol = some vol := by
  have hb : ¬ prep.enhanced = true := Bool.eq_false_iff.mp he
  constructor
  · rintro ⟨final, hf, hr⟩
    have hs : Yields (devices.answers prep.req.symID) (fun _ verdict =>
        verdict.Sat (fun _ => True) fun final =>
          readAll prep.check prep.start devices.inOrder = some final) () prep.idempotencyScan := by
      rw [idempotencyScan, if_neg hb]
      refine ⟨trivial, ?_⟩
      rintro r ⟨⟩ ha
      obtain rfl : r = .ok devices.volumeIDs := ha
      exact scanAll_scanByID_safe devices.volumeIDs prep.start
    exact ⟨final, hs.canReturn hf, hr⟩
  · rintro ⟨final, hf, hr⟩
    refine ⟨final, ?_, hr⟩
    rw [idempotencyScan, if_neg hb]
    exact canReturn_ask (.ok devices.volumeIDs) rfl (canReturn_scanAll_scanByID hre hf)

theorem scanDevice_unreplicated (hr : ¬ prep.req.replicationEnabled = true) (scan : Scan)
    (listedID : String) (vol : SizedVolumeEnhanced) (target : Option SizedVolume)
    (zoneLabels : Bool) (w : Unit) :
    Yields (devices.answers prep.req.symID) (fun _ verdict => verdict.Sat
        (fun _ => True) fun scan' => scan'.isLocalVolumePresent = scan.isLocalVolumePresent) w
      (prep.scanDevice scan listedID vol id target zoneLabels) := by
  cases hc : prep.check scan.storageGroupName vol <;> simp only [scanDevice, hc]
  · trivial
  · rfl
  · rfl
  · rw [remoteVolume, if_pos hr]
    refine (safeIn_true (prep.linkExisting target vol.id)).bind ?_
    rintro w₁ (failure | _) - <;> trivial

theorem not_reuses_of_unreplicated (hr : ¬ prep.req.replicationEnabled = true)
    (he : prep.enhanced = false) (vol : SizedVolume) : ¬ prep.Reuses devices vol := by
  rintro ⟨final, hf, hp, -, -⟩
  have hs : Yields (devices.answers prep.req.symID) (fun _ verdict =>
      verdict.Sat (fun _ => True) fun final => final.isLocalVolumePresent = false) ()
      prep.idempotencyScan := by
    rw [idempotencyScan, if_neg (Bool.eq_false_iff.mp he)]
    refine ⟨trivial, ?_⟩
    rintro (err | volumeIDs) w₁ -
    · trivial
    · refine scanAll_safe (I := fun _ scan => scan.isLocalVolumePresent = false) ?_ volumeIDs
        prep.start w₁ rfl
      intro w volumeID rest scan hsc
      refine ⟨trivial, ?_⟩
      rintro (err | vol) w₂ -
      · trivial
      · refine yields_sat (scanDevice_unreplicated hr _ _ _ _ _ w₂) (fun _ => id) ?_
        exact fun scan' h => h.trans hsc
  rw [hs.canReturn hf] at hp
  cases hp

theorem passed_of_enhanced (he : prep.enhanced = true) (h : prep.Reuses devices vol) :
    Passed prep.check prep.storageGroupName devices.listed vol.volumeID := by
  -- the device that is noted is among those that have had their turn
  let I (rest : List SizedVolumeEnhanced) (scan : Scan) : Prop :=
    (∀ p ∈ judged prep.check scan.storageGroupName rest,
      p ∈ judged prep.check prep.storageGroupName devices.listed) ∧
    (scan.isLocalVolumePresent = true → ∃ vol, scan.vol = some vol ∧
      Passed prep.check prep.storageGroupName devices.listed vol.volumeID)
  have hs (w : Unit) (eachVol : SizedVolumeEnhanced) (rest : List SizedVolumeEnhanced)
      (scan : Scan) (hsc : I (eachVol :: rest) scan) :
      Yields (devices.answers prep.req.symID) (fun _ verdict => verdict.Sat
        (fun _ => True) (I rest)) w (prep.scanEnhanced scan eachVol) := by
    obtain ⟨hj, hn⟩ := hsc
    simp only [judged, List.forall_mem_cons] at hj
    refine yields_sat (scanDevice_safe prep scan eachVol.id eachVol _ scan.vol false w)
      (fun _ _ => trivial) fun scan' hl => ?_
    have hna : scan'.storageGroupName = nameAfter scan.storageGroupName eachVol.storageGroups := by
      refine leaves_storageGroupName ?_ hl
      exact fun _ => rfl
    refine ⟨hna ▸ hj.2, fun hpr => ?_⟩
    cases hc : prep.check scan.storageGroupName eachVol <;> simp only [leaves, hc] at hl
    · cases hl
    · cases hl
      exact hn hpr
    · cases hl
      exact hn hpr
    · cases hl
      exact ⟨_, rfl, eachVol, hc ▸ hj.1, rfl⟩
  have hsa : Yields (devices.answers prep.req.symID) (fun _ verdict =>
      verdict.Sat (fun _ => True) (I [])) () prep.idempotencyScan := by
    rw [idempotencyScan, if_pos he]
    refine ⟨trivial, ?_⟩
    intro r w₁ ha
    obtain rfl : r = .ok devices.listed := ha
    refine scanAll_safe hs devices.listed prep.start w₁ ⟨fun p hp => hp, fun hpr => ?_⟩
    cases hpr
  obtain ⟨final, hf, hpr, -, hv⟩ := h
  have hn : I [] final := hsa.canReturn hf
  obtain ⟨vol', hv', hpa⟩ := hn.2 hpr
  obtain rfl : vol = vol' := Option.some.inj (hv.symm.trans hv')
  exact hpa

/-- The reused volume passed the checks, unless devices are read one by one for a replicated volume
and the last one did not pass. -/
theorem reusesPassed_iff :
    prep.ReusesPassed devices ↔
      (prep.req.replicationEnabled = true → prep.enhanced = false →
        LastPassed prep.check prep.storageGroupName (devices.inOrder.map (·.listed))) := by
  rw [ReusesPassed]
  cases he : prep.enhanced with
  | true =>
    rw [candidates, if_pos he]
    refine ⟨fun _ _ h => ?_, fun _ vol => passed_of_enhanced he⟩
    cases h
  | false =>
    rw [candidates, if_neg (Bool.eq_false_iff.mp he)]
    by_cases hr : prep.req.replicationEnabled = true
    · simp only [hr, forall_const, reuses_iff_readAll hr he, ← lastPassed_iff]
      constructor
      · intro h final vol hf hp hex hv
        exact h vol ⟨final, hf, hp, hex, hv⟩
      · rintro h vol ⟨final, hf, hp, hex, hv⟩
        exact h final vol hf hp hex hv
    · exact ⟨fun _ h => absurd h hr, fun _ vol h => absurd h (not_reuses_of_unreplicated hr he vol)⟩

end Prepared

/-! ## The scan of a Metro volume -/

section

variable (cfg : MetroConfig) (req : MetroRequest) (source : Source) (requiredCylinders : Nat)
  (devices : Devices)

def metroCheck : Checks :=
  idempotenceCheck (volumeIdentifiersMatch (volumeIdentifier cfg req)) requiredCylinders

/-- The scan ends with the volume, which `createDevice` goes on with. -/
def MetroReuses (vol : SizedVolume) : Prop :=
  ∃ final, CanReturn (devices.repAnswers req.symID) () (scanVolumes cfg req source
      requiredCylinders ⟨localStorageGroupName cfg req, none, false, false⟩ devices.volumeIDs) ()
      (.next final) ∧
    final.isLocalVolumePresent = true ∧ final.alreadyExists = false ∧ final.vol = some vol

/-- The local volume that is reused for a Metro volume is one that passed the checks. -/
def MetroReusesPassed : Prop :=
  ∀ vol, MetroReuses cfg req source requiredCylinders devices vol →
    Passed (metroCheck cfg req requiredCylinders) (localStorageGroupName cfg req)
      (devices.inOrder.map (·.listed)) vol.volumeID

variable {cfg req source requiredCylinders devices}

theorem scanPair_present (scan : Scan) (vol : SizedVolume) (remoteVolumeID : String) (w : Unit) :
    Yields (devices.repAnswers req.symID) (fun _ scanned => ∀ scan',
        scanned = .next scan' → scan' = { scan with isLocalVolumePresent := true }) w
      (scanPair cfg req source scan vol remoteVolumeID) := by
  have done (response : CreateResponse) (scan' : Scan) (h : Scanned.done response = .next scan') :
      scan' = { scan with isLocalVolumePresent := true } := by cases h
  refine ⟨trivial, ?_⟩
  rintro (err | remoteVol) w₁ -
  · exact done _
  · refine ⟨trivial, ?_⟩
    rintro (_ | err) w₂ -
    · refine .ite (fun _ => ?_) fun _ => ?_
      · rintro scan' h
        exact (next.inj h).symm
      · refine (safeIn_true _).bind ?_
        rintro w₃ (failure | _) - <;> exact done _
    · exact done _

variable {scan : Scan}

theorem reads_metroCheck {vol : SizedVolume} (hg : ¬ vol.storageGroupIDList.length < 1) :
    reads (metroCheck cfg req requiredCylinders) scan vol =
      match matchStorageGroups scan.storageGroupName vol.storageGroupIDList with
      | none => some { scan with vol := some vol }
      | some name =>
        let scan' : Scan := { scan with storageGroupName := name, vol := some vol }
        if !volumeIdentifiersMatch (volumeIdentifier cfg req) vol.volumeIdentifier then some scan'
        else if vol.capacityCYL ≠ requiredCylinders then some { scan' with alreadyExists := true }
        else some { scan' with isLocalVolumePresent := true } := by
  have hc : ((vol.capacityCYL : Rat) = requiredCylinders) ↔ vol.capacityCYL = requiredCylinders :=
    Nat.cast_inj
  cases hm : matchStorageGroups scan.storageGroupName vol.storageGroupIDList with
  | none =>
    simp [reads, metroCheck, idempotenceCheck, SizedVolume.listed, nameAfter, hg, hm]
  | some name =>
    cases hs : volumeIdentifiersMatch (volumeIdentifier cfg req) vol.volumeIdentifier <;>
      by_cases hsi : vol.capacityCYL = requiredCylinders <;>
      simp [reads, metroCheck, idempotenceCheck, SizedVolume.listed, nameAfter, hg, hm, hs, hsi]

theorem scanVolume_reads (scan : Scan) (volumeID : String) (w : Unit) :
    Yields (devices.repAnswers req.symID) (fun _ scanned => ∀ scan',
        scanned = .next scan' → reads (metroCheck cfg req requiredCylinders) scan
          (devices.read volumeID) = some scan') w
      (scanVolume cfg req source requiredCylinders scan volumeID) := by
  refine ⟨trivial, ?_⟩
  intro r w₁ ha
  obtain rfl : r = .ok (devices.read volumeID) := ha rfl
  generalize devices.read volumeID = vol
  have done (response : CreateResponse) (scan' : Scan) (h : Scanned.done response = .next scan') :
      reads (metroCheck cfg req requiredCylinders) scan vol = some scan' := by cases h
  show SafeIn _ _ _ _ (ite (vol.storageGroupIDList.length < 1) _ _)
  split
  · exact done _
  next hg =>
  cases hm : matchStorageGroups scan.storageGroupName vol.storageGroupIDList with
  | none =>
    intro scan' h
    rw [reads_metroCheck hg, hm, next.inj h]
  | some name =>
    have hr : reads (metroCheck cfg req requiredCylinders) scan vol = _ :=
      reads_metroCheck hg
    simp only [hm] at hr
    dsimp only
    split
    · next hs =>
        intro scan' h
        rw [hr, if_pos hs, next.inj h]
    next hs =>
    split
    · next hsi =>
        intro scan' h
        rw [hr, if_neg hs, if_pos hsi, next.inj h]
    next hsi =>
    rw [if_neg hs, if_neg hsi] at hr
    refine ⟨trivial, ?_⟩
    intro r w₂ _
    simp only [ret_bind]
    rcases remoteOf r with err | (_ | remoteVolumeID)
    · exact done _
    · intro scan' h
      rw [hr, next.inj h]
    · refine (scanPair_present _ vol remoteVolumeID w₂).mono ?_
      intro _ scanned h scan' hs'
      rw [hr, h scan' hs']

theorem canReturn_scanVolume {scan' : Scan} {volumeID : String}
    (h : reads (metroCheck cfg req requiredCylinders) scan (devices.read volumeID) = some scan') :
    CanReturn (devices.repAnswers req.symID) ()
      (scanVolume cfg req source requiredCylinders scan volumeID) () (.next scan') := by
  have hr : devices.repAnswers req.symID () (.getVolumeByID req.symID volumeID)
      (.ok (devices.read volumeID)) () := fun _ => rfl
  refine canReturn_ask _ hr ?_
  revert h
  generalize devices.read volumeID = vol
  intro h
  have hg : ¬ vol.storageGroupIDList.length < 1 := by
    intro hlt
    have hn : metroCheck cfg req requiredCylinders scan.storageGroupName vol.listed =
        .noGroups := if_pos hlt
    simp only [reads, hn] at h
    cases h
  rw [reads_metroCheck hg] at h
  simp only [if_neg hg]
  cases hm : matchStorageGroups scan.storageGroupName vol.storageGroupIDList with
  | none =>
    simp only [hm] at h ⊢
    cases h
    exact canReturn_ret _
  | some name =>
    simp only [hm] at h ⊢
    split at h
    · next hs =>
        rw [if_pos hs]
        cases h
        exact canReturn_ret _
    next hs =>
    rw [if_neg hs]
    split at h
    · next hsi =>
        rw [if_pos hsi]
        cases h
        exact canReturn_ret _
    next hsi =>
    rw [if_neg hsi]
    cases h
    exact canReturn_ask (.ok "") trivial (canReturn_ret _)

theorem scanVolumes_readAll (volumeIDs : List String) (scan : Scan) (w : Unit) :
    Yields (devices.repAnswers req.symID) (fun _ scanned => ∀ final,
        scanned = .next final → readAll (metroCheck cfg req requiredCylinders) scan
          (volumeIDs.map devices.read) = some final) w
      (scanVolumes cfg req source requiredCylinders scan volumeIDs) := by
  induction volumeIDs generalizing scan w with
  | nil =>
    intro final h
    exact congrArg some (next.inj h)
  | cons volumeID rest ih =>
    refine (scanVolume_reads scan volumeID w).bind ?_
    rintro w₁ (response | scan') h
    · intro final h
      cases h
    · refine (ih scan' w₁).mono ?_
      intro _ scanned hs final hf
      show (reads _ scan (devices.read volumeID)).bind _ = _
      rw [h scan' rfl]
      exact hs final hf

theorem canReturn_scanVolumes {volumeIDs : List String} {final : Scan}
    (h : readAll (metroCheck cfg req requiredCylinders) scan (volumeIDs.map devices.read) =
      some final) :
    CanReturn (devices.repAnswers req.symID) ()
      (scanVolumes cfg req source requiredCylinders scan volumeIDs) () (.next final) := by
  induction volumeIDs generalizing scan with
  | nil =>
    cases h
    exact canReturn_ret _
  | cons volumeID rest ih =>
    obtain ⟨scan', hs', hr⟩ := Option.bind_eq_some_iff.mp h
    exact (canReturn_scanVolume hs').bind (ih hr)

theorem metroReusesPassed_iff :
    MetroReusesPassed cfg req source requiredCylinders devices ↔
      LastPassed (metroCheck cfg req requiredCylinders) (localStorageGroupName cfg req)
        (devices.inOrder.map (·.listed)) := by
  rw [← lastPassed_iff]
  constructor
  · intro h final vol hf hp he hv
    exact h vol ⟨final, canReturn_scanVolumes hf, hp, he, hv⟩
  · rintro h vol ⟨final, hf, hp, he, hv⟩
    refine h final vol ?_ hp he hv
    exact (scanVolumes_readAll devices.volumeIDs _ ()).canReturn hf final rfl

end

/-- The reused volume passed the checks, always with the bulk query, and otherwise for lists whose
last device passed. -/
theorem reuse_iff_lastPassed (devices : Devices) :
    (∀ prep : Prepared, prep.ReusesPassed devices ↔
      (prep.req.replicationEnabled = true → prep.enhanced = false →
        LastPassed prep.check prep.storageGroupName (devices.inOrder.map (·.listed)))) ∧
    ∀ cfg req source requiredCylinders,
      MetroReusesPassed cfg req source requiredCylinders devices ↔
        LastPassed (metroCheck cfg req requiredCylinders) (localStorageGroupName cfg req)
          (devices.inOrder.map (·.listed)) :=
  ⟨fun _ => Prepared.reusesPassed_iff, fun _ _ _ _ => metroReusesPassed_iff⟩

/-! ## Two devices with one identifier

The second one is in the storage group of another service level. -/

namespace Interrupted

def req : LegacyRequest :=
  { HostLimits.req with
    replicationEnabled := true
    repMode := "ASYNC"
    remoteSymID := "000197900047"
    localRDFGrpNo := "13"
    remoteRDFGrpNo := "14" }

def prepared : Prepared := { HostLimits.prepared with req := req }

def device (volumeID storageGroup : String) : SizedVolume where
  volumeID := volumeID
  volumeIdentifier := "csi-ABC-pmax-1-ns"
  storageGroupIDList := [storageGroup]
  snapSource := false
  snapTarget := false
  numberOfFrontEndPaths := 0
  capacityCYL := 547

def created : SizedVolume := device "00001" "csi-ABC-Gold-SRP_1-SG"

def other : SizedVolume := device "00002" "csi-ABC-Silver-SRP_1-SG"

def devices : Devices where
  listed := []
  volumeIDs := ["00001", "00002"]
  read volumeID := if volumeID = "00001" then created else other

def final : Scan := ⟨"csi-ABC-Gold-SRP_1-SG", some other, false, true⟩

theorem prepared_reached_replicated :
    CanReturn Anything () (prepareBlock HostLimits.cfg req 547 .none) ()
      (.ok prepared) := by
  have hp : CanReturn Anything () (lookUpProtectedGroup req) () (.ok false) := by
    refine canReturn_anything (.ok 1) ?_
    refine canReturn_anything (.ok true) ?_
    refine canReturn_anything () ?_
    exact canReturn_anything (.ok ⟨[], ["R1"]⟩) (canReturn_ret _)
  have hg : CanReturn Anything () (createMissingGroup HostLimits.cfg req
      (localStorageGroupName HostLimits.cfg.toMetroConfig req.toMetroRequest) false) () none :=
    canReturn_anything (.ok (some ⟨"csi-ABC-Gold-SRP_1-SG", "SRP_1", 1, 0, []⟩)) (canReturn_ret _)
  refine CanReturn.bind (canReturn_ret _) (hp.bind (hg.bind ?_))
  exact canReturn_anything false (canReturn_ret _)

theorem other_not_passed {check : Checks} {name : String}
    (h : judged check name (devices.inOrder.map (·.listed)) =
      [(created.listed, .passes), (other.listed, .other)]) :
    ¬ Passed check name (devices.inOrder.map (·.listed)) other.volumeID := by
  rintro ⟨vol, hmem, hid⟩
  simp only [h, List.mem_cons, Prod.mk.injEq, reduceCtorEq, and_true, and_false, List.not_mem_nil,
    or_false] at hmem
  rw [hmem] at hid
  revert hid
  decide

/-- The other device is added to the protected storage group. -/
theorem other_reused :
    CanReturn Anything () (prepareBlock HostLimits.cfg req 547 .none) ()
      (.ok prepared) ∧ (¬ prepared.ReusesPassed devices ∧
      CanIssue (devices.answers req.symID) () prepared.createBlock ()
        (.rep (.addVolumesToProtectedStorageGroup req.symID req.localProtectionGroupID
          req.remoteSymID req.remoteProtectionGroupID other.volumeID))) ∧
    ¬ MetroReusesPassed HostLimits.cfg.toMetroConfig req.toMetroRequest .none 547 devices := by
  have hs : CanReturn (devices.answers req.symID) () prepared.idempotencyScan () (.next final) := by
    have hr : readAll prepared.check prepared.start (devices.volumeIDs.map devices.read) =
        some final := by decide
    exact canReturn_ask (.ok devices.volumeIDs) rfl (Prepared.canReturn_scanAll_scanByID rfl hr)
  refine ⟨prepared_reached_replicated, ⟨?_, ?_⟩, ?_⟩
  · intro h
    refine other_not_passed ?_ (h other ⟨final, hs, rfl, rfl, rfl⟩)
    decide
  · refine hs.bind_issue ?_
    show CanIssue _ _ (prepared.afterScan final) _ _
    have ha : prepared.afterScan final = prepared.complete final.storageGroupName other :=
      Prepared.afterScan_of_present rfl rfl rfl
    exact canIssue_call (r := .ok 1) trivial canIssue_call_self
  · intro h
    have hr : readAll (metroCheck HostLimits.cfg.toMetroConfig req.toMetroRequest 547)
        ⟨localStorageGroupName HostLimits.cfg.toMetroConfig req.toMetroRequest, none, false, false⟩
        (devices.volumeIDs.map devices.read) = some final := by decide
    refine other_not_passed ?_ (h other ⟨final, canReturn_scanVolumes hr, rfl, rfl, rfl⟩)
    decide

end Interrupted

end PowerMaxCsi.Service
