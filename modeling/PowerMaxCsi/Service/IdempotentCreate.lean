import PowerMaxCsi.Lib.World
import PowerMaxCsi.Service.LegacyCreate

/-!
# The volume that answers a repeated request

The scan compares names by looking for one in the other; `Similar` is what its checks come to on a
device that is looked at first, `Answers` what a repeated request is to be answered with.
-/

namespace PowerMaxCsi.Service

open Prog Strings List Option

theorem matchStorageGroups_fold (ids : List String) (found : Bool) (name : String) :
    let last := ids.foldl (fun (found : Bool × String) (sgid : String) =>
      if contains sgid found.2 then (true, sgid) else found) (found, name)
    last.1 = (found || ids.any (contains · name)) ∧ contains last.2 name = true ∧
      (last.1 = true → (found = true ∧ last.2 = name) ∨ last.2 ∈ ids) := by
  induction ids generalizing found name with
  | nil => simp [contains_self]
  | cons sgid ids ih =>
    simp only [foldl_cons, any_cons]
    by_cases hs : contains sgid name = true
    · obtain ⟨hf, hn, hmem⟩ := ih true sgid
      simp only [hs, if_true]
      refine ⟨by simp [hf], contains_trans hn hs, fun h => .inr ?_⟩
      rcases hmem h with ⟨_, heq⟩ | hin
      · rw [heq]
        exact mem_cons_self
      · exact mem_cons_of_mem _ hin
    · obtain ⟨hf, hn, hmem⟩ := ih found name
      simp only [hs]
      refine ⟨by simpa using hf, hn, fun h => ?_⟩
      rcases hmem h with hk | hin
      · exact .inl hk
      · exact .inr (mem_cons_of_mem _ hin)

theorem matchStorageGroups_isSome (name : String) (ids : List String) :
    (matchStorageGroups name ids).isSome = ids.any (contains · name) := by
  have hf := (matchStorageGroups_fold ids false name).1
  rw [matchStorageGroups]
  split
  · next heq => simpa [heq] using hf
  · next heq => simpa [heq] using hf

variable {name : String}

theorem mem_of_matchStorageGroups {found : String} {ids : List String}
    (h : matchStorageGroups name ids = some found) : found ∈ ids := by
  have hf := (matchStorageGroups_fold ids false name).2.2
  rw [matchStorageGroups] at h
  split at h
  · next heq =>
      simp only [heq, Bool.false_eq_true, false_and, false_or, forall_const] at hf
      exact some.inj h ▸ hf
  · cases h

theorem contains_nameAfter (name : String) (ids : List String) :
    contains (nameAfter name ids) name = true := by
  have hf := (matchStorageGroups_fold ids false name).2.1
  rw [nameAfter, matchStorageGroups]
  split
  · next heq => simpa [heq] using hf
  · exact contains_self name

variable {cylinders : Rat} {same : String → Bool} {vol : SizedVolumeEnhanced}

theorem idempotenceCheck_eq_passes :
    idempotenceCheck same cylinders name vol = .passes ↔
      (∃ sgid ∈ vol.storageGroups, contains sgid name = true) ∧ same vol.identifier = true ∧
        vol.capCyl = cylinders := by
  have hn : (matchStorageGroups name vol.storageGroups).isNone = true ↔
      ¬ ∃ sgid ∈ vol.storageGroups, contains sgid name = true := by
    rw [← not_isSome, matchStorageGroups_isSome]
    simp
  unfold idempotenceCheck
  split
  · next he =>
      have : vol.storageGroups = [] := length_eq_zero_iff.mp (by omega)
      simp [this]
  · split
    · next h => simp [hn.mp h]
    · next h =>
        cases hsa : same vol.identifier <;> by_cases hc : vol.capCyl = cylinders <;>
          simp_all

theorem idempotenceCheck_again (h : idempotenceCheck same cylinders name vol = .passes) :
    idempotenceCheck same cylinders (nameAfter name vol.storageGroups) vol = .passes := by
  rw [idempotenceCheck_eq_passes] at h ⊢
  obtain ⟨⟨sgid, hmem, hs⟩, hr⟩ := h
  refine ⟨?_, hr⟩
  have hso : (matchStorageGroups name vol.storageGroups).isSome = true := by
    rw [matchStorageGroups_isSome, List.any_eq_true]
    exact ⟨sgid, hmem, hs⟩
  obtain ⟨found, hf⟩ := isSome_iff_exists.mp hso
  refine ⟨found, mem_of_matchStorageGroups hf, ?_⟩
  rw [nameAfter, hf]
  exact contains_self found

theorem idempotenceCheck_of_contains {longer : String} (hl : contains longer name = true)
    (h : idempotenceCheck same cylinders longer vol = .passes) :
    idempotenceCheck same cylinders name vol = .passes := by
  rw [idempotenceCheck_eq_passes] at h ⊢
  obtain ⟨⟨sgid, hmem, hs⟩, hr⟩ := h
  exact ⟨⟨sgid, hmem, contains_trans hs hl⟩, hr⟩

/-! ## The loop over the devices -/

/-- What holds of the device that answers the request, or of the variables that are left. -/
def Verdict.Sat (existing : SizedVolumeEnhanced → Prop) (next : Scan → Prop) : Verdict → Prop
  | .failed _ => True
  | .existing vol _ => existing vol
  | .next scan => next scan

section

variable {σ β : Type} {answers : σ → (c : CreateCall) → CreateAnswer c → σ → Prop}
  {step : Scan → β → CreateProg Verdict} {existing : SizedVolumeEnhanced → Prop}

theorem yields_sat {existing' : SizedVolumeEnhanced → Prop} {next next' : Scan → Prop} {w : σ}
    {p : CreateProg Verdict} (hp : Yields answers (fun _ verdict => verdict.Sat existing next) w p)
    (he : ∀ vol, existing vol → existing' vol) (hn : ∀ scan, next scan → next' scan) :
    Yields answers (fun _ verdict => verdict.Sat existing' next') w p := by
  refine hp.mono ?_
  rintro _ (failure | ⟨vol, response⟩ | scan) h
  · trivial
  · exact he vol h
  · exact hn scan h

theorem scanAll_safe {I : List β → Scan → Prop} (hst : ∀ w x rest scan, I (x :: rest) scan →
      Yields answers (fun _ verdict => verdict.Sat existing (I rest)) w
        (step scan x)) (xs : List β) (scan : Scan) (w : σ) (hs : I xs scan) :
    Yields answers (fun _ verdict => verdict.Sat existing (I [])) w (scanAll step scan xs) := by
  induction xs generalizing scan w with
  | nil => exact hs
  | cons x xs ih =>
    refine (hst w x xs scan hs).bind ?_
    rintro w₁ (failure | ⟨vol, response⟩ | scan') hv
    · trivial
    · exact hv
    · exact ih scan' w₁ hv

theorem canReturn_scanAll_next {w w₁ w₂ : σ} {scan scan' : Scan} {x : β} {xs : List β}
    {verdict : Verdict} (hx : CanReturn answers w (step scan x) w₁ (.next scan'))
    (hxs : CanReturn answers w₁ (scanAll step scan' xs) w₂ verdict) :
    CanReturn answers w (scanAll step scan (x :: xs)) w₂ verdict :=
  hx.bind hxs

theorem canReturn_scanAll_existing {w w₁ : σ} {scan : Scan} {x : β} {xs : List β}
    {response : BlockVolume} (hx : CanReturn answers w (step scan x) w₁ (.existing vol response)) :
    CanReturn answers w (scanAll step scan (x :: xs)) w₁ (.existing vol response) :=
  hx.bind (canReturn_ret _)

end

namespace Prepared

variable {σ : Type} {answers : σ → (c : CreateCall) → CreateAnswer c → σ → Prop}

/-- There is no content source to be linked to, or its volume was read. -/
def Linkable (prep : Prepared) (volumeID : String) : Prop :=
  prep.source.volContent = "" ∨ prep.source.srcVol.isSome ∨
    (prep.source.srcSnapID = "" ∧ (prep.source.srcVolID = "" ∨
      (¬ prep.req.replicationEnabled ∧ prep.enhanced ∧ volumeID = "")))

theorem linkExisting_safe (prep : Prepared) (target : Option SizedVolume) (volumeID : String)
    (w : σ) :
    Yields answers (fun _ linked => linked = .ok () → prep.Linkable volumeID) w
      (prep.linkExisting target volumeID) := by
  by_cases hl : prep.Linkable volumeID
  · exact (safeIn_true _).mono fun _ _ _ _ => hl
  · simp only [Linkable, not_or, not_and, not_isSome_iff_eq_none] at hl
    obtain ⟨hc, hs, hso⟩ := hl
    have unlinked (failure : Failure) :
        (.error failure : Except Failure Unit) = .ok () → prep.Linkable volumeID := by
      intro h
      cases h
    rw [linkExisting, if_neg hc]
    split
    · split
      · simp only [linkSRDFSnapshot, hs]
        exact unlinked _
      · next hsn =>
          rw [if_pos (hso (not_not.mp hsn)).1]
          refine (safeIn_true _).bind ?_
          rintro w₁ isV4 -
          simp only [linkSRDFVolume, hs]
          cases isV4 <;> exact unlinked _
    · next hr =>
        split
        · rw [linkSnapshot, hs]
          refine ⟨trivial, ?_⟩
          rintro (_ | err) w₁ - <;> exact unlinked _
        · next hsn =>
            have hv := hso (not_not.mp hsn)
            rw [if_pos ⟨hv.1, fun h => hv.2 hr h.1 h.2⟩, linkVolume, hs]
            exact ⟨trivial, fun _ _ _ => unlinked _⟩

/-- The variables that a device leaves if the loop goes on. -/
def leaves (prep : Prepared) (present : Scan → Scan) (scan : Scan) (vol : SizedVolumeEnhanced) :
    Option Scan :=
  let scan' := { scan with storageGroupName := nameAfter scan.storageGroupName vol.storageGroups }
  match prep.check scan.storageGroupName vol with
  | .noGroups => none
  | .other => some scan'
  | .otherSize => some { scan' with alreadyExists := true }
  | .passes => some (present { scan' with isLocalVolumePresent := true })

theorem scanDevice_safe (prep : Prepared) (scan : Scan) (listedID : String)
    (vol : SizedVolumeEnhanced) (present : Scan → Scan) (target : Option SizedVolume)
    (zoneLabels : Bool) (w : σ) :
    Yields answers (fun _ verdict => verdict.Sat
        (fun found => found = vol ∧ prep.check scan.storageGroupName vol = .passes ∧
          prep.Linkable vol.id)
        (fun scan' => prep.leaves present scan vol = some scan')) w
      (prep.scanDevice scan listedID vol present target zoneLabels) := by
  cases hc : prep.check scan.storageGroupName vol with
  | noGroups =>
    simp only [scanDevice, hc]
    trivial
  | other =>
    simp only [scanDevice, leaves, hc]
    rfl
  | otherSize =>
    simp only [scanDevice, leaves, hc]
    rfl
  | passes =>
    simp only [scanDevice, leaves, hc]
    refine (safeIn_true _).bind ?_
    rintro w₁ (failure | (_ | remoteVolumeID)) -
    · trivial
    · rfl
    · refine (prep.linkExisting_safe target vol.id w₁).bind ?_
      rintro w₂ (failure | _) hl
      · trivial
      · exact ⟨rfl, trivial, hl rfl⟩

end Prepared

/-! ## What an array can bring about -/

def isLookup : CreateCall → Bool
  | .getVolumesByIdentifier _ _ => true
  | .rep (.getVolumeIDList _ _) => true
  | .rep (.getVolumeByID _ _) => true
  | _ => false

def FreeOtherwise {σ : Type} (answers : σ → (c : CreateCall) → CreateAnswer c → σ → Prop) : Prop :=
  ∀ w c r, isLookup c = false → answers w c r w

theorem canReturn_free {σ : Type} {answers : σ → (c : CreateCall) → CreateAnswer c → σ → Prop}
    {w w' : σ} {α : Type} {c : CreateCall} {k : CreateAnswer c → CreateProg α} {a : α}
    (hf : FreeOtherwise answers) (r : CreateAnswer c) (hc : isLookup c = false)
    (hk : CanReturn answers w (k r) w' a) : CanReturn answers w (call c k) w' a :=
  canReturn_call (hf w c r hc) hk

namespace Prepared

variable {σ : Type} {answers : σ → (c : CreateCall) → CreateAnswer c → σ → Prop} {w : σ}
  {prep : Prepared}

variable (hf : FreeOtherwise answers)

include hf

theorem canReturn_linkSRDFVolume {srcVol vol : SizedVolume} (hs : prep.source.srcVol = some srcVol)
    (isV4 : Bool) : CanReturn answers w (prep.linkSRDFVolume isV4 (some vol)) w (.ok ()) := by
  simp only [linkSRDFVolume, hs]
  cases isV4
  · exact canReturn_ask none (hf w _ _ rfl) (canReturn_ret _)
  · exact canReturn_ask none (hf w _ _ rfl) (canReturn_ret _)

variable {target : Option SizedVolume} {present : Scan → Scan} {scan scan' : Scan}
  {zoneLabels : Bool} {listedID : String}

theorem canReturn_linkExisting {volumeID : String} (hl : prep.Linkable volumeID)
    (ht : prep.req.replicationEnabled = true → target.isSome = true) :
    CanReturn answers w (prep.linkExisting target volumeID) w (.ok ()) := by
  rw [linkExisting]
  split
  · exact canReturn_ret _
  next hc =>
  have hl := hl.resolve_left hc
  split
  · next hr =>
      obtain ⟨vol, rfl⟩ := isSome_iff_exists.mp (ht hr)
      split
      · next hsn =>
          obtain ⟨srcVol, hs⟩ := isSome_iff_exists.mp (hl.resolve_right fun h => hsn h.1)
          simp only [linkSRDFSnapshot, hs]
          exact canReturn_ask none (hf w _ _ rfl) (canReturn_ret _)
      · split
        · next hv =>
            obtain ⟨srcVol, hs⟩ := isSome_iff_exists.mp
              (hl.resolve_right fun h => h.2.elim hv fun h => h.1 hr)
            by_cases he : prep.enhanced = true
            · rw [if_pos he]
              exact canReturn_ask true (hf w _ _ rfl) (canReturn_linkSRDFVolume hf hs _)
            · rw [if_neg he]
              exact canReturn_linkSRDFVolume hf hs _
        · exact canReturn_ret _
  · next hr =>
      split
      · next hsn =>
          obtain ⟨srcVol, hs⟩ := isSome_iff_exists.mp (hl.resolve_right fun h => hsn h.1)
          simp only [linkSnapshot, hs]
          refine canReturn_ask none (hf w _ _ rfl) ?_
          exact canReturn_ask none (hf w _ _ rfl) (canReturn_ret _)
      · split
        · next hv =>
            obtain ⟨srcVol, hs⟩ := isSome_iff_exists.mp
              (hl.resolve_right fun h => h.2.elim hv.1 fun h => hv.2 h.2)
            simp only [linkVolume, hs]
            refine canReturn_ask true (hf w _ _ rfl) ?_
            exact canReturn_ask none (hf w _ _ rfl) (canReturn_ret _)
        · exact canReturn_ret _

theorem canReturn_remoteVolume_none (hr : prep.req.replicationEnabled = true) (volumeID : String) :
    CanReturn answers w (prep.remoteVolume volumeID) w (.ok none) := by
  rw [remoteVolume, if_neg (not_not.mpr hr)]
  exact canReturn_ask (.ok "") (hf w _ _ rfl) (canReturn_ret _)

theorem canReturn_remoteVolume_some (prep : Prepared) (volumeID : String) :
    ∃ remote, CanReturn answers w (prep.remoteVolume volumeID) w (.ok (some remote)) := by
  rw [remoteVolume]
  split
  · exact ⟨_, canReturn_ret _⟩
  · exact ⟨_, canReturn_ask (.ok "00001") (hf w _ _ rfl) (canReturn_ret _)⟩

theorem canReturn_scanDevice_existing (hc : prep.check scan.storageGroupName vol = .passes)
    (hl : prep.Linkable vol.id) (ht : prep.req.replicationEnabled = true → target.isSome = true) :
    ∃ response, CanReturn answers w
      (prep.scanDevice scan listedID vol present target zoneLabels) w (.existing vol response) := by
  obtain ⟨remote, hr⟩ := canReturn_remoteVolume_some (w := w) hf prep vol.id
  simp only [scanDevice, hc]
  exact ⟨_, hr.bind ((canReturn_linkExisting hf hl ht).bind (canReturn_ret _))⟩

theorem canReturn_scanDevice_next (hr : prep.req.replicationEnabled = true)
    (hl : prep.leaves present scan vol = some scan') :
    CanReturn answers w (prep.scanDevice scan listedID vol present target zoneLabels) w
      (.next scan') := by
  cases hc : prep.check scan.storageGroupName vol with
  | noGroups =>
    simp only [leaves, hc] at hl
    cases hl
  | other =>
    simp only [leaves, hc, some.injEq] at hl
    simp only [scanDevice, hc, hl]
    exact canReturn_ret _
  | otherSize =>
    simp only [leaves, hc, some.injEq] at hl
    simp only [scanDevice, hc, hl]
    exact canReturn_ret _
  | passes =>
    simp only [leaves, hc, some.injEq] at hl
    simp only [scanDevice, hc, hl]
    exact (canReturn_remoteVolume_none hf hr vol.id).bind (canReturn_ret _)

omit hf

end Prepared

/-- A request that is neither for Metro nor for NFS is answered by what follows its preparation. -/
theorem canReturn_legacyCreate {σ : Type}
    {answers : σ → (c : CreateCall) → CreateAnswer c → σ → Prop} {cfg : LegacyConfig}
    {req req' : LegacyRequest} {requiredCylinders : Nat} {source : Source} {prep : Prepared}
    {result : Except Failure BlockVolume} {w w₁ w₂ w₃ w' : σ}
    (hc : CanReturn answers w (checkRequest cfg req) w₁ (.ok req'))
    (hm : ¬ (req'.replicationEnabled = true ∧ req'.repMode = metro)) (hn : req'.useNFS = false)
    (hv : CanReturn answers w₁ (resolveVolume req') w₂ (.ok (requiredCylinders, source)))
    (hp : CanReturn answers w₂ (prepareBlock cfg req' requiredCylinders source) w₃ (.ok prep))
    (hb : CanReturn answers w₃ prep.createBlock w' result) :
    CanReturn answers w (legacyCreate cfg req) w' (result.map .block) := by
  refine hc.bind ?_
  simp only [hm, if_false]
  refine hv.bind ?_
  simp only [hn, Bool.false_eq_true, if_false]
  exact hp.bind (hb.bind (canReturn_ret _))

def Anything : Unit → (c : CreateCall) → CreateAnswer c → Unit → Prop := fun _ _ _ _ => True

theorem canReturn_anything {α : Type} {c : CreateCall} {k : CreateAnswer c → CreateProg α} {a : α}
    (r : CreateAnswer c) (hk : CanReturn Anything () (k r) () a) :
    CanReturn Anything () (call c k) () a :=
  canReturn_call trivial hk

/-! ## The devices that answer a request -/

/-- The devices that the array lists and reads are among the given ones; all else is open. -/
def Lists (vols : Set SizedVolumeEnhanced) :
    Unit → (c : CreateCall) → CreateAnswer c → Unit → Prop
  | _, .getVolumesByIdentifier _ _, .ok volumes, _ => ∀ vol ∈ volumes, vol ∈ vols
  | _, .rep (.getVolumeByID _ volumeID), .ok vol, _ => vol.listed ∈ vols ∧ vol.volumeID = volumeID
  | _, _, _, _ => True

theorem Lists.freeOtherwise (vols : Set SizedVolumeEnhanced) : FreeOtherwise (Lists vols) := by
  intro w c r hc
  cases c with
  | getVolumesByIdentifier symID identifier => cases hc
  | rep call =>
    cases call with
    | getVolumeByID symID volumeID => cases hc
    | _ => trivial
  | _ => trivial

theorem SizedVolume.exists_listed {cylinders : Nat}
    (h : vol.capCyl = cylinders) : ∃ read : SizedVolume, read.listed = vol := by
  refine ⟨⟨⟨vol.id, vol.identifier, vol.storageGroups, false, false, 0⟩, cylinders⟩, ?_⟩
  show SizedVolumeEnhanced.mk vol.toVolumeEnhanced cylinders = vol
  rw [← h]

namespace Prepared

variable (prep : Prepared) (vols : Set SizedVolumeEnhanced)

def Reported (vol : SizedVolumeEnhanced) : Prop :=
  ∃ response, CanReturn (Lists vols) () prep.idempotencyScan () (.existing vol response)

structure Similar (vol : SizedVolumeEnhanced) : Prop where
  storageGroup : ∃ sgid ∈ vol.storageGroups, contains sgid prep.storageGroupName = true
  identifier : contains vol.identifier prep.volumeIdentifier = true
  cylinders : vol.capCyl = prep.requiredCylinders

/-- The volume has the requested identifier, possibly behind a tenant prefix, is in the requested
storage group or one that follows it, and has the requested size. -/
structure Answers (vol : SizedVolumeEnhanced) : Prop where
  storageGroup : ∃ sgid ∈ vol.storageGroups, sgid = prep.baseSGName ∨
    ∃ digits, digits ≠ "" ∧ digits.toList.all Char.isDigit = true ∧
      sgid = prep.baseSGName ++ "--" ++ digits
  identifier : vol.identifier = prep.volumeIdentifier ∨
    ∃ tenant, len tenant ≤ 3 ∧ vol.identifier = tenant ++ "-" ++ prep.volumeIdentifier
  cylinders : vol.capCyl = prep.requiredCylinders

variable {prep vols} {vol : SizedVolumeEnhanced} {present : Scan → Scan} {scan : Scan}

theorem similar_iff : prep.Similar vol ↔ prep.check prep.storageGroupName vol = .passes := by
  rw [check, idempotenceCheck_eq_passes]
  have hs : prep.sameIdentifier vol.identifier = true ↔
      contains vol.identifier prep.volumeIdentifier = true := by
    rw [sameIdentifier, Bool.or_eq_true, decide_eq_true_iff]
    refine ⟨fun h => h.elim (fun h => h ▸ contains_self _) id, .inr⟩
  rw [hs]
  exact ⟨fun h => ⟨h.1, h.2, h.3⟩, fun h => ⟨h.1, h.2.1, h.2.2⟩⟩

theorem leaves_storageGroupName
    (hp : ∀ scan, (present scan).storageGroupName = scan.storageGroupName) {scan' : Scan}
    (h : prep.leaves present scan vol = some scan') :
    scan'.storageGroupName = nameAfter scan.storageGroupName vol.storageGroups := by
  cases hc : prep.check scan.storageGroupName vol with
  | noGroups =>
    simp only [leaves, hc] at h
    cases h
  | passes =>
    simp only [leaves, hc, some.injEq] at h
    rw [← h, hp]
  | _ =>
    simp only [leaves, hc, some.injEq] at h
    rw [← h]

/-- A device that answers is similar: the name that it is compared with contains the first one. -/
theorem scanDevice_similar {answers : Unit → (c : CreateCall) → CreateAnswer c → Unit → Prop}
    {listedID : String} {target : Option SizedVolume} {zoneLabels : Bool} (hv : vol ∈ vols)
    (hp : ∀ scan, (present scan).storageGroupName = scan.storageGroupName)
    (hs : contains scan.storageGroupName prep.storageGroupName = true) (w : Unit) :
    Yields answers (fun _ verdict => verdict.Sat
        (fun found => found ∈ vols ∧ prep.Similar found ∧ prep.Linkable found.id)
        (fun scan' => contains scan'.storageGroupName prep.storageGroupName = true)) w
      (prep.scanDevice scan listedID vol present target zoneLabels) := by
  refine yields_sat (prep.scanDevice_safe scan listedID vol present target zoneLabels w) ?_ ?_
  · rintro _ ⟨rfl, hc, hl⟩
    exact ⟨hv, similar_iff.mpr (idempotenceCheck_of_contains hs hc), hl⟩
  · intro scan' h
    rw [leaves_storageGroupName hp h]
    exact contains_trans (contains_nameAfter _ _) hs

theorem Reported.spec (h : prep.Reported vols vol) :
    vol ∈ vols ∧ prep.Similar vol ∧ prep.Linkable vol.id := by
  have hst : contains prep.start.storageGroupName prep.storageGroupName = true :=
    contains_self _
  have hsa : Yields (Lists vols) (fun _ verdict => verdict.Sat
      (fun found => found ∈ vols ∧ prep.Similar found ∧ prep.Linkable found.id) fun _ => True) ()
      prep.idempotencyScan := by
    rw [idempotencyScan]
    split
    · refine ⟨trivial, ?_⟩
      rintro (err | volumes) w₁ ha
      · trivial
      · refine yields_sat (scanAll_safe (I := fun rest scan => (∀ vol ∈ rest, vol ∈ vols) ∧
          contains scan.storageGroupName prep.storageGroupName = true) ?_ volumes prep.start w₁
          ⟨ha, hst⟩) (fun _ => id) fun _ _ => trivial
        rintro w vol rest scan ⟨hv, hs⟩
        refine yields_sat (scanDevice_similar (hv vol mem_cons_self) ?_ hs w) (fun _ => id) ?_
        · exact fun _ => rfl
        · exact fun _ h => ⟨fun vol hvo => hv vol (mem_cons_of_mem _ hvo), h⟩
    · refine ⟨trivial, ?_⟩
      rintro (err | volumeIDs) w₁ -
      · trivial
      · refine yields_sat (scanAll_safe (I := fun _ scan =>
          contains scan.storageGroupName prep.storageGroupName = true) ?_ volumeIDs prep.start w₁
          hst) (fun _ => id) fun _ _ => trivial
        intro w volumeID rest scan hs
        refine ⟨trivial, ?_⟩
        rintro (err | vol) w₂ hvo
        · trivial
        · refine scanDevice_similar hvo.1 ?_ ?_ w₂
          · exact fun _ => rfl
          · exact hs
  obtain ⟨response, hr⟩ := h
  exact hsa.canReturn hr

/-- A device that passes can answer.  A replicated one of the bulk answer is linked only after
another one lacked its remote volume, so it is listed twice. -/
theorem reported_of_similar (hv : vol ∈ vols)
    (hsi : prep.Similar vol) (hli : prep.Linkable vol.id) : prep.Reported vols vol := by
  have hc := similar_iff.mp hsi
  have hfr := Lists.freeOtherwise vols
  rw [Reported, idempotencyScan]
  split
  · by_cases hr : prep.req.replicationEnabled = true
    · let scan₁ : Scan :=
        ⟨nameAfter prep.storageGroupName vol.storageGroups, some vol.toVolume, false, true⟩
      have hf : CanReturn (Lists vols) () (prep.scanEnhanced prep.start vol) () (.next scan₁) := by
        refine canReturn_scanDevice_next hfr hr ?_
        have hc₀ : prep.check prep.start.storageGroupName vol = .passes := hc
        simp only [leaves, hc₀]
        rfl
      have hs : ∃ response, CanReturn (Lists vols) () (prep.scanEnhanced scan₁ vol) ()
          (.existing vol response) :=
        canReturn_scanDevice_existing hfr (idempotenceCheck_again hc) hli fun _ => rfl
      obtain ⟨response, hs⟩ := hs
      have hl : Lists vols () (.getVolumesByIdentifier prep.req.symID prep.volumeIdentifier)
          (.ok [vol, vol]) () := by simpa [Lists] using hv
      refine ⟨response, canReturn_ask (.ok [vol, vol]) hl ?_⟩
      exact canReturn_scanAll_next hf (canReturn_scanAll_existing hs)
    · have hf : ∃ response, CanReturn (Lists vols) () (prep.scanEnhanced prep.start vol) ()
          (.existing vol response) :=
        canReturn_scanDevice_existing hfr hc hli fun h => absurd h hr
      obtain ⟨response, hf⟩ := hf
      have hl : Lists vols () (.getVolumesByIdentifier prep.req.symID prep.volumeIdentifier)
          (.ok [vol]) () := by simpa [Lists] using hv
      exact ⟨response, canReturn_ask (.ok [vol]) hl (canReturn_scanAll_existing hf)⟩
  · obtain ⟨read, rfl⟩ := SizedVolume.exists_listed hsi.cylinders
    have hf : ∃ response, CanReturn (Lists vols) () (prep.scanDevice
        { prep.start with vol := some read } read.volumeID read.listed id (some read)
        prep.req.symmIDFoundInAZ) () (.existing read.listed response) :=
      canReturn_scanDevice_existing hfr hc hli fun _ => rfl
    obtain ⟨response, hf⟩ := hf
    have hst : CanReturn (Lists vols) () (prep.scanByID prep.start read.volumeID) ()
        (.existing read.listed response) :=
      canReturn_ask (.ok read) ⟨hv, rfl⟩ hf
    exact ⟨response, canReturn_ask (.ok [read.volumeID]) trivial (canReturn_scanAll_existing hst)⟩

/-- A request is answered only with good answers just if every similar device is one, or cannot be
linked to the content source. -/
theorem answersOnly_iff (prep : Prepared) (vols : Set SizedVolumeEnhanced) :
    (∀ vol, prep.Reported vols vol → prep.Answers vol) ↔
      ∀ vol ∈ vols, prep.Similar vol → prep.Linkable vol.id → prep.Answers vol := by
  constructor
  · intro h vol hv hs hl
    exact h vol (reported_of_similar hv hs hl)
  · intro h vol hr
    obtain ⟨hv, hs, hl⟩ := hr.spec
    exact h vol hv hs hl

end Prepared

/-! ## A storage class with limits

A storage class with host limits has a storage group of its own, whose name is that of the class
without limits and the name of the limits behind it. -/

namespace HostLimits

def cfg : LegacyConfig where
  clusterPrefix := "ABC"
  enableBlock := true
  metroSiteFailureHandling := false
  volumeJournal := false
  driverName := "csi-powermax.dellemc.com"
  instanceUID := ""
  dynamicSGEnabled := false
  isVsphereEnabled := false
  sgVolumeLimit := 4000

def req : LegacyRequest where
  name := "pmax-1"
  contentSource := none
  isBlock := false
  storagePoolID := "SRP_1"
  symID := "000197900046"
  storageGroupName := ""
  serviceLevel := "Gold"
  thick := ""
  remoteSymID := ""
  localRDFGrpNo := ""
  remoteRDFGrpNo := ""
  remoteServiceLevel := ""
  remoteSRPID := ""
  ns := "ns"
  applicationPrefix := ""
  bias := ""
  hostLimitName := ""
  hostLimits := ⟨"", "", ""⟩
  apiVersion := 102
  replicationEnabled := false
  repMode := ""
  useNFS := false
  symmIDFoundInAZ := false
  metroSiteLabels := false

def prepared : Prepared where
  req := req
  volumeIdentifier := volumeIdentifier cfg.toMetroConfig req.toMetroRequest
  requiredCylinders := 547
  source := .none
  baseSGName := localStorageGroupName cfg.toMetroConfig req.toMetroRequest
  storageGroupName := localStorageGroupName cfg.toMetroConfig req.toMetroRequest
  isSGUnprotected := false
  isV4 := false

def limited : SizedVolumeEnhanced where
  id := "00123"
  identifier := "csi-ABC-pmax-1-ns"
  storageGroups := ["csi-ABC-Gold-SRP_1-SG-limit1"]
  capCyl := 547

def otherNamespace : SizedVolumeEnhanced where
  id := "00124"
  identifier := "csi-ABC-pmax-1-ns2"
  storageGroups := ["csi-ABC-Gold-SRP_1-SG"]
  capCyl := 547

theorem prepared_reached {σ : Type} {answers : σ → (c : CreateCall) → CreateAnswer c → σ → Prop}
    (hf : FreeOtherwise answers) (w : σ) :
    CanReturn answers w (prepareBlock cfg req 547 .none) w (.ok prepared) := by
  have hg : CanReturn answers w (createMissingGroup cfg req
      (localStorageGroupName cfg.toMetroConfig req.toMetroRequest) false) w none :=
    canReturn_free hf (.ok (some ⟨"csi-ABC-Gold-SRP_1-SG", "SRP_1", 1, 0, []⟩)) rfl
      (canReturn_ret _)
  refine CanReturn.bind (canReturn_ret _) (CanReturn.bind (canReturn_ret _) (hg.bind ?_))
  exact canReturn_free hf false rfl (canReturn_ret _)

/-- The volume that the scan reports is the answer to the request. -/
theorem returned_of_reported {vols : Set SizedVolumeEnhanced} {vol : SizedVolumeEnhanced}
    (h : prepared.Reported vols vol) : ∃ response,
    CanReturn (Lists vols) () prepared.idempotencyScan () (.existing vol response) ∧
      CanReturn (Lists vols) () (legacyCreate cfg req) () (.ok (.block response)) := by
  obtain ⟨response, hs⟩ := h
  have hf := Lists.freeOtherwise vols
  have hc : CanReturn (Lists vols) () (checkRequest cfg req) () (.ok req) :=
    canReturn_free hf none rfl (canReturn_ret _)
  have hv : CanReturn (Lists vols) () (resolveVolume req) () (.ok (547, .none)) := by
    rw [resolveVolume, if_neg (by decide)]
    exact canReturn_free hf (.ok 547) rfl (canReturn_ret _)
  have hb : CanReturn (Lists vols) () prepared.createBlock () (.ok response) :=
    hs.bind (canReturn_ret _)
  exact ⟨response, hs, canReturn_legacyCreate hc (by decide) rfl hv (prepared_reached hf ()) hb⟩

theorem limited_not_answers : ¬ prepared.Answers limited := by
  rintro ⟨⟨sgid, hmem, hs⟩, -, -⟩
  obtain rfl : sgid = "csi-ABC-Gold-SRP_1-SG-limit1" := mem_singleton.mp hmem
  rcases hs with hb | ⟨digits, -, -, ho⟩
  · revert hb
    decide
  · have hp : (prepared.baseSGName ++ "--").toList <+:
        "csi-ABC-Gold-SRP_1-SG-limit1".toList :=
      ⟨digits.toList, by
        rw [ho]
        exact String.toList_append.symm⟩
    revert hp
    decide

theorem otherNamespace_not_answers : ¬ prepared.Answers otherNamespace := by
  rintro ⟨-, hn | ⟨tenant, -, ht⟩, -⟩
  · revert hn
    decide
  · have hs : prepared.volumeIdentifier.toList <:+ "csi-ABC-pmax-1-ns2".toList :=
      ⟨(tenant ++ "-").toList, by
        rw [← String.toList_append, ← ht]
        rfl⟩
    revert hs
    decide

/-- The answer is the volume of the class with limits, or the one whose identifier goes on. -/
theorem others_reported :
    CanReturn Anything () (prepareBlock cfg req 547 .none) () (.ok prepared) ∧
      ∀ vol ∈ [limited, otherNamespace], prepared.Reported {vol} vol ∧ ¬ prepared.Answers vol ∧
        ∃ response,
          CanReturn (Lists {vol}) () prepared.idempotencyScan () (.existing vol response) ∧
          CanReturn (Lists {vol}) () (legacyCreate cfg req) () (.ok (.block response)) := by
  have hli (volumeID : String) : prepared.Linkable volumeID := .inl rfl
  have hl : prepared.Similar limited :=
    ⟨⟨_, mem_singleton_self _, by decide⟩, by decide, rfl⟩
  have ho : prepared.Similar otherNamespace :=
    ⟨⟨_, mem_singleton_self _, by decide⟩, by decide, rfl⟩
  have hrl : prepared.Reported {limited} limited := Prepared.reported_of_similar rfl hl (hli _)
  have hro : prepared.Reported {otherNamespace} otherNamespace :=
    Prepared.reported_of_similar rfl ho (hli _)
  refine ⟨prepared_reached (fun _ _ _ _ => trivial) (), ?_⟩
  refine forall_mem_cons.mpr ⟨⟨hrl, limited_not_answers, returned_of_reported hrl⟩, ?_⟩
  exact forall_mem_singleton.mpr ⟨hro, otherNamespace_not_answers, returned_of_reported hro⟩

end HostLimits

end PowerMaxCsi.Service
