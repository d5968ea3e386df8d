import PowerMaxCsi.Service.DeleteVolumeCalls
import PowerMaxCsi.Service.DeleteVolumeSafety
import PowerMaxCsi.Service.MetroHandle

/-!
# What a successful `DeleteVolume` leaves of a Metro volume

Each leg should be done with: its device is gone or has lost the name of the volume, or its cleanup
is pending.  If the local device is not found, the call succeeds without a look at the remote leg:
`legsDone_of_success`.
-/

namespace PowerMaxCsi.Service

open Strings Prog

/-! ## Identifiers after a deletion -/

theorem volumeIdentifiersMatch_cases {expected actual : String}
    (hm : volumeIdentifiersMatch expected actual = true) :
    actual.toList = expected.toList ∨
      ∃ tenant, tenant.length ≤ 3 ∧ actual.toList = tenant ++ '-' :: expected.toList := by
  unfold volumeIdentifiersMatch at hm
  split at hm
  case isTrue h =>
    rcases h with he | rfl
    · simp [he] at hm
    · exact .inl rfl
  case isFalse =>
    simp only at hm
    split at hm
    case isFalse => cases hm
    case isTrue hs =>
      obtain ⟨tenant, ht⟩ := List.isSuffixOf_iff_suffix.mp hs
      have ha : actual.toList = tenant ++ '-' :: expected.toList := by
        rw [← ht, String.toList_append]
        rfl
      refine .inr ⟨tenant, ?_, ha⟩
      rw [trimSuffix, if_pos hs, decide_eq_true_eq, len, String.toList_ofList, ← ht,
        List.length_append, Nat.add_sub_cancel, List.take_left] at hm
      exact hm

def DriverName (volName : String) : Prop :=
  hasPrefix volName csiVolumePrefix = true ∧ len volName ≤ maxVolIdentifierLength

variable {volName : String}

theorem DriverName.toList (hn : DriverName volName) :
    ∃ rest, volName.toList = 'c' :: 's' :: 'i' :: '-' :: rest ∧ rest.length ≤ 60 := by
  obtain ⟨rest, hr⟩ := List.isPrefixOf_iff_prefix.mp hn.1
  refine ⟨rest, hr.symm, ?_⟩
  have hl := hn.2
  rw [len, ← hr, List.length_append] at hl
  exact Nat.le_of_add_le_add_left hl

theorem deletionName_toList (identifier : String) : ∃ rest,
    (deletionName identifier).toList = '_' :: 'D' :: 'E' :: 'L' :: rest := by
  have hl : (deletionPrefix ++ identifier).toList =
      '_' :: 'D' :: 'E' :: 'L' :: identifier.toList := String.toList_append
  simp only [deletionName]
  split
  · rw [cut, String.toList_ofList, hl]
    exact ⟨_, rfl⟩
  · exact ⟨_, hl⟩

theorem deletionName_not_match (hn : DriverName volName) (identifier : String) :
    volumeIdentifiersMatch volName (deletionName identifier) = false := by
  obtain ⟨rest, hr, -⟩ := hn.toList
  obtain ⟨marked, hm⟩ := deletionName_toList identifier
  by_contra hma
  rcases volumeIdentifiersMatch_cases (Bool.eq_true_of_not_eq_false hma) with
    heq | ⟨tenant, ht, heq⟩
  · rw [hm, hr] at heq
    cases heq
  · -- The prefix is shorter than the mark, which has no dash.
    rw [hm] at heq
    match tenant, ht with
    | [], _ | [_], _ | [_, _], _ | [_, _, _], _ => cases heq

theorem sourceName_toList {rest : List Char}
    (hr : volName.toList = 'c' :: 's' :: 'i' :: '-' :: rest) :
    (sourceName volName).toList = 'c' :: 's' :: 'i' :: '-' :: (rest.take 58 ++ ['-', 'D', 'S']) := by
  have hk : maxVolIdentifierLength - len delSrcTag = 62 := by decide
  have ht : ("-" ++ delSrcTag).toList = ['-', 'D', 'S'] := by decide
  simp only [sourceName, String.append_assoc]
  rw [String.toList_append]
  split
  · rw [cut, String.toList_ofList, hr]
    rfl
  case isFalse hl =>
    have hs : rest.length ≤ 58 := by
      rw [len, hr] at hl
      simp only [List.length_cons] at hl
      omega
    rw [hr, List.take_of_length_le hs]
    rfl

theorem sourceName_not_match (hn : DriverName volName) :
    volumeIdentifiersMatch volName (sourceName volName) = false := by
  obtain ⟨rest, hr, hle⟩ := hn.toList
  by_contra hm
  rcases volumeIdentifiersMatch_cases (Bool.eq_true_of_not_eq_false hm) with
    heq | ⟨tenant, ht, heq⟩
  · have hl := congrArg List.length heq
    rw [sourceName_toList hr, hr] at hl
    simp only [List.length_cons, List.length_append, List.length_take] at hl
    omega
  · rw [sourceName_toList hr, hr] at heq
    match tenant, ht with
    | [], _ | [_], _ | [_, _], _ => cases heq
    | [_, _, _], _ =>
      -- The name would have to follow its own first part.
      have hl := congrArg List.length heq
      simp only [List.length_cons, List.length_append, List.length_take] at hl
      omega

/-- The arrays, the pending operations, and whether this attempt has found a device. -/
structure DeleteWorld where
  arrays : Arrays
  journal : Set Journal.OpKey
  found : Bool

namespace MetroLegs

variable (m : MetroLegs)

def legs : List (String × String) := [(m.symID, m.devID), (m.remoteSymID, m.remoteDevID)]

/-- Its device is gone or does not carry the name of the volume, or its cleanup is pending. -/
def LegDone (w : DeleteWorld) (leg : String × String) : Prop :=
  (∀ v, w.arrays.volumes leg.1 leg.2 = some v →
    volumeIdentifiersMatch m.volName v.volumeIdentifier = false) ∨
  ∃ key ∈ w.journal, key.operationType = .deviceCleanup ∧ key.volumeID = m.handle ∧
    key.arrayID = leg.1

def LegsDone (w : DeleteWorld) : Prop := ∀ leg ∈ m.legs, m.LegDone w leg

/-- The worker removes devices, the journal is worked off, and other volumes come and go. -/
structure Meanwhile (w w' : DeleteWorld) : Prop where
  keeps : ∀ leg ∈ m.legs, m.LegDone w leg → m.LegDone w' leg
  found : w'.found = w.found

/-- An array that has the device does not say that it could not find it. -/
def answersNow (w : DeleteWorld) : (c : CtrlCall) → CtrlAnswer c → DeleteWorld → Prop
  | .deferOperation operationType volumeID arrayID rdfGroupNo, r, w' =>
    let stored := insert ⟨volumeID, operationType, arrayID, rdfGroupNo⟩ w.journal
    w'.arrays = w.arrays ∧ w'.found = w.found ∧
      match r with
      | .ok _ => w'.journal = stored
      | .error _ => w'.journal = w.journal ∨ w'.journal = stored
  | .pmax (.getVolumeByID sym dev), r, w' =>
    w.arrays.answers (.pmax (.getVolumeByID sym dev)) r w'.arrays ∧ w'.journal = w.journal ∧
      match r with
      | .ok _ => w'.found = true
      | .error _ => w'.found = w.found
  | .pmax (.renameVolume sym dev newName), r, w' =>
    w.arrays.answers (.pmax (.renameVolume sym dev newName)) r w'.arrays ∧
      w'.journal = w.journal ∧ w'.found = w.found ∧
      match r with
      | .ok _ => True
      | .error err => contains err.text cannotBeFound = true → w.arrays.volumes sym dev = none ∧
          w'.arrays = w.arrays
  | c, r, w' => w.arrays.answers c r w'.arrays ∧ w'.journal = w.journal ∧ w'.found = w.found

def answers (w : DeleteWorld) (c : CtrlCall) (r : CtrlAnswer c) (w' : DeleteWorld) : Prop :=
  ∃ w₁, m.Meanwhile w w₁ ∧ answersNow w₁ c r w'

section

variable {m} {w w' : DeleteWorld} {c : CtrlCall} {r : CtrlAnswer c} {leg : String × String}

theorem LegDone.congr (hd : m.LegDone w leg) (ha : w'.arrays = w.arrays)
    (hj : w'.journal = w.journal) : m.LegDone w' leg := by
  unfold LegDone
  rw [ha, hj]
  exact hd

variable {symID : String}

theorem answersNow_reads (hc : c.Reads symID) (ha : answersNow w c r w') :
    w'.arrays = w.arrays ∧ w'.journal = w.journal := by
  cases c with
  | deferOperation => cases hc.1.2
  | pmax c =>
    cases c with
    | getVolumeByID => exact ⟨ha.1.1, ha.2.1⟩
    | getStorageGroup => exact ⟨ha.1.1, ha.2.1⟩
    | renameVolume sym dev newName => exact absurd rfl (hc.2 sym dev newName)
    | _ => exact ⟨ha.1, ha.2.1⟩
  | _ => exact ⟨ha.1, ha.2.1⟩

theorem answers_reads (hc : c.Reads symID) (han : m.answers w c r w') (hl : leg ∈ m.legs)
    (hd : m.LegDone w leg) : m.LegDone w' leg := by
  obtain ⟨w₁, hm, hn⟩ := han
  obtain ⟨ha, hj⟩ := answersNow_reads hc hn
  exact (hm.keeps leg hl hd).congr ha hj

theorem answers_idle (hc : c.Idle symID) (ha : m.answers w c r w') : w'.found = w.found := by
  obtain ⟨w₁, hm, hn⟩ := ha
  refine Eq.trans ?_ hm.found
  cases c with
  | deferOperation => cases hc.1.1.2
  | pmax c =>
    cases c with
    | getVolumeByID sym dev => exact absurd rfl (hc.2 sym dev)
    | renameVolume sym dev newName => exact absurd rfl (hc.1.2 sym dev newName)
    | _ => exact hn.2.2
  | _ => exact hn.2.2

theorem legDone_of_rename {devID newName : String} {vol : Volume}
    (hn : volumeIdentifiersMatch m.volName newName = false)
    (han : m.answers w (.pmax (.renameVolume symID devID newName)) (.ok (some vol)) w') :
    m.LegDone w' (symID, devID) := by
  obtain ⟨w₁, -, ⟨ha, -⟩, -⟩ := han
  refine .inl fun v hv => ?_
  simp only [ha, Arrays.rename, and_self, if_true, Option.map_eq_some_iff] at hv
  obtain ⟨v', -, rfl⟩ := hv
  exact hn

theorem answers_rename {devID newName : String}
    {r : CtrlAnswer (.pmax (.renameVolume symID devID newName))}
    (han : m.answers w (.pmax (.renameVolume symID devID newName)) r w') (hl : leg ∈ m.legs)
    (ho : leg ≠ (symID, devID)) (hd : m.LegDone w leg) : m.LegDone w' leg := by
  obtain ⟨w₁, hm, ha, hj, -⟩ := han
  have hv : w'.arrays.volumes leg.1 leg.2 = w₁.arrays.volumes leg.1 leg.2 := by
    have hr : (w₁.arrays.rename symID devID newName).volumes leg.1 leg.2 =
        w₁.arrays.volumes leg.1 leg.2 := by
      refine if_neg ?_
      rintro ⟨hs, hde⟩
      exact ho (Prod.ext hs hde)
    rcases r with err | _ | vol
    · rcases ha with h | h
      · rw [h]
      · rw [h, hr]
    · rcases ha with h | h
      · rw [h]
      · rw [h, hr]
    · rw [ha.1, hr]
  have hd₁ := hm.keeps leg hl hd
  unfold LegDone at hd₁ ⊢
  rw [hv, hj]
  exact hd₁

end

section

variable {m} {cfg : ServiceConfig} {w : DeleteWorld} {symID devID : String}
  {K : Set (String × String)}

def Done (m : MetroLegs) (K : Set (String × String)) (w : DeleteWorld) : Prop :=
  ∀ leg ∈ K, m.LegDone w leg

theorem safe_reads {α : Type} {p : CtrlProg α} (hK : ∀ leg ∈ K, leg ∈ m.legs) (hw : m.Done K w)
    (hp : Calls (CtrlCall.Reads symID) p) : Yields m.answers (fun w' _ => m.Done K w') w p :=
  SafeIn.of_calls hw hp fun _ _ hc hw => ⟨trivial, fun _ _ ha leg hl =>
    answers_reads hc ha (hK leg hl) (hw leg hl)⟩

theorem Done.insert (hK : m.Done K w) (hl : m.LegDone w (symID, devID)) :
    m.Done (insert (symID, devID) K) w := by
  rintro leg (rfl | hmem)
  · exact hl
  · exact hK leg hmem

theorem deleteVolume_done (hn : DriverName m.volName) (hmem : (symID, devID) ∈ m.legs)
    (hK : ∀ leg ∈ K, leg ∈ m.legs ∧ leg ≠ (symID, devID)) (hw : m.Done K w) :
    Yields m.answers (fun w' err => m.Done K w' ∧ (err = none → m.LegDone w' (symID, devID))) w
      (deleteVolume cfg symID m.volName devID) := by
  have hl : ∀ leg ∈ K, leg ∈ m.legs := fun leg hle => (hK leg hle).1
  have hl' : ∀ leg ∈ insert (symID, devID) K, leg ∈ m.legs := by
    rintro leg (rfl | hle)
    · exact hmem
    · exact hl leg hle
  have hre := reads_getVolumeByID symID devID
  refine ⟨trivial, fun answer w₁ han => ?_⟩
  have hw₁ : m.Done K w₁ := fun leg hle =>
    answers_reads hre han (hl leg hle) (hw leg hle)
  obtain ⟨w₀, -, ⟨ha, hr⟩, -⟩ := han
  rcases answer with err | vol
  · refine .ite (fun hf => ?_) fun _ => ?_
    · -- An array that has the device does not say that it could not find it.
      refine ⟨hw₁, fun _ => .inl fun v hv => ?_⟩
      rw [ha] at hv
      rw [hr (hv ▸ Option.some_ne_none v)] at hf
      cases hf
    · exact ⟨hw₁, nofun⟩
  obtain ⟨v, hv, rfl⟩ := hr
  refine .ite (fun _ => ?_) fun hm => ?_
  · refine (safe_reads hl hw₁ (checkMaskingViews_reads _)).bind ?_
    rintro w₂ (_ | err) hw₂
    case some => exact ⟨hw₂, nofun⟩
    dsimp only
    split
    case isTrue =>
      refine ⟨trivial, fun answer w₃ han => ?_⟩
      have hw₃ : m.Done K w₃ := fun leg hle =>
        answers_rename han (hl leg hle) (hK leg hle).2 (hw₂ leg hle)
      rcases answer with err | _ | renamed
      · exact ⟨hw₃, nofun⟩
      · exact ⟨hw₃, nofun⟩
      · exact ⟨hw₃, fun _ => legDone_of_rename (sourceName_not_match hn) han⟩
    case isFalse =>
      refine ⟨trivial, fun answer w₃ han => ?_⟩
      have hw₃ : m.Done K w₃ := fun leg hle =>
        answers_rename han (hl leg hle) (hK leg hle).2 (hw₂ leg hle)
      rcases answer with err | _ | renamed
      · exact ⟨hw₃, nofun⟩
      · exact ⟨hw₃, nofun⟩
      · have hle := legDone_of_rename (deletionName_not_match hn _) han
        refine SafeIn.bind (safe_reads hl' (hw₃.insert hle) queueDeviceForDeletion_reads) ?_
        intro w₄ err hw₄
        exact ⟨fun leg hle => hw₄ leg (.inr hle), fun _ => hw₄ _ (.inl rfl)⟩
  · have hle : m.LegDone w₁ (symID, devID) := by
      refine .inl fun v' hv' => ?_
      rw [ha, hv] at hv'
      cases hv'
      exact Bool.eq_false_iff.mpr hm
    split
    · refine SafeIn.bind (safe_reads hl' (hw₁.insert hle) queueDeviceForDeletion_reads) ?_
      intro w₂ err hw₂
      exact ⟨fun leg hle => hw₂ leg (.inr hle), fun _ => hw₂ _ (.inl rfl)⟩
    · exact ⟨hw₁, fun _ => hle⟩

theorem answers_defer {operationType : Journal.OperationType} {volumeID arrayID rdfGroupNo : String}
    {w' : DeleteWorld} {leg : String × String}
    {r : CtrlAnswer (.deferOperation operationType volumeID arrayID rdfGroupNo)}
    (han : m.answers w (.deferOperation operationType volumeID arrayID rdfGroupNo) r w')
    (hl : leg ∈ m.legs) (hdo : m.LegDone w leg) : m.LegDone w' leg := by
  obtain ⟨w₁, hm, ha, -, hj⟩ := han
  have hs : w₁.journal ⊆ w'.journal := by
    rcases r with err | token
    · rcases hj with h | h
      · rw [h]
      · rw [h]
        exact Set.subset_insert _ _
    · rw [show w'.journal = _ from hj]
      exact Set.subset_insert _ _
  rcases hm.keeps leg hl hdo with hd | ⟨key, hk, hc⟩
  · refine .inl ?_
    rw [ha]
    exact hd
  · exact .inr ⟨key, hs hk, hc⟩

theorem deferCleanup_done (hK : ∀ leg ∈ K, leg ∈ m.legs) (hw : m.Done K w) :
    Yields m.answers
      (fun w' response => response = .success → m.Done K w' ∧ m.LegDone w' (m.remoteSymID, devID)) w
      (deferCleanup m.handle m.remoteSymID) := by
  refine ⟨trivial, fun answer w₁ ha => ?_⟩
  have hw₁ : m.Done K w₁ := fun leg hl => answers_defer ha (hK leg hl) (hw leg hl)
  rcases answer with err | token
  · exact nofun
  · obtain ⟨w₀, -, -, -, hj⟩ := ha
    refine fun _ => ⟨hw₁, .inr ⟨⟨m.handle, .deviceCleanup, m.remoteSymID, ""⟩, ?_, rfl, rfl, rfl⟩⟩
    rw [show w₁.journal = _ from hj]
    exact Set.mem_insert _ _

theorem deleteRemote_done (hn : DriverName m.volName)
    (hK : ∀ leg ∈ K, leg ∈ m.legs ∧ leg ≠ (m.remoteSymID, m.remoteDevID)) (hw : m.Done K w) :
    Yields m.answers (fun w' response => response = .success →
        m.Done K w' ∧ m.LegDone w' (m.remoteSymID, m.remoteDevID)) w
      (deleteRemote cfg m.handle m.csiID) := by
  have hl : ∀ leg ∈ K, leg ∈ m.legs := fun leg hle => (hK leg hle).1
  have hmem : (m.remoteSymID, m.remoteDevID) ∈ m.legs := List.mem_cons_of_mem _ (by simp)
  refine ⟨trivial, fun answer w₁ han => ?_⟩
  have hw₁ : m.Done K w₁ := fun leg hle =>
    answers_rename han (hl leg hle) (hK leg hle).2 (hw leg hle)
  rcases answer with err | vol
  · refine .ite (fun hf => ?_) fun _ => ?_
    · obtain ⟨w₀, -, -, -, -, ha⟩ := han
      obtain ⟨hno, har⟩ := ha hf
      refine fun _ => ⟨hw₁, .inl fun v hv => ?_⟩
      rw [har, show w₀.arrays.volumes m.remoteSymID m.remoteDevID = none from hno] at hv
      cases hv
    · split
      · exact deferCleanup_done hl hw₁
      · exact nofun
  · refine (deleteVolume_done hn hmem hK hw₁).bind ?_
    rintro w₂ (_ | err) ⟨hw₂, hle⟩
    · exact fun _ => ⟨hw₂, hle rfl⟩
    · dsimp only
      split
      · exact deferCleanup_done hl hw₂
      · exact nofun

end

section

variable {m} {cfg : ServiceConfig} {w : DeleteWorld} {D : Prop}

structure Before (m : MetroLegs) (D : Prop) (w : DeleteWorld) : Prop where
  found : w.found = false
  done : D → m.LegsDone w

theorem Before.idle {w' : DeleteWorld} {c : CtrlCall} {r : CtrlAnswer c} {symID : String}
    (hw : m.Before D w) (hc : c.Idle symID) (ha : m.answers w c r w') : m.Before D w' := by
  refine ⟨(answers_idle hc ha).trans hw.found, fun hD leg hl => ?_⟩
  exact answers_reads hc.1 ha hl (hw.done hD leg hl)

/-- A success after which the legs may be not done with: no device was found. -/
def Outcome (m : MetroLegs) (D : Prop) (w : DeleteWorld) (response : DeleteResponse) : Prop :=
  response = .success → w.found = true ∨ D → m.LegsDone w

theorem Before.outcome {response : DeleteResponse} (hw : m.Before D w) :
    m.Outcome D w response := by
  rintro - (hf | hD)
  · rw [hw.found] at hf
    cases hf
  · exact hw.done hD

theorem deleteFileSystem_done {fsID : String} (hw : m.Before D w) :
    Yields m.answers (m.Outcome D) w (deleteFileSystem m.symID m.volName fsID) := by
  refine (SafeIn.of_calls hw deleteFileSystem_idle fun c w hc hw => ?_).mono
    fun _ _ hw => hw.outcome
  exact ⟨trivial, fun _ _ ha => hw.idle hc ha⟩

theorem legsDone_of_remote (hl : m.LegDone w (m.symID, m.devID))
    (hr : m.LegDone w (m.remoteSymID, m.remoteDevID)) : m.LegsDone w := by
  intro leg hle
  rcases List.mem_cons.mp hle with rfl | hle
  · exact hl
  · obtain rfl := List.mem_singleton.mp hle
    exact hr

theorem deleteRemote_both (hn : DriverName m.volName) (hl : m.LegDone w (m.symID, m.devID)) :
    Yields m.answers (fun w' response => response = .success → m.LegsDone w') w
      (deleteRemote cfg m.handle m.csiID) := by
  by_cases hsa : (m.symID, m.devID) = (m.remoteSymID, m.remoteDevID)
  · -- Both legs are one device.
    refine (deleteRemote_done (K := ∅) hn (fun _ hle => hle.elim)
      fun _ hle => hle.elim).mono fun w' response hp hs => ?_
    have hr := (hp hs).2
    exact legsDone_of_remote (hsa ▸ hr) hr
  · refine (deleteRemote_done (K := {(m.symID, m.devID)}) hn ?_ ?_).mono fun w' response hp hs => ?_
    · rintro leg rfl
      exact ⟨List.mem_cons_self, hsa⟩
    · rintro leg rfl
      exact hl
    · obtain ⟨hk, hr⟩ := hp hs
      exact legsDone_of_remote (hk _ rfl) hr

theorem deleteVolumeRequest_done (hn : DriverName m.volName) (hme : m.remoteSymID ≠ "")
    (hw : m.Before D w) : Yields m.answers (m.Outcome D) w (deleteVolumeRequest cfg m.handle) := by
  simp only [deleteVolumeRequest, m.parseCsiID_handle]
  refine ⟨trivial, fun answer w₁ ha => ?_⟩
  have hw₁ := hw.idle (idle_of_array_none m.symID rfl rfl) ha
  rcases answer with err | _
  · exact hw₁.outcome
  refine ⟨trivial, fun answer w₂ ha => ?_⟩
  have hw₂ := hw₁.idle (idle_of_array_none m.symID rfl rfl) ha
  rcases answer with err | _
  · intro hs
    cases hs
  refine ⟨trivial, fun answer w₃ ha => ?_⟩
  have hw₃ := hw₂.idle (idle_of_array_none m.symID rfl rfl) ha
  rcases answer with err | _
  · intro hs
    cases hs
  refine ⟨trivial, fun answer w₄ ha => ?_⟩
  rcases answer with err | vol
  · have hr := reads_getVolumeByID m.symID m.devID
    have hd : D → m.LegsDone w₄ := fun hD leg hle =>
      answers_reads hr ha hle (hw₃.done hD leg hle)
    obtain ⟨w₀, hm, -, -, hf⟩ := ha
    exact deleteFileSystem_done ⟨hf.trans (hm.found.trans hw₃.found), hd⟩
  · refine (deleteVolume_done (K := ∅) hn List.mem_cons_self (fun _ hle => hle.elim)
      fun _ hle => hle.elim).bind ?_
    rintro w₅ (_ | err) ⟨-, hl⟩
    · rw [if_pos (show m.csiID.remoteSymID ≠ "" from hme)]
      exact (deleteRemote_both hn (hl rfl)).mono fun _ _ hp hs _ => hp hs
    · intro hs
      cases hs

end

end MetroLegs

/-- The attempts to delete a volume, and what happens between them. -/
inductive DeleteStep (cfg : ServiceConfig) (m : MetroLegs) : DeleteWorld → DeleteWorld → Prop where
  | attempt {w w' : DeleteWorld} {response : DeleteResponse}
      (hreturns : CanReturn m.answers { w with found := false } (deleteVolumeRequest cfg m.handle)
        w' response) : DeleteStep cfg m w w'
  | meanwhile {w w' : DeleteWorld} (hmeanwhile : m.Meanwhile w w') : DeleteStep cfg m w w'

/-- After a success the legs are done with if the look-up of the local device has found it, or the
legs were done with before. -/
theorem legsDone_of_success (cfg : ServiceConfig) (m : MetroLegs) (w w' : DeleteWorld)
    (hn : DriverName m.volName) (hm : m.remoteSymID ≠ "")
    (hs : CanReturn m.answers { w with found := false } (deleteVolumeRequest cfg m.handle)
      w' .success) (hl : w'.found = true ∨ m.LegsDone w) : m.LegsDone w' := by
  have hb : m.Before (m.LegsDone w) { w with found := false } :=
    ⟨rfl, fun hd leg hle => (hd leg hle).congr rfl rfl⟩
  exact (MetroLegs.deleteVolumeRequest_done hn hm hb).canReturn hs rfl hl

/-! ## A retry after the local device is gone -/

section

def retriedLegs : MetroLegs where
  volName := "csi-ABC-pmax-1111111111-ns1"
  symID := "000120000548"
  remoteSymID := "000120000549"
  devID := "011AB"
  remoteDevID := "022CD"
  named := by decide
  serials := by decide
  plainSym := by decide
  plainRemoteSym := by decide
  plainDev := by decide
  plainRemoteDev := by decide

theorem retriedLegs_named : DriverName retriedLegs.volName := ⟨by decide, by decide⟩

def retriedService : ServiceConfig := ⟨["000120000548", "000120000549"], true⟩

def retriedArrays (device remote : Option Volume) : Arrays where
  volumes sym dev :=
    if sym = "000120000548" ∧ dev = "011AB" then device
    else if sym = "000120000549" ∧ dev = "022CD" then remote
    else none
  storageGroups _ _ := none

def looseVolume (volumeID identifier : String) : Volume := ⟨volumeID, identifier, [], false, false, 0⟩

def liveDevice : Volume := looseVolume "011AB" retriedLegs.volName

def remoteDevice : Volume := looseVolume "022CD" retriedLegs.volName

def markedDevice : Volume := looseVolume "011AB" (deletionName retriedLegs.volName)

theorem MetroLegs.Meanwhile.refl (m : MetroLegs) (w : DeleteWorld) : m.Meanwhile w w :=
  ⟨fun _ _ hd => hd, rfl⟩

variable {m : MetroLegs} {w : DeleteWorld}

theorem answers_of_now {w' : DeleteWorld} {c : CtrlCall} {r : CtrlAnswer c}
    (hn : MetroLegs.answersNow w c r w') : m.answers w c r w' :=
  ⟨w, .refl m w, hn⟩

theorem answers_found {sym : String} {v : Volume} (hv : w.arrays.volumes sym v.volumeID = some v) :
    m.answers w (.pmax (.getVolumeByID sym v.volumeID)) (.ok v) { w with found := true } :=
  answers_of_now ⟨⟨rfl, v, hv, rfl⟩, rfl, rfl⟩

theorem answers_renamed {sym newName : String} {v : Volume}
    (hv : w.arrays.volumes sym v.volumeID = some v) :
    m.answers w (.pmax (.renameVolume sym v.volumeID newName))
      (.ok (some { v with volumeIdentifier := newName }))
      { w with arrays := w.arrays.rename sym v.volumeID newName } :=
  answers_of_now ⟨⟨rfl, v, hv, rfl⟩, rfl, rfl, trivial⟩

def firstAttempt (err : PmaxError) : History CtrlCall CtrlAnswer :=
  [⟨.getPowerMaxClient "000120000548" "000120000549", .ok ()⟩,
    ⟨.checkAndUpdatePendingState retriedLegs.handle, .ok ()⟩,
    ⟨.requireProbe, .ok ()⟩,
    ⟨.pmax (.getVolumeByID "000120000548" "011AB"), .ok liveDevice⟩,
    ⟨.pmax (.getVolumeByID "000120000548" "011AB"), .ok liveDevice⟩,
    ⟨.pmax (.renameVolume "000120000548" "011AB" (deletionName retriedLegs.volName)),
      .ok (some markedDevice)⟩,
    ⟨.deletionRequestChanHasRoom, true⟩,
    ⟨.getPowerMaxClient "000120000548" "", .ok ()⟩,
    ⟨.pmax (.getVolumeByID "000120000548" "011AB"), .ok markedDevice⟩,
    ⟨.deletionQueueChan "000120000548" "011AB" (deletionName retriedLegs.volName), ()⟩,
    ⟨.pmax (.renameVolume "000120000549" "022CD" retriedLegs.volName), .error err⟩]

def markedArrays (remote : Option Volume) : Arrays :=
  (retriedArrays (some liveDevice) remote).rename "000120000548" "011AB"
    (deletionName retriedLegs.volName)

theorem firstAttempt_consistent (remote : Option Volume) (err : PmaxError)
    (hr : contains err.text cannotBeFound = true → remote = none) :
    Consistent retriedLegs.answers ⟨retriedArrays (some liveDevice) remote, ∅, false⟩
      (firstAttempt err) ⟨markedArrays remote, ∅, true⟩ := by
  have hl : (retriedArrays (some liveDevice) remote).volumes "000120000548" "011AB" =
      some liveDevice := rfl
  have hm : (markedArrays remote).volumes "000120000548" "011AB" = some markedDevice := rfl
  have ho : (markedArrays remote).volumes "000120000549" "022CD" = remote := rfl
  refine .cons (answers_of_now ⟨rfl, rfl, rfl⟩) ?_
  refine .cons (answers_of_now ⟨rfl, rfl, rfl⟩) ?_
  refine .cons (answers_of_now ⟨rfl, rfl, rfl⟩) ?_
  refine .cons (answers_found (v := liveDevice) hl) ?_
  refine .cons (answers_found (v := liveDevice) hl) ?_
  refine .cons (answers_renamed (v := liveDevice) hl) ?_
  refine .cons (answers_of_now ⟨rfl, rfl, rfl⟩) ?_
  refine .cons (answers_of_now ⟨rfl, rfl, rfl⟩) ?_
  refine .cons (answers_found (v := markedDevice) hm) ?_
  refine .cons (answers_of_now ⟨rfl, rfl, rfl⟩) ?_
  refine .cons (answers_of_now ⟨.inl rfl, rfl, rfl, fun hf => ?_⟩) .nil
  exact ⟨ho.trans (hr hf), rfl⟩

def retriedAttempt : History CtrlCall CtrlAnswer :=
  [⟨.getPowerMaxClient "000120000548" "000120000549", .ok ()⟩,
    ⟨.checkAndUpdatePendingState retriedLegs.handle, .ok ()⟩,
    ⟨.requireProbe, .ok ()⟩,
    ⟨.pmax (.getVolumeByID "000120000548" "011AB"), .error ⟨cannotBeFound, false⟩⟩,
    ⟨.pmax (.getFileSystemByID "000120000548" "011AB"), .error ⟨cannotBeFound, false⟩⟩]

theorem retriedAttempt_consistent (remote : Option Volume) :
    Consistent retriedLegs.answers ⟨retriedArrays none remote, ∅, false⟩ retriedAttempt
      ⟨retriedArrays none remote, ∅, false⟩ := by
  refine .cons (answers_of_now ⟨rfl, rfl, rfl⟩) ?_
  refine .cons (answers_of_now ⟨rfl, rfl, rfl⟩) ?_
  refine .cons (answers_of_now ⟨rfl, rfl, rfl⟩) ?_
  refine .cons (answers_of_now ⟨⟨rfl, fun hd => absurd rfl hd⟩, rfl, rfl⟩) ?_
  exact .cons (answers_of_now ⟨rfl, rfl, rfl⟩) .nil

def permissionDenied : PmaxError := ⟨"permission denied", false⟩

theorem firstAttempt_fails :
    Exec (deleteVolumeRequest retriedService retriedLegs.handle) (firstAttempt permissionDenied)
      (.failed ⟨.invalidArgument,
        "RenameRemoteVolume: Failed to rename volume 022CD permission denied"⟩) :=
  exec_of_follow (by decide +kernel)

theorem firstAttempt_succeeds :
    Exec (deleteVolumeRequest retriedService retriedLegs.handle)
      (firstAttempt ⟨cannotBeFound, false⟩) .success :=
  exec_of_follow (by decide +kernel)

theorem retriedAttempt_succeeds :
    Exec (deleteVolumeRequest retriedService retriedLegs.handle) retriedAttempt .success :=
  exec_of_follow (by decide +kernel)

theorem firstAttempt_legsDone : retriedLegs.LegsDone ⟨markedArrays none, ∅, true⟩ :=
  legsDone_of_success retriedService retriedLegs
    ⟨retriedArrays (some liveDevice) none, ∅, false⟩ _ retriedLegs_named (by decide)
    ⟨_, firstAttempt_consistent none _ fun _ => rfl, firstAttempt_succeeds⟩ (.inl rfl)

theorem worker_meanwhile (remote : Option Volume) :
    retriedLegs.Meanwhile ⟨markedArrays remote, ∅, true⟩ ⟨retriedArrays none remote, ∅, true⟩ := by
  refine ⟨fun leg hl hd => ?_, rfl⟩
  rcases List.mem_cons.mp hl with rfl | hl
  · exact .inl nofun
  · obtain rfl := List.mem_singleton.mp hl
    exact hd

/-- The first attempt marks the local device and fails, the worker removes it, and the retry
succeeds without the remote one. -/
theorem retriedAttempt_leaves_remote :
    ¬ ∀ (cfg : ServiceConfig) (m : MetroLegs) (w₀ w w' : DeleteWorld), DriverName m.volName →
      m.remoteSymID ≠ "" → Relation.ReflTransGen (DeleteStep cfg m) w₀ w →
      CanReturn m.answers { w with found := false } (deleteVolumeRequest cfg m.handle) w'
        .success → m.LegsDone w' := by
  intro hc
  have hf : DeleteStep retriedService retriedLegs
      ⟨retriedArrays (some liveDevice) (some remoteDevice), ∅, false⟩
      ⟨markedArrays (some remoteDevice), ∅, true⟩ :=
    .attempt ⟨_, firstAttempt_consistent _ _ (by decide), firstAttempt_fails⟩
  have hw : DeleteStep retriedService retriedLegs ⟨markedArrays (some remoteDevice), ∅, true⟩
      ⟨retriedArrays none (some remoteDevice), ∅, true⟩ := .meanwhile (worker_meanwhile _)
  have hdo := hc retriedService retriedLegs _ _ ⟨retriedArrays none (some remoteDevice), ∅, false⟩
    retriedLegs_named (by decide) ((Relation.ReflTransGen.single hf).tail hw)
    ⟨_, retriedAttempt_consistent _, retriedAttempt_succeeds⟩
  rcases hdo ("000120000549", "022CD") (List.mem_cons_of_mem _ List.mem_cons_self) with
    hd | ⟨key, hk, -⟩
  · have hm := hd remoteDevice rfl
    revert hm
    decide
  · exact hk

end

end PowerMaxCsi.Service
