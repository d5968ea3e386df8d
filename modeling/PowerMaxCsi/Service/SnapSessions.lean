import Mathlib.Data.Multiset.AddSub
import PowerMaxCsi.Lib.World
import PowerMaxCsi.Service.DeleteVolume

/-!
# Sessions of snapshots

`UnlinkAndTerminate` marks the volume for deletion after the last snapshot, which it knows by
counting those that it has terminated.
-/

namespace PowerMaxCsi.Service.Snap

open Strings Prog

structure SnapTarget where
  target : String
  (cpMode defined : Bool)
deriving DecidableEq

structure SnapSession where
  (source name : String)
  generation : Int
  expired : Bool
  target : List SnapTarget
deriving DecidableEq

structure SnapInfo where
  /-- `VolumeSnapshotSource`, which has no field for the source. -/
  volumeSnapshotSource : List SnapSession
  /-- `Copy` and `Defined` of each `VolumeSnapshotLink`. -/
  volumeSnapshotLink : List (Bool × Bool)

structure GenInfo where
  (snapshotName sourceDevice targetDevice : String)
  generation : Int
  expired : Bool

/-- Calls to the array.  `sortSlice` is one, too: the order of equal generations is open. -/
inductive Call
  | getVolumeSnapInfo (deviceID : String)
  | getPrivVolumeByID (deviceID : String)
  | modifySnapshotS (source target name : String) (generation : Int)
  | getSnapshotInfo (srcDev snapID : String)
  | deleteSnapshotS (srcDev snapID : String)
  | getVolumeByID (deviceID : String)
  | markVolumeForDeletion (deviceID : String)
  | sortSlice (sessions : List SnapSession)
deriving DecidableEq

/-- Errors are texts, `none` for nil.  Of a private volume `SnapVXTgt` and the first session are
read. -/
abbrev Answer : Call → Type
  | .getVolumeSnapInfo _ => Except String SnapInfo
  | .getPrivVolumeByID _ => Except String (Bool × Option GenInfo)
  | .modifySnapshotS .. | .deleteSnapshotS .. | .markVolumeForDeletion _ => Option String
  | .getSnapshotInfo .. => Except String Bool
  | .getVolumeByID _ => Except String String
  | .sortSlice _ => List SnapSession

abbrev SnapProg := Prog Call Answer

def getSnapSessions (deviceID : String) :
    SnapProg (Except String (List SnapSession × Option SnapSession)) := do
  match ← ask (Call.getVolumeSnapInfo deviceID) with
  | .error err => return .error err
  | .ok snapInfo =>
    let srcSession := snapInfo.volumeSnapshotSource.map ({ · with source := deviceID })
    match snapInfo.volumeSnapshotLink with
    | [] => return .ok (srcSession, none)
    | (copy, defined) :: _ =>
      match ← ask (Call.getPrivVolumeByID deviceID) with
      | .error err => return .error err
      | .ok (true, some s) =>
        let target := ⟨s.targetDevice, copy, defined⟩
        return .ok (srcSession,
          some ⟨s.sourceDevice, s.snapshotName, s.generation, s.expired, [target]⟩)
      | .ok _ => return .ok (srcSession, none)

def alreadyUnlinked (err : String) : Bool :=
  contains err "The Device(s) is (are) already in the desired state or mode"

def unlinkTargets (s : SnapSession) (maxUnlinkCount : Nat) :
    Nat → List SnapTarget → SnapProg (Option String)
  | _, [] => return none
  | counter, target :: rest =>
    if target.defined then do
      match ← ask (Call.modifySnapshotS s.source target.target s.name s.generation) with
      | some err => if alreadyUnlinked err then return none else return some err
      | none =>
        if maxUnlinkCount = 0 then unlinkTargets s maxUnlinkCount counter rest
        else if counter + 1 = maxUnlinkCount then return none
        else unlinkTargets s maxUnlinkCount (counter + 1) rest
    else return some "Not all the targets are in Defined state"

def unlinkSnapshot (s : SnapSession) (maxUnlinkCount : Nat) : SnapProg (Option String) :=
  unlinkTargets s maxUnlinkCount 0 s.target

/-- `TerminateSnapshot` and `RemoveSnapshot`.  An error of the lookup is taken for a deletion. -/
def terminateSnapshot (srcDev snapID : String) : SnapProg (Option String) := do
  match ← ask (Call.getSnapshotInfo srcDev snapID) with
  | .error _ | .ok false => return none
  | .ok true =>
    return (← ask (Call.deleteSnapshotS srcDev snapID)).map fun err =>
      "DeleteSnapshot failed with error (" ++ err ++ ")"

/-- The loop over the source sessions; it returns what is left of `noOfSnapsOnSrc`. -/
def terminateSessions (snapID : String) : Int → List SnapSession → SnapProg (Except String Int)
  | noOfSnapsOnSrc, [] => return .ok noOfSnapsOnSrc
  | noOfSnapsOnSrc, s :: rest =>
    if s.name = snapID ∨ snapID = "" then do
      match ← unlinkSnapshot s 0 with
      | some err => return .error err
      | none =>
        if s.expired then terminateSessions snapID noOfSnapsOnSrc rest
        else
          match ← terminateSnapshot s.source s.name with
          | some err => return .error ("Failed to terminate snapshot - Error(" ++ err ++ ")")
          | none => terminateSessions snapID (noOfSnapsOnSrc - 1) rest
    else terminateSessions snapID noOfSnapsOnSrc rest

def isSourceTaggedToDelete (volName : String) : Bool :=
  let volComponents := split volName '-'
  decide (3 ≤ volComponents.length) && volComponents.getLast? == some delSrcTag

/-- The end of `UnlinkAndTerminate`, with what is left of the counter. -/
def deleteTagged (deviceID : String) (noOfSnapsOnSrc : Int) : SnapProg (Option String) :=
  if noOfSnapsOnSrc = 0 then do
    match ← ask (Call.getVolumeByID deviceID) with
    | .error _ => return none
    | .ok volumeIdentifier =>
      if isSourceTaggedToDelete volumeIdentifier then
        let _ ← ask (Call.markVolumeForDeletion deviceID)
      return none
  else return none

def unlinkAndTerminate (deviceID snapID : String) : SnapProg (Option String) := do
  match ← getSnapSessions deviceID with
  | .error err => return some err
  | .ok (srcSessions, tgtSession) =>
    if tgtSession.isNone && srcSessions.isEmpty then
      return some ("Couldn't find any source or target session for " ++ deviceID)
    else
      match ← tgtSession.elim (Prog.ret none) (unlinkSnapshot · 0) with
      | some err => return some err
      | none =>
        let sessions ← ask (Call.sortSlice srcSessions)
        match ← terminateSessions snapID srcSessions.length sessions with
        | .error err => return some err
        | .ok noOfSnapsOnSrc => deleteTagged deviceID noOfSnapsOnSrc

variable {s : SnapSession} {h : History Call Answer}

abbrev SnapSession.unlink (s : SnapSession) (t : SnapTarget) : Call :=
  .modifySnapshotS s.source t.target s.name s.generation

def Unlinks (r : Option String) : Prop := ∀ err ∈ r, alreadyUnlinked err = true

/-- Each of the targets was asked for, and the request succeeded or was answered with "already in
the desired state". -/
def SnapSession.Unlinked (s : SnapSession) (h : History Call Answer) (targets : List SnapTarget) :
    Prop :=
  ∀ t ∈ targets, ∃ r, ⟨s.unlink t, r⟩ ∈ h ∧ Unlinks r

/-- No request but that of the last target is answered with "already in the desired state". -/
def SnapSession.OnlyLast (s : SnapSession) (h : History Call Answer) (targets : List SnapTarget) :
    Prop :=
  ∀ t err, ⟨s.unlink t, some err⟩ ∈ h → alreadyUnlinked err = true →
    ∃ last ∈ targets.getLast?, last.target = t.target

theorem SnapSession.unlink_ne {t t' : SnapTarget} (hne : t'.target ≠ t.target) :
    s.unlink t' ≠ s.unlink t := by
  simpa using hne

/-- The answer to the first target says nothing about the others. -/
theorem SnapSession.unlinked_cons {t : SnapTarget} {rest : List SnapTarget}
    (hd : ∀ t' ∈ rest, t'.target ≠ t.target) :
    s.Unlinked (⟨s.unlink t, none⟩ :: h) (t :: rest) ↔ s.Unlinked h rest := by
  constructor
  · intro hu t' ht
    obtain ⟨r, hm, hr⟩ := hu t' (List.mem_cons_of_mem _ ht)
    rcases List.mem_cons.mp hm with he | hm
    · exact absurd (congrArg Sigma.fst he) (unlink_ne (hd t' ht))
    · exact ⟨r, hm, hr⟩
  · rintro hu t' (_ | ⟨_, ht⟩)
    · exact ⟨none, List.mem_cons_self, by simp [Unlinks]⟩
    · obtain ⟨r, hm, hr⟩ := hu t' ht
      exact ⟨r, List.mem_cons_of_mem _ hm, hr⟩

/-- A loop that ends before the last target has not asked for the targets that are left. -/
theorem SnapSession.stopped {t t' : SnapTarget} {rest : List SnapTarget} {err : String}
    (hne : ∀ t'' ∈ t' :: rest, t''.target ≠ t.target) (ha : alreadyUnlinked err = true) :
    ¬ s.Unlinked [⟨s.unlink t, some err⟩] (t :: t' :: rest) ∧
      ¬ s.OnlyLast [⟨s.unlink t, some err⟩] (t :: t' :: rest) := by
  refine ⟨fun hu => ?_, fun ho => ?_⟩
  · obtain ⟨_, hm, -⟩ := hu t' (by simp)
    simp only [List.mem_singleton] at hm
    exact SnapSession.unlink_ne (hne t' (by simp)) (congrArg Sigma.fst hm)
  · obtain ⟨last, hl, he⟩ := ho t err List.mem_cons_self ha
    rw [List.getLast?_cons_cons] at hl
    exact hne last (List.mem_of_mem_getLast? hl) he

theorem unlinkTargets_iff {targets : List SnapTarget} {n : Nat} {r : Option String}
    (hd : (targets.map (·.target)).Nodup) (hex : Exec (unlinkTargets s 0 n targets) h r) :
    (r = none → s.Unlinked h targets) ↔ s.OnlyLast h targets := by
  induction targets generalizing h with
  | nil =>
    cases hex
    simp [SnapSession.Unlinked, SnapSession.OnlyLast]
  | cons t rest ih =>
    have hne : ∀ t' ∈ rest, t'.target ≠ t.target := by
      simpa using (List.nodup_cons.mp hd).1
    have hd := (List.nodup_cons.mp hd).2
    unfold unlinkTargets at hex
    split at hex
    case isFalse =>
      cases hex
      simp [SnapSession.OnlyLast]
    case isTrue =>
      cases hex with
      | @call _ _ a h _ hex =>
        cases a with
        | none =>
          rw [SnapSession.unlinked_cons hne, ih hd hex]
          cases rest with
          | nil =>
            cases hex
            simp [SnapSession.OnlyLast]
          | cons t' rest => simp [SnapSession.OnlyLast, List.getLast?_cons_cons]
        | some err =>
          have hex : Exec (if alreadyUnlinked err then .ret none else .ret (some err)) h r := hex
          split at hex
          case isFalse hf =>
            cases hex
            simp [SnapSession.OnlyLast, hf]
          case isTrue ha =>
            cases hex
            cases rest with
            | nil => simp +contextual [SnapSession.Unlinked, SnapSession.OnlyLast, Unlinks, ha]
            | cons t' rest =>
              obtain ⟨hu, ho⟩ := s.stopped hne ha
              exact iff_of_false (fun h => hu (h rfl)) ho

/-- **Unlinking.**  For a session with distinct targets: nil says that all are unlinked exactly if
no request but the last one is answered with "already in the desired state". -/
theorem unlinked_iff {r : Option String} (hd : (s.target.map (·.target)).Nodup)
    (hex : Exec (unlinkSnapshot s 0) h r) :
    (r = none → s.Unlinked h s.target) ↔ s.OnlyLast h s.target :=
  unlinkTargets_iff hd hex

def twoTargets : SnapSession :=
  ⟨"00001", "csi-snap", 0, false, [⟨"00002", true, true⟩, ⟨"00003", true, true⟩]⟩

def desiredState : String := "The Device(s) is (are) already in the desired state or mode"

theorem unlinked_twoTargets :
    twoTargets.Unlinked [⟨.modifySnapshotS "00001" "00002" "csi-snap" 0, none⟩,
      ⟨.modifySnapshotS "00001" "00003" "csi-snap" 0, some desiredState⟩] twoTargets.target := by
  refine (unlinked_iff (by decide) (exec_of_follow (by decide +kernel))).mpr ?_ rfl
  intro t err hm _
  simp [twoTargets] at hm
  simp [twoTargets, hm]

/-- The target after the first one that was already unlinked is left linked. -/
theorem unlinkSnapshot_stops : ¬ ∀ s h, Exec (unlinkSnapshot s 0) h none →
    s.Unlinked h s.target := by
  intro h
  obtain ⟨r, hr, -⟩ := h twoTargets
    [⟨.modifySnapshotS "00001" "00002" "csi-snap" 0, some desiredState⟩]
    (exec_of_follow (by decide +kernel)) ⟨"00003", true, true⟩ (by decide)
  simp [twoTargets] at hr

def names (sessions : List SnapSession) : Multiset String :=
  (sessions : Multiset SnapSession).map (·.name)

/-- The sessions of a source by their names.  If `reliable`, a lookup fails only without a
session. -/
def answers (reliable : Prop) (w : Multiset String) : (c : Call) → Answer c → Multiset String → Prop
  | .getVolumeSnapInfo _, .ok info, w' => names info.volumeSnapshotSource = w ∧ w' ≤ w
  | .getSnapshotInfo _ snapID, .ok found, w' => (found = true ↔ snapID ∈ w) ∧ w' ≤ w
  | .getSnapshotInfo _ snapID, .error _, w' => (reliable → snapID ∉ w) ∧ w' ≤ w
  | .deleteSnapshotS _ snapID, none, w' => w' ≤ w.erase snapID
  | .sortSlice sessions, sorted, w' =>
    sorted.Perm sessions ∧ sorted.Pairwise (·.generation ≥ ·.generation) ∧ w' ≤ w
  | _, _, w' => w' ≤ w

/-- A volume is marked only without sessions. -/
def MarksUnused (w : Multiset String) (c : Call) : Prop :=
  ∀ deviceID, c = .markVolumeForDeletion deviceID → w = 0

variable {w m : Multiset String} {deviceID snapID : String}

theorem unlinkTargets_calls {maxUnlinkCount : Nat} {targets : List SnapTarget} (n : Nat) :
    Calls (fun c => ∃ t, c = s.unlink t) (unlinkTargets s maxUnlinkCount n targets) := by
  induction targets generalizing n with
  | nil => trivial
  | cons t rest ih =>
    refine Calls.ite ⟨⟨t, rfl⟩, fun r => ?_⟩ trivial
    cases r with
    | none => exact Calls.ite (ih n) (Calls.ite trivial (ih _))
    | some err => exact Calls.ite trivial trivial

theorem unlinkSnapshot_safe (hw : w ≤ m) (s : SnapSession) (n : Nat) :
    SafeIn (answers True) MarksUnused (fun w _ => w ≤ m) w (unlinkSnapshot s n) := by
  refine SafeIn.of_calls hw (unlinkTargets_calls 0) ?_
  rintro c w ⟨t, rfl⟩ hw
  exact ⟨by simp [MarksUnused], fun r w' ha => le_trans ha hw⟩

theorem terminateSnapshot_safe (hw : w ≤ snapID ::ₘ m) :
    SafeIn (answers True) MarksUnused (fun w err => err = none → w ≤ m) w
      (terminateSnapshot deviceID snapID) := by
  refine ⟨by simp [MarksUnused], fun r w' ha => ?_⟩
  match r with
  | .error _ =>
    intro _
    exact ha.2.trans ((Multiset.le_cons_of_notMem (ha.1 trivial)).mp hw)
  | .ok false =>
    intro _
    exact ha.2.trans ((Multiset.le_cons_of_notMem (by simpa using ha.1)).mp hw)
  | .ok true =>
    refine ⟨by simp [MarksUnused], fun r w'' hd => ?_⟩
    cases r with
    | some err => simp [SafeIn]
    | none =>
      intro _
      exact le_trans hd (Multiset.erase_le_iff_le_cons.mpr (ha.2.trans hw))

/-- The sessions that are left are among those that were skipped and those to come. -/
theorem terminateSessions_safe {sessions : List SnapSession} {n : Int}
    (hw : w ≤ m + names sessions) (hn : n = m.card + sessions.length) :
    SafeIn (answers True) MarksUnused (fun w r => r = .ok 0 → w = 0) w
      (terminateSessions snapID n sessions) := by
  induction sessions generalizing w m n with
  | nil =>
    intro h0
    obtain rfl : n = 0 := by simpa using h0
    obtain rfl : m = 0 := by simpa using hn.symm
    exact Multiset.le_zero.mp (by simpa [names] using hw)
  | cons s rest ih =>
    have hw : w ≤ s.name ::ₘ (m + names rest) := by
      simpa [names, ← Multiset.cons_coe, -Multiset.map_coe] using hw
    simp only [List.length_cons, Nat.cast_add, Nat.cast_one] at hn
    have hskip {w'} (hle : w' ≤ w) := ih (w := w') (m := s.name ::ₘ m) (n := n)
      (by simpa using hle.trans hw) (by simp [hn]; omega)
    refine SafeIn.ite (fun _ => ?_) fun _ => hskip le_rfl
    refine (unlinkSnapshot_safe le_rfl s 0).bind fun w₁ err h₁ => ?_
    cases err with
    | some err => simp [SafeIn]
    | none =>
      refine SafeIn.ite (fun _ => hskip h₁) fun _ => ?_
      refine (terminateSnapshot_safe (h₁.trans hw)).bind fun w₂ err h₂ => ?_
      cases err with
      | some err => simp [SafeIn]
      | none => exact ih (h₂ rfl) (by omega)

theorem getSnapSessions_safe :
    SafeIn (answers True) MarksUnused (fun w r => ∀ x, r = .ok x → w ≤ names x.1) w
      (getSnapSessions deviceID) := by
  refine ⟨by simp [MarksUnused], fun r w' ha => ?_⟩
  cases r with
  | error err => simp [SafeIn]
  | ok info =>
    have hw : w' ≤ names (info.volumeSnapshotSource.map ({ · with source := deviceID })) := by
      simpa [names, ← ha.1, Function.comp_def] using ha.2
    obtain ⟨sources, links⟩ := info
    cases links with
    | nil => simpa [SafeIn] using hw
    | cons link _ =>
      refine ⟨by simp [MarksUnused], fun r w'' hle => ?_⟩
      have hw := le_trans (b := w') hle hw
      match r with
      | .error _ => simp [SafeIn]
      | .ok (true, some _) | .ok (true, none) | .ok (false, _) => simpa [SafeIn] using hw

theorem deleteTagged_safe {n : Int} (hw : n = 0 → w = 0) :
    SafeIn (answers True) MarksUnused (fun _ _ => True) w (deleteTagged deviceID n) := by
  refine SafeIn.ite (fun hn => ⟨by simp [MarksUnused], fun r w' hle => ?_⟩) fun _ => trivial
  have h0 : w' = 0 := Multiset.le_zero.mp (hw hn ▸ hle)
  cases r with
  | error _ => trivial
  | ok volumeIdentifier =>
    exact SafeIn.ite (fun _ => ⟨fun _ _ => h0, fun _ _ _ => trivial⟩) fun _ => trivial

/-- **Soft deletion.**  If lookups are reliable, a volume is marked only when no snapshot of it is
left. -/
theorem unlinkAndTerminate_marks (deviceID snapID : String) (w : Multiset String) :
    SafeIn (answers True) MarksUnused (fun _ _ => True) w (unlinkAndTerminate deviceID snapID) := by
  refine getSnapSessions_safe.bind fun w₁ r h₁ => ?_
  cases r with
  | error err => trivial
  | ok x =>
    have h₁ := h₁ x rfl
    refine SafeIn.ite (fun _ => trivial) fun _ => ?_
    have ht : SafeIn (answers True) MarksUnused (fun w _ => w ≤ names x.1) w₁
        (x.2.elim (Prog.ret none) (unlinkSnapshot · 0)) := by
      cases x.2 with
      | none => exact h₁
      | some s => exact unlinkSnapshot_safe h₁ s 0
    refine ht.bind fun w₂ err h₂ => ?_
    cases err with
    | some err => trivial
    | none =>
      refine ⟨by simp [MarksUnused], fun sessions w₃ ha => ?_⟩
      obtain ⟨hp, -, h₃⟩ := ha
      have h₃ : w₃ ≤ 0 + names sessions := by
        rw [zero_add, names, Multiset.coe_eq_coe.mpr hp]
        exact h₃.trans h₂
      refine (terminateSessions_safe h₃ (by simp [hp.length_eq])).bind fun w₄ r h₄ => ?_
      cases r with
      | error err => trivial
      | ok n => exact deleteTagged_safe fun hn => h₄ (by rw [hn])

/-- A lookup fails and the snapshot stays. -/
theorem marked_after_failed_lookup : ¬ ∀ deviceID snapID w,
    SafeIn (answers False) MarksUnused (fun _ _ => True) w
      (unlinkAndTerminate deviceID snapID) := by
  intro h
  have h₁ := (h "00001" "" {"csi-snap"}).2 (.ok ⟨[⟨"00001", "csi-snap", 0, false, []⟩], []⟩)
    {"csi-snap"} ⟨rfl, le_rfl⟩
  have h₂ := h₁.2 [⟨"00001", "csi-snap", 0, false, []⟩] {"csi-snap"} ⟨.refl _, by simp, le_rfl⟩
  have h₃ := h₂.2 (.error "timeout") {"csi-snap"} ⟨False.elim, le_rfl⟩
  have h₄ := h₃.2 (.ok "csi-abc-vol-DS") {"csi-snap"} (le_refl (_ : Multiset String))
  exact absurd (h₄.1 "00001" rfl) (by simp)

end PowerMaxCsi.Service.Snap
