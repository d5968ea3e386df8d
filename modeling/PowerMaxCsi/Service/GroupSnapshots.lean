import Mathlib.Data.Rat.Defs
import Mathlib.Logic.Function.Basic
import PowerMaxCsi.Lib.Machine
import PowerMaxCsi.Service.VolumeHandles

/-!
# Snapshots of groups of volumes

`CreateVolumeGroupSnapshot` of `service/group_controller.go`, once the storage group is resolved:
it looks for the snapshot (`checkGroupSnapshotIdempotency`), registers for the storage group and
creates the snapshot.  `step` interleaves such requests; they look before they register, so that two
may find nothing and create it one after the other.
-/

namespace PowerMaxCsi.Service.GroupSnap

/-- An error of the array client, with `types.IsNotFoundError`. -/
structure ApiError where
  isNotFound : Bool
  text : String

inductive Failure
  | internal (text : String)
  | alreadyExists (text : String)
deriving DecidableEq

structure SourceVolume where
  name : String
  capacityGb : Rat

structure Snapshot where
  (snapshotID sourceVolumeID : String)
  sizeBytes : Int
deriving DecidableEq

/-- What the call is about; `csiVolID` is `devIDToCSIVolID`. -/
structure Group where
  (symID sgName snapName : String)
  csiVolID : String → String

def buildGroupSnapshotID (symID sgName snapName : String) : String :=
  symID ++ "/" ++ sgName ++ "/" ++ snapName

def buildMemberSnapshotID (snapName symID devID : String) : String :=
  snapName ++ "-" ++ symID ++ "-" ++ devID

/-- The last entry of a volume is in `capacityMap`. -/
def capacity (sourceVolume : List SourceVolume) (volumeID : String) : Option Rat :=
  (sourceVolume.reverse.find? (·.name = volumeID)).map (·.capacityGb)

def memberSnapshots (g : Group) (sourceVolume : List SourceVolume) :
    List String → Except Failure (List Snapshot)
  | [] => .ok []
  | vol :: rest =>
    match capacity sourceVolume vol with
    | none => .error (.internal ("volume " ++ vol ++ " not found in existing snapshot response"))
    | some gb => do
      let srcVolID := if g.csiVolID vol = "" then vol else g.csiVolID vol
      let size := gb * 1073741824
      let s := ⟨buildMemberSnapshotID g.snapName g.symID vol, srcVolID, size.num.tdiv size.den⟩
      return s :: (← memberSnapshots g sourceVolume rest)

def lookupFailed (err : ApiError) : Except Failure (Option (String × List Snapshot)) :=
  if err.isNotFound then .ok none
  else .error (.internal ("failed to check group snapshot idempotency: " ++ err.text))

/-- The answers are those of `GetStorageGroupSnapshotSnapIDs` and `GetStorageGroupSnapshotSnap`. -/
def checkGroupSnapshotIdempotency (g : Group) (volDetails : List String)
    (sgSnapIDs : Except ApiError (List Int))
    (sgSnapshot : Int → Except ApiError (Option (List SourceVolume))) :
    Except Failure (Option (String × List Snapshot)) :=
  match sgSnapIDs with
  | .error err => lookupFailed err
  | .ok [] => .ok none
  | .ok (snapID :: _) =>
    match sgSnapshot snapID with
    | .error err => lookupFailed err
    | .ok none | .ok (some []) => .ok none
    | .ok (some sourceVolume) =>
      if sourceVolume.length < volDetails.length then
        .error (.alreadyExists ("group snapshot name " ++ g.snapName.quote ++
          " already exists on " ++ toString sourceVolume.length ++ " of " ++
          toString volDetails.length ++ " volumes in SG " ++ g.sgName ++
          "; cannot create with different source volumes"))
      else return some (buildGroupSnapshotID g.symID g.sgName g.snapName,
        ← memberSnapshots g sourceVolume volDetails)

def SameVolumes (volDetails : List String) (sourceVolume : List SourceVolume) : Prop :=
  ∀ v, v ∈ volDetails ↔ v ∈ sourceVolume.map (·.name)

variable {g : Group} {vols : List String} {src : List SourceVolume}

theorem capacity_eq_none_iff {v : String} : capacity src v = none ↔ v ∉ src.map (·.name) := by
  simp [capacity]

theorem memberSnapshots_of_subset (h : ∀ v ∈ vols, v ∈ src.map (·.name)) :
    ∃ ss, memberSnapshots g src vols = .ok ss := by
  induction vols with
  | nil => exact ⟨[], rfl⟩
  | cons v vols ih =>
    obtain ⟨ss, hs⟩ := ih fun v hv => h v (List.mem_cons_of_mem _ hv)
    rw [memberSnapshots, hs]
    split
    case h_1 hn => exact absurd (h v List.mem_cons_self) (capacity_eq_none_iff.mp hn)
    case h_2 => exact ⟨_, rfl⟩

theorem memberSnapshots_ne {text : String} :
    memberSnapshots g src vols ≠ .error (.alreadyExists text) := by
  induction vols with
  | nil => nofun
  | cons v vols ih =>
    rw [memberSnapshots]
    cases capacity src v with
    | none => simp
    | some gb =>
      cases hs : memberSnapshots g src vols with
      | error err =>
        rintro ⟨⟩
        exact ih hs
      | ok ss => nofun

/-- **Idempotency.**  An existing snapshot is returned for its volumes and refused for others,
exactly if it has fewer volumes than asked for just when these are others. -/
theorem idempotency_iff (g : Group) (vols : List String) (snapID : Int) (snapIDs : List Int)
    (v : SourceVolume) (src : List SourceVolume) :
    let r := checkGroupSnapshotIdempotency g vols (.ok (snapID :: snapIDs))
      fun _ => .ok (some (v :: src))
    (((∃ x, r = .ok (some x)) ↔ SameVolumes vols (v :: src)) ∧
      ((∃ text, r = .error (.alreadyExists text)) ↔ ¬ SameVolumes vols (v :: src))) ↔
    ((v :: src).length < vols.length ↔ ¬ SameVolumes vols (v :: src)) := by
  intro r
  by_cases hlt : (v :: src).length < vols.length
  · obtain ⟨text, hr⟩ : ∃ text, r = .error (.alreadyExists text) := ⟨_, if_pos hlt⟩
    simp [hr, iff_true_intro hlt, -List.length_cons]
  · have hr : r = (memberSnapshots g (v :: src) vols).map fun ss =>
        some (buildGroupSnapshotID g.symID g.sgName g.snapName, ss) := by
      refine (if_neg hlt).trans ?_
      cases memberSnapshots g (v :: src) vols <;> rfl
    have hne : ¬ ∃ text, r = .error (.alreadyExists text) := by
      rintro ⟨text, h⟩
      rw [hr] at h
      cases hs : memberSnapshots g (v :: src) vols with
      | ok ss => simp [hs, Except.map] at h
      | error err =>
        obtain rfl : err = .alreadyExists text := by simpa [hs, Except.map] using h
        exact memberSnapshots_ne hs
    have hsome : SameVolumes vols (v :: src) → ∃ x, r = .ok (some x) := by
      intro h
      obtain ⟨ss, hs⟩ := memberSnapshots_of_subset (g := g) fun v hv => (h v).mp hv
      exact ⟨_, by rw [hr, hs]; rfl⟩
    simp only [hne, hlt, false_iff, not_not]
    exact ⟨And.right, fun h => ⟨⟨fun _ => h, hsome⟩, h⟩⟩

/-- One of the two volumes of a snapshot is asked for. -/
theorem idempotency_of_subset : ¬ ∀ g vols snapIDs sgSnapshot x,
    checkGroupSnapshotIdempotency g vols (.ok snapIDs) (fun _ => .ok (some sgSnapshot)) =
      .ok (some x) → SameVolumes vols sgSnapshot := by
  intro h
  have hs := h ⟨"000120000548", "csi-sg", "csi-snap", id⟩ ["00001"] [7]
    [⟨"00001", 1⟩, ⟨"00002", 1⟩] _ rfl
  exact absurd ((hs "00002").mpr (by simp)) (by simp)

/-- The next call of a request; `check` stands for the lookups of the snapshot. -/
inductive Phase
  | check
  | checkAndUpdatePendingState
  | createSnapshot
  | clearPending
  | done
deriving DecidableEq

/-- Requests with one name and the same volumes.  The generations of the snapshot are numbered. -/
structure State where
  generations : Nat
  pending : Bool
  calls : Nat → Phase

/-- The call of a request returns. -/
structure Event where
  call : Nat
  /-- The errors of the call, or of the two lookups. -/
  (err err' : Option ApiError)
  /-- A creation that fails may have taken effect. -/
  tookEffect : Bool

def answer {α : Type} (err : Option ApiError) (a : α) : Except ApiError α := err.elim (.ok a) .error

/-- A snapshot that is there is reported as not found; no array does. -/
def Event.hides (e : Event) (s : State) : Bool :=
  s.generations ≠ 0 && (e.err.any (·.isNotFound) || e.err'.any (·.isNotFound))

/-- One call of a request to the array or to the table of pending requests. -/
def step (g : Group) (src : List SourceVolume) (s : State) (e : Event) : Option State :=
  let goto := Function.update s.calls e.call
  match s.calls e.call with
  | .check =>
    let sgSnapIDs := answer e.err ((List.range s.generations).map Int.ofNat)
    if e.hides s then none
    else
      match checkGroupSnapshotIdempotency g (src.map (·.name)) sgSnapIDs
          fun _ => answer e.err' (some src) with
      | .ok none => some { s with calls := goto .checkAndUpdatePendingState }
      | _ => some { s with calls := goto .done }
  | .checkAndUpdatePendingState =>
    if e.err.isNone ∧ s.pending = false then
      some { s with pending := true, calls := goto .createSnapshot }
    else some { s with calls := goto .done }
  | .createSnapshot =>
    some { s with
      generations := s.generations + (e.err.isNone || e.tookEffect).toNat
      calls := goto .clearPending }
  | .clearPending => some { s with pending := false, calls := goto .done }
  | .done => none

def machine (g : Group) (src : List SourceVolume) : Machine State Event :=
  ⟨⟨0, false, fun _ => .check⟩, step g src⟩

/-- No snapshot was created between the check and the registration of a request. -/
def Unstale (s : State) (e : Event) : Prop :=
  s.calls e.call = .checkAndUpdatePendingState → s.pending = true ∨ s.generations = 0

instance (s : State) (e : Event) : Decidable (Unstale s e) := by
  unfold Unstale
  infer_instance

def State.Busy (s : State) (i : Nat) : Prop :=
  s.calls i = .createSnapshot ∨ s.calls i = .clearPending

structure State.Inv (s : State) : Prop where
  once : ∀ i j, s.Busy i → s.Busy j → i = j
  pending : ∀ i, s.Busy i → s.pending = true
  fresh : ∀ i, s.calls i = .createSnapshot → s.generations = 0
  le_one : s.generations ≤ 1

/-- A request ends, or is not registered yet. -/
theorem State.Inv.goto {s : State} (hs : s.Inv) (i : Nat) {p : Phase} (hc : p ≠ .createSnapshot)
    (hp : p ≠ .clearPending) : { s with calls := Function.update s.calls i p }.Inv := by
  have hb {j : Nat} (h : { s with calls := Function.update s.calls i p }.Busy j) : s.Busy j := by
    simp only [State.Busy, Function.update_apply] at h ⊢
    grind
  refine ⟨fun j k hj hk => hs.once j k (hb hj) (hb hk), fun j hj => hs.pending j (hb hj), ?_,
    hs.le_one⟩
  intro j hj
  simp only [Function.update_apply] at hj
  grind [hs.fresh j]

theorem State.Inv.step {s s' : State} {e : Event} (hs : s.Inv) (he : Unstale s e)
    (h : step g src s e = some s') : s'.Inv := by
  unfold GroupSnap.step at h
  split at h
  case h_1 =>
    dsimp only at h
    split at h
    · cases h
    split at h
    all_goals
      cases h
      exact hs.goto _ nofun nofun
  case h_2 hc =>
    split at h
    case isFalse =>
      cases h
      exact hs.goto _ nofun nofun
    case isTrue hn =>
      cases h
      have hg : s.generations = 0 := (he hc).resolve_left (by simp [hn.2])
      have hi (i : Nat) : ¬ s.Busy i := fun hb => by simpa [hn.2] using hs.pending i hb
      simp only [State.Busy] at hi
      constructor <;> simp only [State.Busy, Function.update_apply] <;> grind
  case h_3 hc =>
    cases h
    have hg := hs.fresh _ hc
    have hb := (e.err.isNone || e.tookEffect).toNat_le
    have ho := hs.once e.call
    have hp := hs.pending e.call (.inl hc)
    simp only [State.Busy] at ho
    constructor <;> simp only [State.Busy, Function.update_apply] <;> grind
  case h_4 hc =>
    cases h
    have ho := hs.once e.call
    have hle := hs.le_one
    simp only [State.Busy] at ho
    constructor <;> simp only [State.Busy, Function.update_apply] <;> grind
  case h_5 => cases h

/-- **One generation**, if no snapshot is created between the check and the registration. -/
theorem generations_le_one {es : List Event} {s : State}
    (h : (machine g src).Along Unstale (machine g src).init es)
    (hr : (machine g src).run (machine g src).init es = some s) : s.generations ≤ 1 := by
  have hi : (machine g src).init.Inv := by constructor <;> simp [machine, State.Busy]
  exact ((machine g src).run_invariant (fun _ _ _ => State.Inv.step) hi h hr).le_one

def oneVolume : Machine State Event :=
  machine ⟨"000120000548", "csi-sg", "csi-snap", id⟩ [⟨"00001", 1⟩]

def returns (call : Nat) : Event := ⟨call, none, none, false⟩

/-- The creation of the first request has taken effect though it fails. -/
def lostResponse : List Event :=
  [returns 0, returns 0, ⟨0, some ⟨false, "timeout"⟩, none, true⟩, returns 0, returns 1]

/-- The second request finds the snapshot of the first one. -/
theorem generations_one : ∃ s, oneVolume.run oneVolume.init lostResponse = some s ∧
    s.calls 1 = .done ∧ s.generations = 1 ∧ s.generations ≤ 1 := by
  have hu : oneVolume.Along Unstale oneVolume.init lostResponse := by decide +kernel
  exact ⟨_, rfl, by decide +kernel, rfl, generations_le_one hu rfl⟩

/-- The second request registers when the first one is done. -/
theorem generations_two : ¬ ∀ g src es s,
    (machine g src).run (machine g src).init es = some s → s.generations ≤ 1 := by
  intro h
  have hs := h _ _ ([0, 1, 0, 0, 0, 1, 1].map returns) _
    (rfl : oneVolume.run oneVolume.init _ = some _)
  exact absurd hs (by decide)

section

open Strings

def maxSnapIdentifierLength : Nat := 32

def buildGroupSnapName (clusterPrefix reqName : String) : String :=
  let prefixPart := csiVolumePrefix ++ clusterPrefix ++ "-grp-"
  let maxTotalLen := maxSnapIdentifierLength - 1
  if maxTotalLen ≤ len prefixPart then truncateString prefixPart maxTotalLen
  else
    let maxSuffixLen := maxTotalLen - len prefixPart
    let suffix := trimPrefix reqName "groupsnapshot-"
    let suffix := trimRight (String.ofList (suffix.toList.dropWhile (· = '-'))) '-'
    prefixPart ++
      if len suffix > maxSuffixLen then trimRight (cut suffix maxSuffixLen) '-' else suffix

def parseGroupSnapshotID (id : String) : Except String (String × String × String) :=
  match split id '/' with
  | [symID, sgName, snapName] => .ok (symID, sgName, snapName)
  | _ => .error ("expected format symID/sgName/snapName, got " ++ id.quote)

theorem len_trimRight_le (s : String) (c : Char) : len (trimRight s c) ≤ len s := by
  simpa [trimRight, len] using (List.dropWhile_suffix (· = c) (l := s.toList.reverse)).length_le

theorem len_buildGroupSnapName {clusterPrefix : String} (h : len clusterPrefix ≤ 3)
    (reqName : String) : 3 ≤ len (buildGroupSnapName clusterPrefix reqName) ∧
      len (buildGroupSnapName clusterPrefix reqName) < maxSnapIdentifierLength := by
  have hp : len (csiVolumePrefix ++ clusterPrefix ++ "-grp-") = 9 + len clusterPrefix := by
    have hc : len csiVolumePrefix = 4 ∧ len "-grp-" = 5 := by decide
    simp only [len_append]
    omega
  have hcut (s : String) (n : Nat) : len (trimRight (cut s n) '-') ≤ n := by
    refine (len_trimRight_le _ _).trans ?_
    simp [cut, len]
  unfold buildGroupSnapName maxSnapIdentifierLength
  dsimp only
  rw [if_neg (by omega), len_append, hp]
  generalize trimRight (String.ofList _) '-' = suffix
  have hs := hcut suffix (32 - 1 - (9 + len clusterPrefix))
  split <;> omega

/-- **Names of group snapshots** fit, and the IDs built with them are taken apart again. -/
theorem groupSnapshot_names (clusterPrefix reqName symID devID : String)
    (hp : len clusterPrefix ≤ 3) (hs : IsArrayID symID) (hl : len devID = 5)
    (hd : '-' ∉ devID.toList) :
    len (buildGroupSnapName clusterPrefix reqName) < maxSnapIdentifierLength ∧
      parseCsiID (buildMemberSnapshotID (buildGroupSnapName clusterPrefix reqName) symID devID) =
        .ok ⟨buildGroupSnapName clusterPrefix reqName, symID, devID, "", ""⟩ ∧
      ∀ sym sg snap : String, '/' ∉ sym.toList → '/' ∉ sg.toList → '/' ∉ snap.toList →
        parseGroupSnapshotID (buildGroupSnapshotID sym sg snap) = .ok (sym, sg, snap) := by
  obtain ⟨hlo, hhi⟩ := len_buildGroupSnapName hp reqName
  refine ⟨hhi, ?_, fun sym sg snap hsy hsg hsn => ?_⟩
  · rw [buildMemberSnapshotID, parseCsiID_of_last_two hlo hs.2.1 hd (by omega)]
    exact splitRemote_of_plain hs.2
  · have hsp : split (buildGroupSnapshotID sym sg snap) '/' = [sym, sg, snap] := by
      refine (split_append (sym ++ "/" ++ sg) snap '/').trans ?_
      have hf := split_append sym sg '/'
      rw [split_of_notMem hsy, split_of_notMem hsg] at hf
      rw [split_of_notMem hsn]
      exact congrArg (· ++ [snap]) hf
    rw [parseGroupSnapshotID, hsp]

theorem groupSnapshot_names_shop :
    parseCsiID (buildMemberSnapshotID (buildGroupSnapName "ABC" "groupsnapshot-my-shop")
      "000120000548" "011AB") =
    .ok ⟨buildGroupSnapName "ABC" "groupsnapshot-my-shop", "000120000548", "011AB", "", ""⟩ :=
  (groupSnapshot_names "ABC" "groupsnapshot-my-shop" "000120000548" "011AB" (by decide) (by decide)
    (by decide) (by decide)).2.1

/-- An array ID with a colon is taken for that of a Metro volume. -/
theorem groupSnapshot_names_colon : ¬ ∀ clusterPrefix reqName symID devID, len clusterPrefix ≤ 3 →
    len symID = 12 → '-' ∉ symID.toList → len devID = 5 → '-' ∉ devID.toList →
    parseCsiID (buildMemberSnapshotID (buildGroupSnapName clusterPrefix reqName) symID devID) =
      .ok ⟨buildGroupSnapName clusterPrefix reqName, symID, devID, "", ""⟩ :=
  fun h => absurd (h "ABC" "shop" "00012:000548" "011AB" (by decide) (by decide) (by decide)
    (by decide) (by decide)) (by decide)

end

end PowerMaxCsi.Service.GroupSnap
