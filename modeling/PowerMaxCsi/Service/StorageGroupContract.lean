import PowerMaxCsi.Service.StorageGroupWorld

/-!
# What the runs of the storage group service rely on

`sgContract`: while a goroutine holds a token nobody else gives it back, announces its batch, or
adds volumes when it is about to delete the masking view.  A publish of Unisphere 10.4 takes no
token.
-/

namespace PowerMaxCsi.Service

open Prog Function Option Finset

namespace SgWorld

variable {w w' : SgWorld} {i : Nat} {key : String}

def Owns (w : SgWorld) (i : Nat) (key : String) : Prop := (w.states key).runner = some i

instance : Decidable (w.Owns i key) := inferInstanceAs (Decidable (_ = _))

/-- The volumes of the storage group of a batch are all in the batch. -/
def OnlyBatch (w : SgWorld) (batch : Batch) : Prop :=
  w.arrays.volumes batch.symID batch.storageGroupID ⊆ batch.devIDs.toFinset

/-- There is one token, in the channel or in one hand; requests are queued where they belong. -/
structure Inv (w : SgWorld) : Prop where
  single : ∀ key, (w.states key).lock ≤ 1
  token : ∀ key, (w.states key).lock ≠ 0 → (w.states key).runner = none
  added : ∀ key, ∀ req ∈ (w.states key).addVolumeToSGMVQueue, req.key = key
  removed : ∀ key, ∀ req ∈ (w.states key).removeVolumeFromSGMVQueue, req.key = key

end SgWorld

def SgCall.deletesView : SgCall → Bool
  | .pmax (.deleteMaskingView _ _) => true
  | _ => false

/-- Nobody takes a token away, and only volumes of the batch are added before a masking view is
deleted. -/
structure SgRely (i : Nat) (c : SgCall) (w w' : SgWorld) : Prop where
  owns : ∀ key, w.Owns i key → w'.Owns i key
  processing : w'.processing i = w.processing i
  volumes : c.deletesView = true → ∀ batch, w.processing i = some batch → w.Owns i batch.key →
    w'.arrays.volumes batch.symID batch.storageGroupID ⊆
      w.arrays.volumes batch.symID batch.storageGroupID ∪ batch.devIDs.toFinset

/-- Volumes are added and tokens given back only with the token, and a masking view is deleted only
if no volume but those of the batch is in the storage group. -/
def SgIssue (i : Nat) (w : SgWorld) : SgCall → Prop
  | .pmax (.addVolumesToStorageGroup symID sgID _) => w.Owns i (getKey symID sgID)
  | .pmax (.addVolumesToStorageGroupS symID sgID _) => w.Owns i (getKey symID sgID)
  | .pmax (.deleteMaskingView symID maskingViewID) => ∃ batch, w.processing i = some batch ∧
      batch.symID = symID ∧ batch.maskingViewID = maskingViewID ∧ w.OnlyBatch batch
  | .releaseToken key => w.Owns i key
  | _ => True

/-- When it is read for a batch, the device IDs are distinct and all in the storage group. -/
def BatchFits (w : SgWorld) (i : Nat) (symID sgID : String) : Prop :=
  ∀ batch ∈ w.processing i, batch.symID = symID → batch.storageGroupID = sgID →
    batch.devIDs.Nodup ∧ ∀ devID ∈ batch.devIDs, devID ∈ w.arrays.volumes symID sgID

instance (w : SgWorld) (i : Nat) (symID sgID : String) : Decidable (BatchFits w i symID sgID) :=
  Option.decidableForallMem _

def SgCall.readsGroup : SgCall → Option (String × String)
  | .pmax (.getStorageGroup symID sgID) => some (symID, sgID)
  | _ => none

def CallFits (w : SgWorld) (i : Nat) (c : SgCall) : Prop :=
  ∀ group ∈ c.readsGroup, BatchFits w i group.1 group.2

instance (w : SgWorld) (i : Nat) (c : SgCall) : Decidable (CallFits w i c) :=
  Option.decidableForallMem _

def sgContract (i : Nat) : Contract SgCall SgAnswer SgWorld where
  inv := SgWorld.Inv
  rely := SgRely i
  answers w c r w' := (∃ took, w.serve i took c r = some w') ∧ CallFits w i c
  issue := SgIssue i
  rely_refl c w := ⟨fun _ => id, rfl, fun _ _ _ _ => Finset.subset_union_left⟩
  rely_trans c w w' w'' h h' := by
    refine ⟨fun key ho => h'.owns key (h.owns key ho), h'.processing.trans h.processing, ?_⟩
    intro hc batch hb ho devID hmem
    have hs' := h'.volumes hc batch (h.processing.trans hb) (h.owns _ ho)
    rcases Finset.mem_union.mp (hs' hmem) with hmem | hmem
    · exact h.volumes hc batch hb ho hmem
    · exact Finset.mem_union_right _ hmem

namespace SgArrays

variable {a a' : SgArrays} {symID sgID : String}

def adds : PmaxCall → Option (String × String)
  | .addVolumesToStorageGroup symID sgID _ => some (symID, sgID)
  | .addVolumesToStorageGroupS symID sgID _ => some (symID, sgID)
  | _ => none

variable (a : SgArrays)

theorem volumes_setGroup (sym sg : String) (group : Option Group) :
    (a.setGroup sym sg group).volumes symID sgID =
      if symID = sym ∧ sgID = sg then (group.map Group.volumes).getD ∅
      else a.volumes symID sgID := by
  simp only [volumes, setGroup]
  split <;> rfl

theorem volumes_createGroup (sym sg : String) :
    (a.createGroup sym sg).volumes symID sgID = a.volumes symID sgID := by
  rw [createGroup, volumes_setGroup]
  split
  case isTrue h =>
    obtain ⟨rfl, rfl⟩ := h
    cases hg : a.groups symID sgID <;> simp [volumes, hg, Group.new]
  case isFalse => rfl

theorem volumes_addVolumes_subset (sym sg : String) (devIDs : List String) :
    (a.addVolumes sym sg devIDs).volumes symID sgID ⊆
      a.volumes symID sgID ∪ (if symID = sym ∧ sgID = sg then devIDs.toFinset else ∅) := by
  rw [addVolumes, volumes_setGroup]
  split
  case isTrue h =>
    obtain ⟨rfl, rfl⟩ := h
    cases hg : a.groups symID sgID <;> simp [volumes, hg]
  case isFalse => simp

theorem volumes_removeVolumes_subset (sym sg : String) (devIDs : List String) :
    (a.removeVolumes sym sg devIDs).volumes symID sgID ⊆ a.volumes symID sgID := by
  rw [removeVolumes, volumes_setGroup]
  split
  case isTrue h =>
    obtain ⟨rfl, rfl⟩ := h
    cases hg : a.groups symID sgID <;> simp [volumes, hg]
  case isFalse => exact subset_rfl

theorem volumes_setGroup_views (sym sg : String) (f : List String → List String) :
    (a.setGroup sym sg ((a.groups sym sg).map fun group =>
      { group with maskingViews := f group.maskingViews })).volumes symID sgID =
      a.volumes symID sgID := by
  rw [volumes_setGroup]
  split
  case isTrue h =>
    obtain ⟨rfl, rfl⟩ := h
    cases hg : a.groups symID sgID <;> simp [volumes, hg]
  case isFalse => rfl

theorem volumes_createView (sym mv : String) (view : MaskingView) :
    (a.createView sym mv view).volumes symID sgID = a.volumes symID sgID :=
  (a.setView sym mv (some view)).volumes_setGroup_views sym view.storageGroupID (· ++ [mv])

theorem volumes_deleteView (sym mv : String) :
    (a.deleteView sym mv).volumes symID sgID = a.volumes symID sgID := by
  unfold deleteView
  split
  · rfl
  case h_2 view _ =>
    exact (a.setView sym mv none).volumes_setGroup_views sym view.storageGroupID (·.erase mv)

theorem volumes_publish_subset (sym mv devID : String) (view : MaskingView) :
    (a.publish sym mv devID view).volumes symID sgID ⊆ a.volumes symID sgID ∪
      (if symID = sym ∧ sgID = view.storageGroupID then {devID} else ∅) := by
  have ha : ((a.createGroup sym view.storageGroupID).addVolumes sym view.storageGroupID
      [devID]).volumes symID sgID ⊆ _ := volumes_addVolumes_subset _ _ _ _
  rw [volumes_createGroup] at ha
  simp only [publish]
  split
  · rw [volumes_createView]
    simpa using ha
  · simpa using ha

variable {a}

theorem volumes_change_subset {took : Bool} {r : Except PmaxError Unit}
    (ha' : a'.volumes symID sgID ⊆ a.volumes symID sgID) :
    (a.change a' took r).volumes symID sgID ⊆ a.volumes symID sgID := by
  cases r with
  | ok => exact ha'
  | error =>
    cases took
    · exact subset_rfl
    · exact ha'

theorem volumes_serve_subset {took : Bool} {c : PmaxCall} {r : PmaxAnswer c}
    (h : a.serve took c r = some a') (hc : adds c ≠ some (symID, sgID)) :
    a'.volumes symID sgID ⊆ a.volumes symID sgID := by
  have ha : ∀ sym sg devIDs, some (sym, sg) ≠ some (symID, sgID) →
      (a.addVolumes sym sg devIDs).volumes symID sgID ⊆ a.volumes symID sgID := by
    intro sym sg devIDs hne
    have hs : (a.addVolumes sym sg devIDs).volumes symID sgID ⊆ _ :=
      a.volumes_addVolumes_subset sym sg devIDs
    rwa [if_neg, union_empty] at hs
    rintro ⟨rfl, rfl⟩
    exact hne rfl
  cases c
  case addVolumesToStorageGroup sym sg devIDs =>
    cases h
    exact volumes_change_subset (ha sym sg devIDs hc)
  case addVolumesToStorageGroupS sym sg devIDs =>
    cases h
    exact volumes_change_subset (ha sym sg devIDs hc)
  case removeVolumesFromStorageGroup sym sg devIDs =>
    cases h
    exact volumes_change_subset (volumes_removeVolumes_subset a sym sg devIDs)
  case createStorageGroup sym sg =>
    cases h
    exact volumes_change_subset (volumes_createGroup a sym sg).subset
  case deleteStorageGroup sym sg =>
    cases h
    refine volumes_change_subset ?_
    rw [volumes_setGroup]
    split
    · exact empty_subset _
    · exact subset_rfl
  case createMaskingView sym mv sg targetID isHost portGroupID =>
    cases h
    exact volumes_change_subset (volumes_createView a sym mv _).subset
  case deleteMaskingView sym mv =>
    cases h
    exact volumes_change_subset (volumes_deleteView a sym mv).subset
  -- the reads
  all_goals
    obtain rfl : a = a' := by
      simp only [serve] at h
      grind
    exact subset_rfl

end SgArrays

namespace SgWorld

variable {w w' : SgWorld} {i : Nat} {key : String} {took : Bool} {c : SgCall} {r : SgAnswer c}

theorem setState_states (w : SgWorld) (key key' : String) (state : KeyState) :
    (w.setState key state).states key' = if key' = key then state else w.states key' :=
  update_apply w.states key state key'

theorem serve_receiveAdd {r : Option AddRequest}
    (h : w.serve i took (.receiveAdd key) r = some w') :
    (r = none ∧ w' = w) ∨ ∃ req rest, (w.states key).addVolumeToSGMVQueue = req :: rest ∧
      r = some req ∧ w' = w.setState key { w.states key with addVolumeToSGMVQueue := rest } := by
  simp only [serve] at h
  cases hq : (w.states key).addVolumeToSGMVQueue <;> cases r <;>
    simp_all

theorem serve_receiveRemove {r : Option RemoveRequest}
    (h : w.serve i took (.receiveRemove key) r = some w') :
    (r = none ∧ w' = w) ∨ ∃ req rest, (w.states key).removeVolumeFromSGMVQueue = req :: rest ∧
      r = some req ∧ w' = w.setState key
        { w.states key with removeVolumeFromSGMVQueue := rest } := by
  simp only [serve] at h
  cases hq : (w.states key).removeVolumeFromSGMVQueue <;> cases r <;>
    simp_all

theorem serve_releaseToken {r : Unit} (h : w.serve i took (.releaseToken key) r = some w') :
    w' = w.setState key { w.states key with lock := 1, runner := none } := by
  simp only [serve] at h
  split at h
  · exact (some.inj h).symm
  · simp at h

theorem serve_project {β : Type} (π : KeyState → β) (h : w.serve i took c r = some w')
    (ha : c = .receiveAdd key → ∀ state queue,
      π { state with addVolumeToSGMVQueue := queue } = π state)
    (hre : c = .receiveRemove key → ∀ state queue,
      π { state with removeVolumeFromSGMVQueue := queue } = π state)
    (hr : c = .releaseToken key → ∀ state lock runner,
      π { state with lock := lock, runner := runner } = π state) :
    π (w'.states key) = π (w.states key) := by
  cases c
  case pmax c =>
    obtain ⟨arrays, -, rfl⟩ := map_eq_some_iff.mp h
    rfl
  case releaseToken key' =>
    rw [serve_releaseToken h, setState_states]
    split
    case isTrue hk =>
      subst hk
      exact hr rfl _ _ _
    case isFalse => rfl
  case receiveAdd key' =>
    rcases serve_receiveAdd h with ⟨-, rfl⟩ | ⟨req, rest, -, -, rfl⟩
    · rfl
    · rw [setState_states]
      split
      case isTrue hk =>
        subst hk
        exact ha rfl _ _
      case isFalse => rfl
  case receiveRemove key' =>
    rcases serve_receiveRemove h with ⟨-, rfl⟩ | ⟨req, rest, -, -, rfl⟩
    · rfl
    · rw [setState_states]
      split
      case isTrue hk =>
        subst hk
        exact hre rfl _ _
      case isFalse => rfl
  all_goals
    cases h
    rfl

variable (h : w.serve i took c r = some w')

include h

theorem serve_runner (hr : c ≠ .releaseToken key) :
    (w'.states key).runner = (w.states key).runner :=
  serve_project KeyState.runner h (fun _ _ _ => rfl) (fun _ _ _ => rfl) fun hc => absurd hc hr

theorem serve_lock (hr : c ≠ .releaseToken key) : (w'.states key).lock = (w.states key).lock :=
  serve_project KeyState.lock h (fun _ _ _ => rfl) (fun _ _ _ => rfl) fun hc => absurd hc hr

theorem serve_processing {j : Nat} (ha : ∀ batch, c = .processing batch → j ≠ i) :
    w'.processing j = w.processing j := by
  cases c
  case pmax c =>
    obtain ⟨arrays, -, rfl⟩ := map_eq_some_iff.mp h
    rfl
  case processing batch =>
    cases h
    exact update_of_ne (ha batch rfl) _ _
  case releaseToken key' =>
    rw [serve_releaseToken h]
    rfl
  case receiveAdd key' =>
    rcases serve_receiveAdd h with ⟨-, rfl⟩ | ⟨req, rest, -, -, rfl⟩ <;> rfl
  case receiveRemove key' =>
    rcases serve_receiveRemove h with ⟨-, rfl⟩ | ⟨req, rest, -, -, rfl⟩ <;> rfl
  all_goals
    cases h
    rfl

theorem volumes_serve_subset {symID sgID : String}
    (had : ∀ c', c = .pmax c' → SgArrays.adds c' ≠ some (symID, sgID)) :
    w'.arrays.volumes symID sgID ⊆ w.arrays.volumes symID sgID := by
  cases c
  case pmax c =>
    obtain ⟨arrays, ha, rfl⟩ := map_eq_some_iff.mp h
    exact SgArrays.volumes_serve_subset ha (had c rfl)
  case receiveAdd key' =>
    rcases serve_receiveAdd h with ⟨-, rfl⟩ | ⟨req, rest, -, -, rfl⟩ <;> exact subset_rfl
  case receiveRemove key' =>
    rcases serve_receiveRemove h with ⟨-, rfl⟩ | ⟨req, rest, -, -, rfl⟩ <;> exact subset_rfl
  case releaseToken key' =>
    rw [serve_releaseToken h]
    exact subset_rfl
  all_goals
    cases h
    exact subset_rfl

omit h

theorem Inv.setState (hw : w.Inv) {state : KeyState} (hs : state.lock ≤ 1)
    (ht : state.lock ≠ 0 → state.runner = none)
    (ha : ∀ req ∈ state.addVolumeToSGMVQueue, req.key = key)
    (hr : ∀ req ∈ state.removeVolumeFromSGMVQueue, req.key = key) : (w.setState key state).Inv := by
  constructor <;> intro key' <;> rw [setState_states] <;> split
  · exact hs
  · exact hw.single key'
  · exact ht
  · exact hw.token key'
  · subst key'
    exact ha
  · exact hw.added key'
  · subst key'
    exact hr
  · exact hw.removed key'

theorem Inv.serve (hw : w.Inv) (h : w.serve i took c r = some w') : w'.Inv := by
  cases c
  case pmax c =>
    obtain ⟨arrays, -, rfl⟩ := map_eq_some_iff.mp h
    exact ⟨hw.single, hw.token, hw.added, hw.removed⟩
  case processing batch =>
    cases h
    exact ⟨hw.single, hw.token, hw.added, hw.removed⟩
  case releaseToken key =>
    rw [serve_releaseToken h]
    exact hw.setState le_rfl (fun _ => rfl) (hw.added _) (hw.removed _)
  case receiveAdd key =>
    rcases serve_receiveAdd h with ⟨-, rfl⟩ | ⟨req, rest, hq, -, rfl⟩
    · exact hw
    · refine hw.setState (hw.single _) (hw.token _) (fun req' hmem => hw.added key req' ?_)
        (hw.removed _)
      rw [hq]
      exact List.mem_cons_of_mem req hmem
  case receiveRemove key =>
    rcases serve_receiveRemove h with ⟨-, rfl⟩ | ⟨req, rest, hq, -, rfl⟩
    · exact hw
    · refine hw.setState (hw.single _) (hw.token _) (hw.added _) fun req' hmem =>
        hw.removed key req' ?_
      rw [hq]
      exact List.mem_cons_of_mem req hmem
  all_goals
    obtain rfl : w = w' := by simpa [SgWorld.serve] using h
    exact hw

theorem rely_setState {state : KeyState} {c : SgCall}
    (hs : w.Owns i key → state.runner = some i) : SgRely i c w (w.setState key state) := by
  refine ⟨fun key' ho => ?_, rfl, fun _ _ _ _ => subset_union_left⟩
  rw [Owns, setState_states]
  split
  case isTrue hk => exact hs (hk ▸ ho)
  case isFalse => exact ho

theorem takeToken_states (h : w.takeToken i key = some w') : (w.states key).lock ≠ 0 ∧
    ∀ key', w'.states key' = if key' = key then
      { w.states key with lock := (w.states key).lock - 1, runner := some i }
    else w.states key' := by
  obtain ⟨hl, ⟨⟩⟩ := ite_none_left_eq_some.mp h
  exact ⟨hl, fun key' => setState_states w key key' _⟩

theorem takeToken_spec (hi : w.Inv) (h : w.takeToken i key = some w') :
    w'.Inv ∧ w'.Owns i key ∧ ∀ j c, j ≠ i → SgRely j c w w' := by
  obtain ⟨hl, ⟨⟩⟩ := ite_none_left_eq_some.mp h
  have hs := hi.single key
  have hz : (w.states key).lock - 1 = 0 := by omega
  have hi' : (w.setState key { w.states key with
      lock := (w.states key).lock - 1, runner := some i }).Inv :=
    hi.setState (by simp [hz]) (by simp [hz]) (hi.added key) (hi.removed key)
  refine ⟨⟨hi'.single, hi'.token, hi'.added, hi'.removed⟩, ?_, ?_⟩
  · show (update w.states key _ key).runner = some i
    rw [update_self]
  · intro j c hj
    have hr : SgRely j c w (w.setState key { w.states key with
        lock := (w.states key).lock - 1, runner := some i }) := by
      refine rely_setState fun ho => absurd ho ?_
      rw [Owns, hi.token key hl]
      simp
    exact ⟨hr.owns, update_of_ne hj _ _, hr.volumes⟩

theorem serve_rely (his : SgIssue i w c)
    (h : w.serve i took c r = some w') {j : Nat} (hj : j ≠ i) (c' : SgCall) : SgRely j c' w w' := by
  have hot : ∀ key, w.Owns i key → ¬ w.Owns j key := by
    intro key hi hj'
    exact hj (some.inj (hj'.symm.trans hi))
  refine ⟨fun key ho => ?_, serve_processing h fun _ _ => hj, fun _ batch _ ho => ?_⟩
  · refine (serve_runner h ?_).trans ho
    rintro rfl
    exact hot key his ho
  · refine subset_trans (volumes_serve_subset h ?_) subset_union_left
    rintro c' rfl ha
    cases c' <;>
      simp [SgArrays.adds] at ha
    all_goals
      obtain ⟨rfl, rfl⟩ := ha
      exact hot _ his ho

end SgWorld

end PowerMaxCsi.Service
