import PowerMaxCsi.Capacity.Selection

/-!
# Going over to the next array

The attempts of a `CreateVolume` request.  None is on an array that it has failed to reach, if there
is a cache and no poll of the array succeeds meanwhile.
-/

namespace PowerMaxCsi.Capacity

open Function List Option

open Service (GrpcError PmaxError isConnectivityError)
open Prog

variable {U : Type} [Zero U]

/-! ## What the operations of the cache change -/

namespace CapacityCache

variable (c : CapacityCache U) (arrayID : String)

theorem getOrCreate_modify (f : ArrayCapacityEntry U → ArrayCapacityEntry U) (id : String) :
    (c.modify arrayID f).getOrCreate id =
      if id = arrayID then f (c.getOrCreate id) else c.getOrCreate id := by
  unfold modify getOrCreate
  rw [update_apply]
  split
  case isTrue hid =>
    rw [hid]
    rfl
  case isFalse => rfl

theorem snapshot_available (id : String) :
    (c.snapshot id).available = (c.getOrCreate id).available := by
  unfold snapshot getOrCreate
  cases c id with
  | none => rfl
  | some e => rfl

end CapacityCache

namespace CapacityWorld

def Unavailable (w : CapacityWorld U) (arrayID : String) : Prop :=
  (w.cache.getOrCreate arrayID).available = false

variable {w w' : CapacityWorld U} {i j : Nat} {arrayID : String}

/-- The counter of an array, without what others have done since the request was started. -/
def share (w : CapacityWorld U) (i : Nat) (arrayID : String) : Int32 :=
  w.inFlight arrayID - w.others i arrayID

theorem inFlight_addInFlight (delta : Int32) (id : String) :
    (w.addInFlight i arrayID delta).inFlight id =
      w.inFlight id + if id = arrayID then delta else 0 := by
  unfold inFlight addInFlight CapacityCache.addInFlight
  rw [CapacityCache.getOrCreate_modify]
  split
  · rfl
  · grind

theorem share_addInFlight_self (delta : Int32) (id : String) :
    (w.addInFlight i arrayID delta).share i id =
      w.share i id + if id = arrayID then delta else 0 := by
  have ho : (w.addInFlight i arrayID delta).others i id = w.others i id :=
    if_neg fun h => h.1 rfl
  rw [share, share, inFlight_addInFlight]
  grind

theorem share_addInFlight_of_ne (hj : j ≠ i) (delta : Int32) (id : String) :
    (w.addInFlight i arrayID delta).share j id = w.share j id := by
  have ho : (w.addInFlight i arrayID delta).others j id =
      w.others j id + if id = arrayID then delta else 0 := by
    unfold addInFlight
    dsimp only
    by_cases hid : id = arrayID
    · rw [if_pos ⟨hj, hid⟩, if_pos hid]
    · grind
  rw [share, share, inFlight_addInFlight]
  grind

/-! ## What a request promises and relies on -/

def Promise (w : CapacityWorld U) (i : Nat) : CapacityCall → Prop
  | .doCreateVolume symmetrixID =>
    (w.attempts i).length < maxFailoverRetries ∧ symmetrixID ∉ w.failed i
  | .respond _ => ∀ id, w.inFlight id = w.before i id + w.others i id
  | .loops => False
  | _ => True

def Topological (w : CapacityWorld U) (i : Nat) : Prop :=
  ∃ req, w.request i = some req ∧ req.symID = ""

/-- The answer lets a request go over to another array only if there is a cache. -/
def Cached (cfg : SelectionConfig U) (w : CapacityWorld U) (i : Nat) :
    (c : CapacityCall) → CapacityAnswer U c → Prop
  | .doCreateVolume _, result =>
    unreached result = true → w.Topological i → cfg.capCache = true
  | _, _ => True

structure Rely (i : Nat) (w w' : CapacityWorld U) : Prop where
  request : w'.request i = w.request i
  attempts : w'.attempts i = w.attempts i
  failed : w'.failed i = w.failed i
  before : w'.before i = w.before i
  share : ∀ id, w'.share i id = w.share i id
  unavailable : ∀ id ∈ w.failed i, w.Unavailable id → w'.Unavailable id

theorem Rely.refl (i : Nat) (w : CapacityWorld U) : Rely i w w :=
  ⟨rfl, rfl, rfl, rfl, fun _ => rfl, fun _ _ => id⟩

theorem Rely.trans {w'' : CapacityWorld U} (h : Rely i w w') (h' : Rely i w' w'') :
    Rely i w w'' where
  request := h'.request.trans h.request
  attempts := h'.attempts.trans h.attempts
  failed := h'.failed.trans h.failed
  before := h'.before.trans h.before
  share id := (h'.share id).trans (h.share id)
  unavailable id hid hu :=
    h'.unavailable id (h.failed ▸ hid) (h.unavailable id hid hu)

end CapacityWorld

open CapacityWorld

variable {w : CapacityWorld U} {i : Nat}

theorem rely_of_cache {cache : CapacityCache U}
    (hi : ∀ id, (cache.getOrCreate id).inFlight = (w.cache.getOrCreate id).inFlight)
    (ha : ∀ id ∈ w.failed i, (w.cache.getOrCreate id).available = false →
      (cache.getOrCreate id).available = false) : Rely i w { w with cache := cache } where
  request := rfl
  attempts := rfl
  failed := rfl
  before := rfl
  share id := by
    unfold CapacityWorld.share CapacityWorld.inFlight
    rw [hi]
  unavailable := ha

theorem poll_rely {poll : Poll U}
    (hf : ∀ arrayID utilizationPercent now, poll = .success arrayID utilizationPercent now →
      arrayID ∉ w.failed i) : Rely i w (w.poll poll) := by
  cases poll with
  | success arrayID utilizationPercent now =>
    have ha := hf arrayID utilizationPercent now rfl
    refine rely_of_cache (fun id => ?_) fun id hid hu => ?_
    · rw [CapacityCache.recordPollSuccess, CapacityCache.getOrCreate_modify]
      split
      · rfl
      · rfl
    · have hne : id ≠ arrayID := fun h => ha (h ▸ hid)
      rw [CapacityCache.recordPollSuccess, CapacityCache.getOrCreate_modify, if_neg hne]
      exact hu
  | failure arrayID pollInterval now =>
    refine rely_of_cache (fun id => ?_) fun id _ hu => ?_
    · rw [CapacityCache.recordPollFailure, CapacityCache.getOrCreate_modify]
      split
      · split
        · rfl
        · rfl
      · rfl
    · rw [CapacityCache.recordPollFailure, CapacityCache.getOrCreate_modify]
      split
      · split
        · rfl
        · exact hu
      · exact hu

/-- A request after some attempts: the arrays that it has failed to reach, marked except perhaps the
last, and what it has added to the counters. -/
structure Stage (i n : Nat) (missed marked : List String) (own : String → Int32)
    (w : CapacityWorld U) : Prop where
  attempts : (w.attempts i).length = n
  failed : w.failed i = missed
  sub : marked ⊆ missed
  unavailable : ∀ id ∈ marked, w.Unavailable id
  share : ∀ id, w.share i id = w.before i id + own id

namespace Stage

variable {w w' : CapacityWorld U} {i n : Nat} {failed marked : List String} {own : String → Int32}
  (h : Stage i n failed marked own w)

include h

theorem rely (hr : Rely i w w') : Stage i n failed marked own w' where
  attempts := by rw [hr.attempts, h.attempts]
  failed := hr.failed.trans h.failed
  sub := h.sub
  unavailable id hid := hr.unavailable id (h.failed ▸ h.sub hid) (h.unavailable id hid)
  share id := by rw [hr.share, hr.before, h.share]

theorem addInFlight (arrayID : String) (delta : Int32) :
    Stage i n failed marked (fun id => own id + if id = arrayID then delta else 0)
      (w.addInFlight i arrayID delta) where
  attempts := h.attempts
  failed := h.failed
  unavailable id hid := by
    unfold Unavailable CapacityWorld.addInFlight CapacityCache.addInFlight
    rw [CapacityCache.getOrCreate_modify]
    split
    · exact h.unavailable id hid
    · exact h.unavailable id hid
  sub := h.sub
  share id := by
    rw [share_addInFlight_self, h.share]
    show _ = w.before i id + _
    grind

theorem invalidate {arrayID : String} (hf : arrayID ∈ failed) :
    Stage i n failed (arrayID :: marked) own { w with cache := w.cache.invalidate arrayID } where
  attempts := h.attempts
  failed := h.failed
  unavailable id hid := by
    unfold Unavailable CapacityCache.invalidate
    rw [CapacityCache.getOrCreate_modify]
    split
    case isTrue => rfl
    case isFalse hne => exact h.unavailable id ((mem_cons.mp hid).resolve_left hne)
  sub := cons_subset.mpr ⟨hf, h.sub⟩
  share id := by
    refine Eq.trans ?_ (h.share id)
    unfold CapacityWorld.share CapacityWorld.inFlight CapacityCache.invalidate
    rw [CapacityCache.getOrCreate_modify]
    split
    · rfl
    · rfl

theorem attempted (arrayID : String) (result : Except PmaxError String) :
    Stage i (n + 1) (failed ++ if unreached result then [arrayID] else []) marked own
      (w.attempted i arrayID result) where
  attempts := by
    show (update w.attempts i _ i).length = n + 1
    rw [update_self, length_append, h.attempts, length_singleton]
  failed := by
    show update w.failed i _ i = _
    rw [update_self, h.failed]
  unavailable := h.unavailable
  sub := Subset.trans h.sub (subset_append_left _ _)
  share := h.share

omit h

end Stage

def Settled (i : Nat) (w : CapacityWorld U) : Prop := ∀ id, w.share i id = w.before i id

theorem Stage.settled {n : Nat} {failed marked : List String}
    (h : Stage i n failed marked (fun _ => 0) w) : Settled i w := by
  intro id
  rw [h.share]
  grind

/-! ## The contract of a request -/

def createContract [LinearOrder U] (cfg : SelectionConfig U) (i : Nat) :
    Contract CapacityCall (CapacityAnswer U) (CapacityWorld U) where
  inv _ := True
  rely _ := Rely i
  answers w c r w' := Cached cfg w i c r ∧ w.serve cfg i c r = some w'
  issue w c := w.Promise i c
  rely_refl _ := Rely.refl i
  rely_trans _ _ _ _ h h' := h.trans h'

variable [LinearOrder U] {cfg : SelectionConfig U}

theorem serve_rely {w' : CapacityWorld U} {j : Nat} {c : CapacityCall}
    {r : CapacityAnswer U c} (hj : j ≠ i) (h : w.serve cfg i c r = some w') : Rely j w w' := by
  have ha : ∀ arrayID delta, Rely j w (w.addInFlight i arrayID delta) := by
    intro arrayID delta
    refine ⟨rfl, rfl, rfl, rfl, share_addInFlight_of_ne hj delta, fun id _ hu => ?_⟩
    unfold Unavailable addInFlight CapacityCache.addInFlight
    rw [CapacityCache.getOrCreate_modify]
    split
    · exact hu
    · exact hu
  cases c with
  | rangeStorageArrays | snapshot =>
    have hs : w' = w := by
      simp only [serve] at h
      grind
    rw [hs]
    exact Rely.refl j w
  | incInFlight arrayID =>
    cases h
    exact ha arrayID 1
  | decInFlight arrayID =>
    cases h
    exact ha arrayID (-1)
  | invalidate arrayID =>
    cases h
    refine rely_of_cache (fun id => ?_) fun id _ hu => ?_
    · rw [CapacityCache.invalidate, CapacityCache.getOrCreate_modify]
      split
      · rfl
      · rfl
    · rw [CapacityCache.invalidate, CapacityCache.getOrCreate_modify]
      split
      · rfl
      · exact hu
  | doCreateVolume =>
    cases h
    exact ⟨rfl, update_of_ne hj _ _, update_of_ne hj _ _, rfl, fun _ => rfl, fun _ _ => id⟩
  | respond =>
    cases h
    exact ⟨rfl, rfl, update_of_ne hj _ _, rfl, fun _ => rfl, fun _ _ => id⟩
  | loops => exact r.elim

theorem Stage.ask {n : Nat} {failed marked : List String}
    {own : String → Int32} {α : Type} {c : CapacityCall} {k : CapacityAnswer U c → CapacityProg U α}
    {post : CapacityWorld U → α → Prop} (h : Stage i n failed marked own w)
    (hi : ∀ w : CapacityWorld U, Stage i n failed marked own w → w.Promise i c)
    (hk : ∀ (w₁ w₂ : CapacityWorld U) r, Stage i n failed marked own w₁ → Cached cfg w₁ i c r →
      w₁.request i = w.request i → w₁.serve cfg i c r = some w₂ →
      (createContract cfg i).Safe post w₂ (k r)) :
    (createContract cfg i).Safe post w (.call c k) := by
  intro w₁ hr _
  have h₁ := h.rely hr
  exact ⟨hi w₁ h₁, fun r w₂ ha => hk w₁ w₂ r h₁ ha.1 hr.request ha.2⟩

section

variable {w : CapacityWorld U} {i n : Nat} {failed marked : List String} {own : String → Int32}
  {req : CreateVolumeRequest}

def At (i n : Nat) (failed marked : List String) (own : String → Int32) (req : CreateVolumeRequest)
    (w : CapacityWorld U) : Prop := Stage i n failed marked own w ∧ w.request i = some req

theorem serve_snapshot {w₁ w₂ : CapacityWorld U} {arrayID : String} {snapshot : Snapshot U}
    (h : w₁.serve cfg i (.snapshot arrayID) snapshot = some w₂) :
    w₂ = w₁ ∧ w₁.cache.snapshot arrayID = snapshot := by
  obtain ⟨hs, h⟩ := ite_none_right_eq_some.mp h
  exact ⟨(some.inj h).symm, hs⟩

theorem serve_rangeStorageArrays {w₁ w₂ : CapacityWorld U} {ids : List String}
    (h : w₁.serve cfg i .rangeStorageArrays ids = some w₂) : w₂ = w₁ := by
  obtain ⟨-, h⟩ := ite_none_right_eq_some.mp h
  exact (some.inj h).symm

theorem mem_of_selectFrom {zone id : String} {snapshots : List (String × Snapshot U)}
    (h : selectFrom cfg zone snapshots = .ok id) :
    ∃ s ∈ snapshots, s.1 = id ∧ s.2.available = true := by
  unfold selectFrom at h
  split at h
  case h_1 => cases h
  case h_2 selected rest hso =>
    obtain rfl : selected.id = id := Except.ok.inj h
    have hmem : selected ∈ available cfg snapshots := by
      rw [← mem_insertionSort fun a b => ¬ b.less a, hso]
      exact mem_cons_self
    obtain ⟨s, hs, rfl⟩ := List.mem_map.mp hmem
    obtain ⟨hs, hu⟩ := mem_filter.mp hs
    exact ⟨s, hs, rfl, (Bool.and_eq_true_iff.mp hu).1⟩

variable (hw : At i n failed marked own req w)

include hw

theorem reads_safe {α : Type} {c : CapacityCall} {k : CapacityAnswer U c → CapacityProg U α}
    {post : CapacityWorld U → α → Prop} (hi : ∀ w : CapacityWorld U, w.Promise i c)
    (hs : ∀ (w₁ w₂ : CapacityWorld U) r, w₁.serve cfg i c r = some w₂ → w₂ = w₁)
    (hk : ∀ w₁ r, At i n failed marked own req w₁ → w₁.serve cfg i c r = some w₁ →
      (createContract cfg i).Safe post w₁ (k r)) :
    (createContract cfg i).Safe post w (.call c k) := by
  refine hw.1.ask (fun w _ => hi w) fun w₁ w₂ r h₁ _ hr ha => ?_
  obtain rfl := hs w₁ w₂ r ha
  exact hk w₂ r ⟨h₁, hr.trans hw.2⟩ ha

theorem takeSnapshots_safe (candidates : List String) :
    (createContract cfg i).Safe (fun w snapshots => At i n failed marked own req w ∧
      ∀ s ∈ snapshots, s.1 ∈ marked → s.2.available = false) w (takeSnapshots candidates) := by
  induction candidates generalizing w with
  | nil => exact ⟨hw, fun _ h => by cases h⟩
  | cons id rest ih =>
    refine reads_safe hw (fun _ => trivial) (fun _ _ _ h => (serve_snapshot h).1) ?_
    intro w₁ snapshot hw₁ hse
    refine (ih hw₁).bind ?_
    rintro w₂ snapshots ⟨hw₂, hsn⟩
    refine ⟨hw₂, fun s hs hm => ?_⟩
    rcases mem_cons.mp hs with rfl | hs
    · rw [← (serve_snapshot hse).2, CapacityCache.snapshot_available]
      exact hw₁.1.unavailable _ hm
    · exact hsn s hs hm

theorem selectArray_safe (hc : cfg.capCache = true ∨ marked = []) (zone : String)
    (candidates : List String) :
    (createContract cfg i).Safe (fun w r => At i n failed marked own req w ∧
      ∀ id, r = .ok id → id ∉ marked) w (selectArray cfg zone candidates) := by
  unfold selectArray
  split
  · exact ⟨hw, fun id h => by cases h⟩
  split
  case isTrue hu =>
    refine ⟨hw, fun id _ => ?_⟩
    rw [hc.resolve_left fun hc => by simp [hc] at hu]
    exact not_mem_nil
  case isFalse =>
    refine (takeSnapshots_safe hw _).bind ?_
    rintro w₁ snapshots ⟨hw₁, hsn⟩
    refine ⟨hw₁, fun id hse hm => ?_⟩
    obtain ⟨s, hs, rfl, ha⟩ := mem_of_selectFrom hse
    rw [hsn s hs hm] at ha
    cases ha

theorem checkTopologyRequirements_safe (topologies : List Topology) :
    (createContract cfg i).Safe (fun w _ => At i n failed marked own req w) w
      (checkTopologyRequirements cfg topologies) := by
  induction topologies generalizing w with
  | nil => exact hw
  | cons topology rest ih =>
    refine reads_safe hw (fun _ => trivial) (fun _ _ _ h => serve_rangeStorageArrays h) ?_
    intro w₁ ids hw₁ _
    exact (ih hw₁).bind fun w₂ _ hw₂ => hw₂

theorem matchingArrays_safe (requirement : TopologyRequirement) :
    (createContract cfg i).Safe (fun w _ => At i n failed marked own req w) w
      (matchingArrays cfg requirement) := by
  refine (checkTopologyRequirements_safe hw _).bind fun w₁ candidates hw₁ => ?_
  cases candidates with
  | nil => exact checkTopologyRequirements_safe hw₁ _
  | cons => exact hw₁

theorem isArrayUnavailable_safe (arrayID : String) :
    (createContract cfg i).Safe (fun w _ => At i n failed marked own req w) w
      (isArrayUnavailable cfg arrayID) := by
  unfold isArrayUnavailable
  split
  · exact hw
  refine reads_safe hw (fun _ => trivial) (fun _ _ _ h => (serve_snapshot h).1) ?_
  intro w₁ snapshot hw₁ _
  refine .ite (fun _ => hw₁) fun _ => ?_
  split
  · exact hw₁
  exact .ite (fun _ => hw₁) fun _ => hw₁

omit hw

theorem selectArrayFromTopologyRequirement_safe (hw : At i n failed [] own req w)
    (requirement : Option TopologyRequirement) :
    (createContract cfg i).Safe (fun w _ => At i n failed [] own req w) w
      (selectArrayFromTopologyRequirement cfg requirement) := by
  unfold selectArrayFromTopologyRequirement
  split
  · exact hw
  split
  · exact hw
  split
  · exact hw
  refine (matchingArrays_safe hw _).bind fun w₁ candidates hw₁ => ?_
  rcases candidates with _ | ⟨first, _ | ⟨second, rest⟩⟩
  · exact hw₁
  · exact hw₁
  · exact (selectArray_safe hw₁ (.inr rfl) _ _).mono fun _ _ h => h.1

def during (cfg : SelectionConfig U) (symmetrixID : String) (id : String) : Int32 :=
  if cfg.capCache ∧ id = symmetrixID then 1 else 0

theorem incInFlight_safe (hw : At i n failed marked (fun _ => 0) req w) (symmetrixID : String) :
    (createContract cfg i).Safe (fun w _ => At i n failed marked (during cfg symmetrixID) req w) w
      (ifCached cfg (.incInFlight symmetrixID)) := by
  unfold ifCached
  split
  case isTrue hc =>
    refine hw.1.ask (fun _ _ => trivial) fun w₁ w₂ _ h₁ _ hr hs => ?_
    cases hs
    refine ⟨?_, hr.trans hw.2⟩
    convert h₁.addInFlight symmetrixID 1 using 2 with id
    unfold during
    grind
  case isFalse hc =>
    refine ⟨?_, hw.2⟩
    convert hw.1 using 2 with id
    simp [during, hc]

variable {symmetrixID : String}

theorem decInFlight_safe (hw : At i n failed marked (during cfg symmetrixID) req w) :
    (createContract cfg i).Safe (fun w _ => At i n failed marked (fun _ => 0) req w) w
      (ifCached cfg (.decInFlight symmetrixID)) := by
  unfold ifCached
  split
  case isTrue hc =>
    refine hw.1.ask (fun _ _ => trivial) fun w₁ w₂ _ h₁ _ hr hs => ?_
    cases hs
    refine ⟨?_, hr.trans hw.2⟩
    convert h₁.addInFlight symmetrixID (-1) using 2 with id
    unfold during
    grind
  case isFalse hc =>
    refine ⟨?_, hw.2⟩
    convert hw.1 using 2 with id
    simp [during, hc]

theorem handleConnectivityFailover_safe
    (hw : At i n failed marked own req w) (hc : cfg.capCache = true)
    (hm : symmetrixID ∈ failed) (zone : String) (candidates : List String) :
    (createContract cfg i).Safe
      (fun w r => At i n failed (symmetrixID :: marked) own req w ∧
        ∀ id, r = .ok id → n < maxFailoverRetries ∧ id ∉ symmetrixID :: marked) w
      (handleConnectivityFailover cfg zone symmetrixID candidates n) := by
  have hma : (createContract cfg i).Safe
      (fun w _ => At i n failed (symmetrixID :: marked) own req w) w
      (ifCached cfg (.invalidate symmetrixID)) := by
    unfold ifCached
    rw [if_pos hc]
    refine hw.1.ask (fun _ _ => trivial) fun w₁ w₂ _ h₁ _ hreq hs => ?_
    cases hs
    exact ⟨h₁.invalidate hm, hreq.trans hw.2⟩
  refine hma.bind fun w₁ _ hw₁ => ?_
  split
  case isTrue => exact ⟨hw₁, fun id h => by cases h⟩
  case isFalse hre =>
    refine (selectArray_safe hw₁ (.inl hc) zone candidates).mono fun w₂ r hr => ?_
    exact ⟨hr.1, fun id hid => ⟨Nat.lt_of_not_le hre, hr.2 id hid⟩⟩

/-- By induction on the fuel: arrays that were not reached are marked, the next is not among
them. -/
theorem attempt_safe {symmIDFoundInAZ : Bool} (hfo : symmIDFoundInAZ = true → req.symID = "")
    (zone : String) (candidates : List String) {fuel : Nat}
    (hw : At i n failed marked (fun _ => 0) req w) (hm : failed ⊆ marked)
    (hne : symmetrixID ∉ marked) (hn : n < maxFailoverRetries)
    (hfu : maxFailoverRetries ≤ n + fuel) :
    (createContract cfg i).Safe (fun w _ => Settled i w) w
      (attempt cfg symmIDFoundInAZ zone candidates fuel n symmetrixID) := by
  induction fuel generalizing w n failed marked symmetrixID with
  | zero => exact absurd hn (Nat.not_lt.mpr hfu)
  | succ fuel ih =>
    refine (incInFlight_safe hw symmetrixID).bind fun w₁ _ hw₁ => ?_
    refine hw₁.1.ask (fun w₂ h₂ => ⟨h₂.attempts ▸ hn, fun h => hne (hm (h₂.failed ▸ h))⟩) ?_
    intro w₂ w₃ result h₂ hc hre hse
    cases hse
    have hre₂ : w₂.request i = some req := hre.trans hw₁.2
    have hw₃ := (⟨h₂.attempted symmetrixID result, hre₂⟩ : At i (n + 1) _ marked _ req _)
    refine (decInFlight_safe hw₃).bind fun w₄ _ hw₄ => ?_
    cases result with
    | ok volumeID => exact hw₄.1.settled
    | error err =>
      dsimp only
      split
      case isTrue => exact hw₄.1.settled
      case isFalse hf =>
        obtain ⟨hi, hu⟩ : symmIDFoundInAZ = true ∧
            unreached (.error err : Except PmaxError String) = true := by
          simpa [unreached] using hf
        have hca : cfg.capCache = true := hc hu ⟨req, hre₂, hfo hi⟩
        rw [if_pos hu] at hw₄
        refine (handleConnectivityFailover_safe hw₄ hca (by simp) zone candidates).bind ?_
        rintro w₅ (failoverErr | nextArrayID) ⟨hw₅, hs⟩
        · exact hw₅.1.settled
        · obtain ⟨hr, hun⟩ := hs nextArrayID rfl
          refine ih hw₅ ?_ hun hr (by omega)
          intro id hid
          rcases mem_append.mp hid with hid | hid
          · exact mem_cons_of_mem _ (hm hid)
          · exact mem_singleton.mp hid ▸ mem_cons_self

theorem createVolume_safe {fuel : Nat} (hfu : maxFailoverRetries ≤ fuel)
    (hw : At i 0 [] [] (fun _ => 0) req w) :
    (createContract cfg i).Safe (fun w _ => Settled i w) w (createVolume cfg fuel req) := by
  have hf : 0 < maxFailoverRetries := by decide
  have he : maxFailoverRetries ≤ 0 + fuel := by omega
  unfold createVolume
  split
  case isTrue hs =>
    refine (selectArrayFromTopologyRequirement_safe hw _).bind ?_
    rintro w₁ (err | symmetrixID) hw₁
    · exact hw₁.1.settled
    refine (matchingArrays_safe hw₁ _).bind fun w₂ candidates hw₂ => ?_
    exact attempt_safe (fun _ => hs) _ candidates hw₂ (Subset.refl _) not_mem_nil hf he
  case isFalse =>
    refine (isArrayUnavailable_safe hw _).bind ?_
    rintro w₁ (_ | reason) hw₁
    · exact attempt_safe (fun h => by cases h) _ [] hw₁ (Subset.refl _) not_mem_nil hf he
    · exact hw₁.1.settled

end

/-- A topology-based request makes at most `maxFailoverRetries` attempts, none on an array that it
has failed to reach, it ends, and has then changed no in-flight counter. -/
def Provisions (s : CreatePool U) : CreateEvent U → Prop
  | .reply i c _ _ => s.world.Topological i → (s.thread i).next = some c → s.world.Promise i c
  | _ => True

/-- There is a cache, and no poll of an array succeeds while a request that has failed to reach it
goes on. -/
def Isolated (cfg : SelectionConfig U) (s : CreatePool U) : CreateEvent U → Prop
  | .reply i c r _ => Cached cfg s.world i c r
  | .env (.success arrayID _ _) => ∀ i, arrayID ∉ s.world.failed i
  | _ => True

theorem createThreads_meets {fuel : Nat} (hf : maxFailoverRetries ≤ fuel) :
    Threads.Meets (createContract cfg) (createThreads cfg fuel) (Isolated cfg) where
  init _ := trivial
  start s i req w _ _ hst := by
    cases hst
    refine ⟨fun _ => trivial, fun j hj _ _ => ?_, ?_⟩
    · have hji : j ≠ i := fun h => hj (congrArg some h)
      refine ⟨update_of_ne hji _ _, update_of_ne hji _ _,
        update_of_ne hji _ _, update_of_ne hji _ _, fun id => ?_, fun _ _ => id⟩
      show _ - update s.world.others i (fun _ => 0) j id = _
      rw [update_of_ne hji]
      rfl
    · have hat : At i 0 [] [] (fun _ => 0) req (s.world.start i req) := by
        refine ⟨⟨?_, update_self _ _ _, Subset.refl _,
          fun _ h => (not_mem_nil h).elim, fun id => ?_⟩, update_self _ _ _⟩
        · show (update s.world.attempts i [] i).length = 0
          rw [update_self]
          rfl
        · show s.world.inFlight id - update s.world.others i (fun _ => 0) i id =
            update s.world.before i s.world.inFlight i id + 0
          rw [update_self, update_self]
          grind
      refine (createVolume_safe hf hat).bind fun w result hse w₁ hr _ => ?_
      refine ⟨fun id => ?_, fun _ _ _ => trivial⟩
      have hsh : w₁.inFlight id - w₁.others i id = w₁.before i id := by
        rw [hr.before]
        exact (hr.share id).trans (hse id)
      grind
  reply s i c r f w hG _ _ hs := by
    refine ⟨fun _ => trivial, fun j hj c' _ => ?_, hG, hs⟩
    exact serve_rely (fun h => hj (congrArg some h)) hs
  env s poll w hG _ he := by
    cases he
    refine ⟨fun _ => trivial, fun j _ _ _ => poll_rely ?_⟩
    rintro arrayID utilizationPercent now rfl
    exact hG j

/-- If there is a cache whenever an array is not reached, and no poll of it succeeds meanwhile, the
requests provision as they should. -/
theorem provisions_of_isolated (cfg : SelectionConfig U) {fuel : Nat}
    (hf : maxFailoverRetries ≤ fuel) (events : List (CreateEvent U))
    (hr : (createThreads cfg fuel).machine.Along (Isolated cfg)
      (createThreads cfg fuel).machine.init events) :
    (createThreads cfg fuel).machine.Along Provisions
      (createThreads cfg fuel).machine.init events := by
  refine Machine.Along.of_invariant _ (I := Threads.Pool.Sound (createContract cfg))
    (fun _ _ _ hs hG hst => (createThreads_meets hf).step hs hG hst) ?_
    (fun i => ⟨trivial, trivial⟩) hr
  intro s e hs _
  cases e with
  | start | env => trivial
  | reply i c r f => exact fun _ hn => (hs i).2.issue trivial hn

theorem isolated_of_cache (cfg : SelectionConfig U) (hc : cfg.capCache = true) (fuel : Nat)
    {events : List (CreateEvent U)} (hp : ∀ arrayID utilizationPercent now,
      .env (.success arrayID utilizationPercent now) ∉ events) :
    (createThreads cfg fuel).machine.Along (Isolated cfg)
      (createThreads cfg fuel).machine.init events := by
  refine Machine.along_of_forall _ (fun e he s => ?_) _
  rcases e with ⟨i, req⟩ | ⟨i, c, r, f⟩ | ⟨arrayID, utilizationPercent, now⟩ | ⟨arrayID, interval, now⟩
  · trivial
  · cases c
    case doCreateVolume => exact fun _ _ => hc
    all_goals trivial
  · exact absurd he (hp arrayID utilizationPercent now)
  · trivial

namespace TwoArrays

def config (capCache : Bool) : SelectionConfig ℕ :=
  let labels : GoMap String String := AList.singleton "topology.kubernetes.io/zone" "zone-a"
  ⟨capCache, 100, (AList.singleton "000120000548" labels).insert "000120000549" labels⟩

def request : CreateVolumeRequest :=
  ⟨"", some ⟨[AList.singleton "topology.kubernetes.io/zone" "zone-a"], []⟩⟩

def timeout : PmaxError := ⟨"dial tcp: i/o timeout", false⟩

def unknown : Snapshot ℕ := ⟨0, true, 0, false⟩

def range : CreateEvent ℕ := .reply 0 .rangeStorageArrays ["000120000548", "000120000549"] ()

def snapshots (first second : Snapshot ℕ) : List (CreateEvent ℕ) :=
  [.reply 0 (.snapshot "000120000548") first (), .reply 0 (.snapshot "000120000549") second ()]

def attempts (arrayID : String) (result : Except PmaxError String) : List (CreateEvent ℕ) :=
  [.reply 0 (.incInFlight arrayID) () (), .reply 0 (.doCreateVolume arrayID) result (),
    .reply 0 (.decInFlight arrayID) () ()]

def missed : List (CreateEvent ℕ) :=
  [.start 0 request, range] ++ snapshots unknown unknown ++ [range] ++
    attempts "000120000548" (.error timeout) ++ [.reply 0 (.invalidate "000120000548") () ()]

def moved : List (CreateEvent ℕ) :=
  missed ++ snapshots ⟨0, false, 0, true⟩ unknown ++
    attempts "000120000549" (.ok "csi-vol-1") ++ [.reply 0 (.respond (.ok "csi-vol-1")) () ()]

theorem provisions_of_isolated_moved :
    ((createThreads (config true) 3).machine.run (createThreads (config true) 3).machine.init
      moved).map (fun s => s.world.attempts 0) = some ["000120000548", "000120000549"] ∧
    (createThreads (config true) 3).machine.Along Provisions
      (createThreads (config true) 3).machine.init moved := by
  refine ⟨by decide +kernel, provisions_of_isolated (config true) (by decide) moved ?_⟩
  exact isolated_of_cache (config true) rfl 3 fun _ _ _ h => by
    simp [moved, missed, snapshots, attempts, range] at h

theorem again_of_run (capCache : Bool) (events : List (CreateEvent ℕ))
    (ho : ((createThreads (config capCache) 3).machine.run
      (createThreads (config capCache) 3).machine.init events).map (fun s =>
        ((s.thread 0).next, (s.world.request 0).map (·.symID), s.world.failed 0)) =
      some (some (.doCreateVolume "000120000548"), some "", ["000120000548"])) :
    ¬ (createThreads (config capCache) 3).machine.Along Provisions
      (createThreads (config capCache) 3).machine.init
      (events ++ [.reply 0 (.doCreateVolume "000120000548") (.error timeout) ()]) := by
  intro ha
  obtain ⟨s, hru, hs⟩ := map_eq_some_iff.mp ho
  simp only [Prod.mk.injEq] at hs
  obtain ⟨hn, hr, hfa⟩ := hs
  obtain ⟨hp, -⟩ := (Machine.along_append _).mp ha |>.2 s hru
  obtain ⟨-, hf⟩ := hp (map_eq_some_iff.mp hr) hn
  rw [hfa] at hf
  exact hf mem_cons_self

/-- The array is tried again, with a cache after a poll that succeeds and without one in any
case. -/
theorem tries_again :
    (¬ ∀ (cfg : SelectionConfig ℕ) (fuel : Nat) (events : List (CreateEvent ℕ)),
      cfg.capCache = true → maxFailoverRetries ≤ fuel →
      (createThreads cfg fuel).machine.Along Provisions (createThreads cfg fuel).machine.init events) ∧
    ¬ ∀ (cfg : SelectionConfig ℕ) (fuel : Nat) (events : List (CreateEvent ℕ)),
      cfg.capCache = false → maxFailoverRetries ≤ fuel →
      (createThreads cfg fuel).machine.Along Provisions
        (createThreads cfg fuel).machine.init events := by
  constructor
  · intro ha
    refine again_of_run true (missed ++ [.env (.success "000120000548" 0 1)] ++
      snapshots ⟨0, true, 0, true⟩ unknown ++ [.reply 0 (.incInFlight "000120000548") () ()]) ?_
      (ha _ _ _ rfl (by decide))
    decide +kernel
  · intro ha
    refine again_of_run false [.start 0 request, range, range,
      .reply 0 (.doCreateVolume "000120000548") (.error timeout) ()] ?_ (ha _ _ _ rfl (by decide))
    decide +kernel

end TwoArrays

end PowerMaxCsi.Capacity
