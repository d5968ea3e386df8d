import PowerMaxCsi.Service.RemovalProgress

/-!
# No device waits forever

If the array answers regularly, every call makes progress.  If it also lists a device in a group no
more that it was taken out of, and the other steps leave the devices that wait where they are, a
device waits for a number of calls that depends on the devices before it and their groups only
(`progress_of_regular`).
-/

namespace PowerMaxCsi.Service

open Prog WaitingList List Option CsiDevice

inductive WorkerEvent where
  | removal (h : WorkerHistory)
  | others (queue : DeletionQueue)

/-- None if the calls are not those of the step, or if it panics. -/
def workerStep (queue : DeletionQueue) : WorkerEvent → Option DeletionQueue
  | .removal h =>
    ((queue.removeVolumesFromStorageGroup.follow h).bind Prog.result).bind fun r =>
      r.map Prod.fst
  | .others queue' => some queue'

def worker (symID clusterPrefix : String) : Machine DeletionQueue WorkerEvent where
  init := ⟨[], symID, clusterPrefix⟩
  step := workerStep

namespace DeletionQueue

abbrev Waits (queue : DeletionQueue) (deviceID : String) : Prop :=
  WaitingList.Waits CsiDevice.waits CsiDevice.deviceID deviceID queue.deviceList

def Distinct (queue : DeletionQueue) : Prop := (queue.deviceList.map CsiDevice.deviceID).Nodup

instance (queue : DeletionQueue) : Decidable queue.Distinct :=
  inferInstanceAs (Decidable (queue.deviceList.map CsiDevice.deviceID).Nodup)

/-- Devices that wait stay as they are, and others that wait come after them. -/
def Keeps (queue queue' : DeletionQueue) : Prop :=
  queue.deviceList.filter CsiDevice.waits <+: queue'.deviceList.filter CsiDevice.waits ∧
    queue'.Distinct

instance (queue queue' : DeletionQueue) : Decidable (queue.Keeps queue') :=
  inferInstanceAs (Decidable (_ ∧ _))

theorem queueDeviceForDeletion_keeps {queue queue' : DeletionQueue} {device : CsiDevice}
    (hq : queue.Distinct) (h : queue.queueDeviceForDeletion device = .ok queue') :
    queue.Keeps queue' := by
  unfold queueDeviceForDeletion at h
  split at h
  · cases h
  next hn =>
  obtain rfl := Except.ok.inj h
  refine ⟨?_, ?_⟩
  · simp
  · have hnew : device.deviceID ∉ queue.deviceList.map deviceID := by
      intro hmem
      obtain ⟨dev, hd, hid⟩ := List.mem_map.mp hmem
      have hne := List.find?_eq_none.mp hn dev hd
      exact hne (by simpa [equals] using hid)
    rw [Distinct, map_append, map_cons, map_nil]
    refine nodup_append.mpr ⟨hq, nodup_singleton _, ?_⟩
    intro a ha b hb hab
    rw [mem_singleton] at hb
    exact hnew (hb ▸ hab ▸ ha)

theorem pruneDeletionQueue_keeps {queue : DeletionQueue} (hq : queue.Distinct) :
    queue.Keeps queue.pruneDeletionQueue := by
  refine ⟨?_, ?_⟩
  · have hs : queue.pruneDeletionQueue.deviceList.filter waits = queue.deviceList.filter waits := by
      rw [pruneDeletionQueue, List.filter_filter]
      refine filter_congr fun dev _ => ?_
      by_cases hw : dev.status.state = .disAssociateSG
      · simp [hw]
      · simp [waits, hw]
    rw [hs]
  · exact hq.sublist (filter_sublist.map _)

end DeletionQueue

def RegularStep (queue : DeletionQueue) : WorkerEvent → Prop
  | .removal h => RegularHistory [] h
  | .others queue' => queue.Keeps queue'

def isRemoval : WorkerEntry → Bool
  | ⟨.pmax (.removeVolumesFromStorageGroup _ _ _), _⟩ => true
  | ⟨.removeVolumesFromProtectedStorageGroup _ _ _ _ _, _⟩ => true
  | _ => false

def DeletionQueue.statuses (queue : DeletionQueue) : List (DeletionState × Nat) :=
  queue.deviceList.map fun device => (device.status.state, device.status.nErrors)

/-- A call sends a removal request, or changes the state or the number of errors of a device. -/
def Progress (queue : DeletionQueue) (h : WorkerHistory) (queue' : DeletionQueue) : Prop :=
  h.any isRemoval = true ∨ queue'.statuses ≠ queue.statuses

def Progresses (queue : DeletionQueue) : WorkerEvent → Prop
  | .removal h => (∃ deviceID, queue.Waits deviceID) →
      ∀ queue', workerStep queue (.removal h) = some queue' → Progress queue h queue'
  | .others _ => True

def calls (events : List WorkerEvent) : Nat :=
  events.countP fun
    | .removal _ => true
    | .others _ => false

/-- The groups that a device can be listed in. -/
abbrev Memberships := String → Finset String

namespace Memberships

def listing (G : Memberships) : Listing where
  shows w deviceID sgID := sgID ∈ G deviceID ∧ takenOut deviceID sgID w = false
  anti hw h := by
    refine ⟨h.1, Bool.eq_false_iff.mpr fun ht => ?_⟩
    exact Bool.eq_false_iff.mp h.2 (takenOut_mono hw ht)

def after (G : Memberships) (h : WorkerHistory) : Memberships :=
  fun deviceID => (G deviceID).filter fun sgID => takenOut deviceID sgID h = false

/-- A read lists a device in a group only if it was in it at first and was not taken out. -/
def Listed : Memberships → List WorkerEvent → Prop
  | _, [] => True
  | G, .removal h :: events => G.listing.AdmitsAll [] h ∧ (G.after h).Listed events
  | G, .others _ :: events => G.Listed events

/-- The groups of a device, with those that only the cache still has. -/
def known (G : Memberships) (d : CsiDevice) : Finset String :=
  G d.deviceID ∪ d.groups.toFinset

end Memberships

section

variable {queue queue' : DeletionQueue} {h : WorkerHistory} {events : List WorkerEvent}

theorem workerStep_removal {L : Listing} (hq : queue.Distinct) (hh : RegularHistory [] h)
    (hl : L.AdmitsAll [] h) (hs : workerStep queue (.removal h) = some queue') :
    List.Forall₂ (Onward (L.shows [])) queue.deviceList queue'.deviceList ∧
      FirstDone L h queue.deviceList queue'.deviceList := by
  obtain ⟨r, hre, hr⟩ := bind_eq_some_iff.mp hs
  have hret : CanReturn (Answers L) [] queue.removeVolumesFromStorageGroup h r :=
    ⟨h, hh.consistent hl, exec_of_follow hre⟩
  obtain ⟨devices, updated, rfl, ho, hd⟩ :=
    (removeVolumesFromStorageGroup_run hq).canReturn hret
  cases hr
  exact ⟨ho, hd⟩

theorem distinct_of_step {e : WorkerEvent} (hq : queue.Distinct) (he : RegularStep queue e)
    (hs : workerStep queue e = some queue') : queue'.Distinct := by
  cases e with
  | removal h =>
    have ho := (workerStep_removal hq he (Listing.any_admitsAll [] h) hs).1
    rw [DeletionQueue.Distinct, map_deviceID_of_onward ho]
    exact hq
  | others queue'' =>
    cases hs
    exact he.2

variable {deviceID : String} {d d' : CsiDevice}

theorem isRemoval_of_requests {sgID : String} {e : WorkerEntry}
    (he : requests deviceID sgID e = true) : isRemoval e = true := by
  unfold requests removalOf at he
  split at he
  · rfl
  · rfl
  · cases he

theorem status_ne_of_advances {K : String → String → Prop} (hw : d.waits = true)
    (h : d.Advances K d') :
    (d'.status.state, d'.status.nErrors) ≠ (d.status.state, d.status.nErrors) := by
  intro heq
  obtain ⟨hs, he⟩ := Prod.mk.inj heq
  have hw' : d'.waits = true := by rwa [waits, hs]
  have hlt := h.2 hw'
  omega

theorem progress_of_firstDone {L : Listing} {l l' : List CsiDevice}
    (ho : List.Forall₂ (Onward (L.shows [])) l l') (hdo : FirstDone L h l l')
    (hwa : ∃ d ∈ l, d.waits = true) :
    h.any isRemoval = true ∨
      l'.map (fun d => (d.status.state, d.status.nErrors)) ≠
        l.map (fun d => (d.status.state, d.status.nErrors)) := by
  induction ho with
  | nil =>
    obtain ⟨d, hd, -⟩ := hwa
    cases hd
  | @cons d d' l l' hd _ ih =>
    unfold FirstDone at hdo
    split at hdo
    · next hw =>
      rcases hdo with ha | ⟨sgID, w, -, hsu, hr, -⟩
      · refine .inr fun heq => ?_
        exact status_ne_of_advances hw ha (cons.inj heq).1
      · refine .inl ?_
        rw [takenOut, Bool.and_eq_true, List.any_eq_true] at hr
        obtain ⟨⟨e, he, hre⟩, -⟩ := hr
        exact any_eq_true.mpr ⟨e, hsu he, isRemoval_of_requests hre⟩
    · next hw =>
      have hres : ∃ d ∈ l, d.waits = true := by
        obtain ⟨b, hb, hbw⟩ := hwa
        rcases mem_cons.mp hb with rfl | hb
        · exact absurd hbw hw
        · exact ⟨b, hb, hbw⟩
      refine (ih hdo hres).imp_right fun hne heq => ?_
      exact hne (cons.inj heq).2

theorem progresses_of_regular {e : WorkerEvent} (hq : queue.Distinct)
    (he : RegularStep queue e) : Progresses queue e := by
  cases e with
  | removal h =>
    rintro ⟨deviceID, d, hd, hw, -⟩ queue' hs
    obtain ⟨ho, hdo⟩ := workerStep_removal hq he (Listing.any_admitsAll [] h) hs
    exact progress_of_firstDone ho hdo ⟨d, hd, hw⟩
  | others queue' => trivial

variable {G : Memberships}

/-- A device can have so many more errors, and be taken out of so many groups. -/
def cost (G : Memberships) (d : CsiDevice) : Nat :=
  1 + (maxErrorCount - d.status.nErrors) + (G.known d).card

theorem known_subset_of_onward (h : WorkerHistory) (hd : d.Onward (G.listing.shows []) d') :
    (G.after h).known d' ⊆ G.known d := by
  intro sgID hs
  rw [Memberships.known, hd.deviceID_eq] at hs
  rcases Finset.mem_union.mp hs with hs | hs
  · exact Finset.mem_union_left _ (Finset.mem_filter.mp hs).1
  · rcases hd.groups_of sgID (mem_toFinset.mp hs) with hs | hs
    · exact Finset.mem_union_right _ (mem_toFinset.mpr hs)
    · exact Finset.mem_union_left _ hs.1

theorem known_ssubset_of_dropped (hd : d.Onward (G.listing.shows []) d')
    (hdr : Dropped G.listing h d d') : (G.after h).known d' ⊂ G.known d := by
  obtain ⟨sgID, w, hk, hsu, ht, hg⟩ := hdr
  refine (Finset.ssubset_iff_of_subset (known_subset_of_onward h hd)).mpr ⟨sgID, ?_, ?_⟩
  · rcases hk with hs | hs
    · exact Finset.mem_union_right _ (mem_toFinset.mpr hs)
    · exact Finset.mem_union_left _ hs.1
  · rw [Memberships.known, hd.deviceID_eq, Finset.mem_union, not_or]
    refine ⟨fun hs => ?_, fun hs => ?_⟩
    · exact Bool.eq_false_iff.mp (by simpa using (Finset.mem_filter.mp hs).2) (takenOut_mono hsu ht)
    · exact Bool.eq_false_iff.mp (hg sgID (mem_toFinset.mp hs)).2 ht

theorem cost_le_of_onward (hd : d.Onward (G.listing.shows []) d') (hw : d'.waits = true) :
    cost (G.after h) d' ≤ cost G d := by
  have hle := hd.errors_le hw
  have hc := Finset.card_le_card (known_subset_of_onward h hd)
  rw [cost, cost]
  omega

theorem settles_of_onward (hd : d.Onward (G.listing.shows []) d') :
    Settles CsiDevice.waits CsiDevice.deviceID (cost G) (cost (G.after h)) d d' :=
  ⟨hd.deviceID_eq, fun hw => ⟨hd.waits hw, cost_le_of_onward hd hw⟩⟩

theorem firstSettles_of_firstDone {l l' : List CsiDevice}
    (ho : List.Forall₂ (Onward (G.listing.shows [])) l l') (hdo : FirstDone G.listing h l l') :
    FirstSettles waits (cost G) (cost (G.after h)) l l' := by
  induction ho with
  | nil => trivial
  | @cons d d' l l' hd _ ih =>
    unfold FirstDone at hdo
    unfold FirstSettles
    split
    · next hw =>
      rw [if_pos hw] at hdo
      intro hw'
      rw [cost, cost]
      rcases hdo with ha | hdr
      · have hlt := ha.2 hw'
        have hm := hd.errors_lt hw' hlt
        have hc := Finset.card_le_card (known_subset_of_onward h hd)
        omega
      · have hle := hd.errors_le hw'
        have hc := Finset.card_lt_card (known_ssubset_of_dropped hd hdr)
        omega
    · next hw =>
      rw [if_neg hw] at hdo
      exact ih hdo

abbrev DeletionQueue.load (queue : DeletionQueue) (G : Memberships) (deviceID : String) : Nat :=
  WaitingList.load CsiDevice.waits CsiDevice.deviceID (cost G) deviceID queue.deviceList

theorem load_removal (hq : queue.Distinct) (hh : RegularHistory [] h)
    (hl : G.listing.AdmitsAll [] h) (hs : workerStep queue (.removal h) = some queue')
    (hw : queue'.Waits deviceID) :
    queue'.load (G.after h) deviceID < queue.load G deviceID := by
  obtain ⟨ho, hd⟩ := workerStep_removal hq hh hl hs
  refine load_lt (ho.imp fun _ _ => settles_of_onward) hq hw (fun d _ => ?_)
    (firstSettles_of_firstDone ho hd)
  rw [cost]
  omega

theorem load_others (G : Memberships) (hk : queue.Keeps queue') (hw : queue.Waits deviceID) :
    queue'.load G deviceID = queue.load G deviceID := by
  rw [DeletionQueue.load, DeletionQueue.load, WaitingList.load, WaitingList.load,
    ahead_eq_of_extends hw hk.1]

end

section

variable {symID clusterPrefix : String} {queue queue' : DeletionQueue} {events : List WorkerEvent}
  (hq : queue.Distinct) (hr : (worker symID clusterPrefix).Along RegularStep queue events)

include hq hr

theorem distinct_of_run (hru : (worker symID clusterPrefix).run queue events = some queue') :
    queue'.Distinct :=
  (worker symID clusterPrefix).run_invariant
    (fun _ _ _ hq he hs => distinct_of_step hq he hs) hq hr hru

theorem along_progresses : (worker symID clusterPrefix).Along Progresses queue events := by
  induction events generalizing queue with
  | nil => trivial
  | cons e events ih =>
    refine ⟨progresses_of_regular hq hr.1, fun queue₁ hs => ?_⟩
    exact ih (distinct_of_step hq hr.1 hs) (hr.2 queue₁ hs)

theorem calls_le_load {G : Memberships} {deviceID : String} (hl : G.Listed events)
    (hru : (worker symID clusterPrefix).run queue events = some queue')
    (hw : (worker symID clusterPrefix).Along (fun q _ => q.Waits deviceID) queue events)
    (hw' : queue'.Waits deviceID) : calls events ≤ queue.load G deviceID := by
  induction events generalizing queue G with
  | nil => exact Nat.zero_le _
  | cons e events ih =>
    obtain ⟨queue₁, hs, hru₁⟩ := Machine.run_cons_eq_some _ |>.mp hru
    have hq₁ := distinct_of_step hq hr.1 hs
    cases e with
    | removal h =>
      have hre := ih hq₁ (hr.2 queue₁ hs) hl.2 hru₁ (hw.2 queue₁ hs)
      have hw₁ : queue₁.Waits deviceID := by
        cases events with
        | nil =>
          cases hru₁
          exact hw'
        | cons e events => exact (hw.2 queue₁ hs).1
      have hlt := load_removal hq hr.1 hl.1 hs hw₁
      have hc : calls (.removal h :: events) = calls events + 1 := by simp [calls]
      omega
    | others queue₂ =>
      have hre := ih (G := G) hq₁ (hr.2 queue₁ hs) hl hru₁ (hw.2 queue₁ hs)
      obtain rfl := some.inj hs
      have heq := load_others G hr.1 hw.1
      have hc : calls (.others queue₂ :: events) = calls events := by simp [calls]
      omega

/-- The devices before a device that waits, itself included, as far as they wait. -/
abbrev DeletionQueue.ahead (queue : DeletionQueue) (deviceID : String) : List CsiDevice :=
  WaitingList.ahead CsiDevice.waits CsiDevice.deviceID deviceID queue.deviceList

end

/-- **No device waits forever.**  With regular steps every call makes progress while a device waits,
and it waits for a number of calls that depends on the devices before it and their groups only. -/
theorem progress_of_regular {symID clusterPrefix : String} {earlier events : List WorkerEvent}
    {queue queue' : DeletionQueue}
    (he : (worker symID clusterPrefix).run (worker symID clusterPrefix).init earlier = some queue)
    (hr₀ : (worker symID clusterPrefix).Along RegularStep (worker symID clusterPrefix).init
      earlier) (hru : (worker symID clusterPrefix).run queue events = some queue')
    (hr : (worker symID clusterPrefix).Along RegularStep queue events) :
    (worker symID clusterPrefix).Along Progresses queue events ∧
      ∀ (G : Memberships) (deviceID : String), G.Listed events →
        (worker symID clusterPrefix).Along (fun q _ => q.Waits deviceID) queue events →
        queue'.Waits deviceID → calls events ≤
          ((queue.ahead deviceID).map fun d => maxErrorCount + 1 + (G.known d).card).sum := by
  have hem : (worker symID clusterPrefix).init.Distinct := nodup_nil
  have hq := distinct_of_run hem hr₀ he
  refine ⟨along_progresses hq hr, fun G deviceID hl hw hw' => ?_⟩
  refine (calls_le_load hq hr hl hru hw hw').trans ?_
  refine load_le_of_cost_le fun d => ?_
  rw [cost]
  omega

/-- Devices are queued, the queue is pruned, and devices are removed from their groups. -/
def QueueStep (queue : DeletionQueue) : WorkerEvent → Prop
  | .removal h => RegularHistory [] h
  | .others queue' => (∃ device, queue.queueDeviceForDeletion device = .ok queue') ∨
      queue' = queue.pruneDeletionQueue

theorem regularStep_of_queueStep {queue : DeletionQueue} {e : WorkerEvent} (hq : queue.Distinct)
    (he : QueueStep queue e) : RegularStep queue e := by
  cases e with
  | removal h => exact he
  | others queue' =>
    rcases he with ⟨device, h⟩ | rfl
    · exact DeletionQueue.queueDeviceForDeletion_keeps hq h
    · exact DeletionQueue.pruneDeletionQueue_keeps hq

/-- **Devices are queued once.**  The IDs in the queue stay distinct, and a device that waits is
neither changed nor overtaken by queueing and pruning. -/
theorem queued_once (symID clusterPrefix : String) (events : List WorkerEvent)
    (queue : DeletionQueue)
    (hru : (worker symID clusterPrefix).run (worker symID clusterPrefix).init events = some queue)
    (hs : (worker symID clusterPrefix).Along QueueStep (worker symID clusterPrefix).init events) :
    queue.Distinct ∧
      (worker symID clusterPrefix).Along RegularStep (worker symID clusterPrefix).init events := by
  have hem : (worker symID clusterPrefix).init.Distinct := nodup_nil
  have hr := hs.of_invariant _ (I := DeletionQueue.Distinct) (P := RegularStep)
    (fun _ _ _ hq he => distinct_of_step hq (regularStep_of_queueStep hq he))
    (fun _ _ => regularStep_of_queueStep) hem
  exact ⟨distinct_of_run hem hr hru, hr⟩

namespace TwoDevices

def volume (deviceID : String) (groups : List String) : Volume :=
  ⟨deviceID, "_DELcsi-ABC-" ++ deviceID, groups, false, false, 0⟩

def device (deviceID : String) (intVal : Nat) (group : String) : CsiDevice :=
  { symDeviceID := ⟨deviceID, intVal⟩
    symID := "000001"
    symVolumeCache := some (volume deviceID [group])
    volumeIdentifier := "_DELcsi-ABC-" ++ deviceID
    status := ⟨0, [], .disAssociateSG⟩ }

def queueOf (group : String) : DeletionQueue :=
  ⟨[device "000A1" 161 group, device "000A2" 162 "csi-gold"], "000001", "ABC"⟩

abbrev machine : Machine DeletionQueue WorkerEvent := worker "000001" "ABC"

theorem queued_once_twice : (queueOf "csi-silver").Distinct := by
  have h₁ : QueueStep machine.init
      (.others ⟨[device "000A1" 161 "csi-silver"], "000001", "ABC"⟩) :=
    .inl ⟨device "000A1" 161 "csi-silver", rfl⟩
  refine (queued_once "000001" "ABC" [_, .others (queueOf "csi-silver")] _ rfl ⟨h₁, ?_⟩).1
  rintro queue ⟨⟩
  exact ⟨.inl ⟨device "000A2" 162 "csi-gold", by rfl⟩, fun _ _ => trivial⟩

def look (group : String) (views : Nat) : WorkerEntry :=
  ⟨.pmax (.getStorageGroup "000001" group), .ok (some ⟨group, "SRP_1", 1, views, []⟩)⟩

/-- The group of the first device is in a masking view; the second one is removed. -/
def passed : WorkerHistory :=
  [⟨.cacheExpired "000A1", false⟩, look "csi-silver" 1,
    ⟨.cacheExpired "000A2", false⟩, look "csi-gold" 0, look "csi-gold" 0,
    ⟨.pmax (.removeVolumesFromStorageGroup "000001" "csi-gold" ["000A2"]), .ok ()⟩,
    ⟨.pmax (.getVolumeByID "000001" "000A2"), .ok (volume "000A2" [])⟩]

theorem passed_progress : ∃ queue',
    machine.run (queueOf "csi-silver") [.removal passed] = some queue' ∧
      queue'.statuses = [(.disAssociateSG, 1), (.deleteVol, 0)] ∧
      Progress (queueOf "csi-silver") passed queue' ∧ calls [.removal passed] ≤ 102 := by
  have ho : (machine.run (queueOf "csi-silver") [.removal passed]).map
      (fun q => (q.statuses, decide (q.Waits "000A1"))) =
        some ([(.disAssociateSG, 1), (.deleteVol, 0)], true) := by decide +kernel
  obtain ⟨queue', hru, hq'⟩ := map_eq_some_iff.mp ho
  obtain ⟨hs, hw'⟩ := Prod.mk.inj hq'
  have hk : machine.init.Keeps (queueOf "csi-silver") := by decide +kernel
  have hr : RegularHistory [] passed := by
    simp [RegularHistory, Regular, passed, look, showsFree, HasText]
  have he : machine.run machine.init [.others (queueOf "csi-silver")] =
      some (queueOf "csi-silver") := rfl
  obtain ⟨hp, hc⟩ := progress_of_regular he ⟨hk, fun _ _ => trivial⟩ hru ⟨hr, fun _ _ => trivial⟩
  have hw : (queueOf "csi-silver").Waits "000A1" := by decide +kernel
  obtain ⟨queue₁, hst, hq₁⟩ := Machine.run_cons_eq_some _ |>.mp hru
  obtain rfl := some.inj hq₁
  have hl : Memberships.Listed (fun _ => {"csi-silver"}) [.removal passed] := by
    simp [Memberships.Listed, Listing.AdmitsAll, Listing.Admits, passed, look, volume]
  refine ⟨queue₁, hru, hs, hp.1 ⟨_, hw⟩ _ hst, ?_⟩
  exact hc _ "000A1" hl ⟨hw, fun _ _ => trivial⟩ (of_decide_eq_true hw')

/-- The group of the first device is protected, on the R2 side: the second device is not looked
at. -/
def skipped : WorkerHistory :=
  [⟨.cacheExpired "000A1", true⟩,
    ⟨.pmax (.getVolumeByID "000001" "000A1"), .ok (volume "000A1" ["csi-rep-sg-ns-13-ASYNC"])⟩,
    look "csi-rep-sg-ns-13-ASYNC" 0, ⟨.cacheExpired "000A2", true⟩,
    ⟨.pmax (.getVolumeByID "000001" "000A2"), .ok (volume "000A2" ["csi-gold"])⟩,
    look "csi-rep-sg-ns-13-ASYNC" 0,
    ⟨.getStorageGroupRDFInfo "000001" "csi-rep-sg-ns-13-ASYNC" "13", .ok ⟨["Consistent"], ["R2"]⟩⟩]

theorem skipped_repeats (n : Nat) :
    machine.run (queueOf "csi-rep-sg-ns-13-ASYNC") (List.replicate n (.removal skipped)) =
      some (queueOf "csi-rep-sg-ns-13-ASYNC") := by
  have hs : machine.step (queueOf "csi-rep-sg-ns-13-ASYNC") (.removal skipped) =
      some (queueOf "csi-rep-sg-ns-13-ASYNC") := by decide +kernel
  induction n with
  | zero => rfl
  | succ n ih => exact (Machine.run_cons_eq_some _).mpr ⟨_, hs, ih⟩

/-- A call that is made while devices wait does nothing, and both devices wait forever. -/
theorem skipped_starves :
    (¬ ∀ (queue : DeletionQueue) (h : WorkerHistory) (queue' : DeletionQueue), queue.Distinct →
      (∃ deviceID, queue.Waits deviceID) → workerStep queue (.removal h) = some queue' →
      Progress queue h queue') ∧ ∀ n, ∃ queue', machine.run (queueOf "csi-rep-sg-ns-13-ASYNC")
        (List.replicate n (.removal skipped)) = some queue' ∧
      queue'.Waits "000A1" ∧ queue'.Waits "000A2" := by
  refine ⟨fun ha => ?_, fun n => ⟨_, skipped_repeats n, by decide +kernel, by decide +kernel⟩⟩
  have hw : (queueOf "csi-rep-sg-ns-13-ASYNC").Waits "000A2" := by decide +kernel
  have hp := ha (queueOf "csi-rep-sg-ns-13-ASYNC") skipped _ (by decide +kernel)
    ⟨_, hw⟩ (by decide +kernel : workerStep _ _ = some (queueOf "csi-rep-sg-ns-13-ASYNC"))
  rcases hp with hr | hs
  · exact absurd hr (by decide)
  · exact hs rfl

end TwoDevices

end PowerMaxCsi.Service
