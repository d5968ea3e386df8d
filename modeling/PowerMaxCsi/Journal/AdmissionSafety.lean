import PowerMaxCsi.Journal.AdmissionMethods

/-!
# A returned token names a pending resource

When `CreateDeferredOperation` returns a token, a pending resource with the key of the operation is
in the cluster, in every run in which operations are removed or ended only if they are not shared.
-/

namespace PowerMaxCsi.Journal

open Prog Cluster

def RetiresUnshared (n : Nat) (s : JournalPool) : JournalEvent → Prop
  | .reply i c _ _ => RetiresAlone n s.world i c
  | _ => True

instance (n : Nat) (s : JournalPool) (e : JournalEvent) : Decidable (RetiresUnshared n s e) :=
  match e with
  | .reply i c _ _ => inferInstanceAs (Decidable (RetiresAlone n s.world i c))
  | .start _ _ => instDecidableTrue
  | .env _ => instDecidableTrue

theorem journalThreads_meets (cfg : Nat → JournalConfig) (n : Nat) {init : Cluster}
    (hin : init.Inv cfg n) :
    Threads.Meets (journalContract cfg n) (journalThreads cfg n init) (RetiresUnshared n) where
  init _ := hin
  start s i job w _ hs h := by
    obtain ⟨hr, ⟨⟩⟩ := Option.ite_none_right_eq_some.mp h
    have hjo : Function.update s.world.jobs i (some job) i = some job := Function.update_self ..
    refine ⟨fun _ => (hs i).1, fun j hj c _ => ?_, ?_⟩
    · have hne : j ≠ i := fun hji => hj (by rw [hji])
      have hsa : Function.update s.world.jobs i (some job) j = s.world.jobs j :=
        Function.update_of_ne hne ..
      exact ⟨hsa, fun _ _ _ => rfl, fun _ _ _ _ _ => .refl _ _,
        fun _ _ _ _ _ _ _ _ _ _ => .refl _ _⟩
    · cases job with
      | createDeferredOperation r fuel op =>
        exact (createDeferredOperation_safe hr hjo rfl rfl fuel).bind fun _ _ _ => trivial
      | updateDeferredOperation r token retryCount lastError =>
        exact (updateOperation_safe (keepsKey_retried retryCount lastError) hr hjo rfl
          token).bind fun _ _ _ => trivial
      | updateDeferredOperationStatus r token status =>
        exact (updateOperation_safe (keepsKey_status status) hr hjo rfl token).bind
          fun _ _ _ => trivial
      | removeDeferredOperation r token =>
        exact (removeDeferredOperation_safe hr hjo rfl token).bind fun _ _ _ => trivial
  reply s i c r _ w hre hs hn h := by
    have hi : JournalIssue cfg n i s.world c := (hs i).2.issue (hs i).1 hn
    have he := serve_effect h
    refine ⟨fun j => he.inv (hs j).1 hi hre, fun j hj c' _ => ?_, h, hre⟩
    exact he.rely hi hre fun hji => hj (by rw [hji])
  env s d w _ hs h := by
    cases h
    exact ⟨fun i => (hs i).1, fun _ _ _ _ => ⟨rfl, fun _ _ _ => rfl, fun _ _ _ _ _ => .refl _ _,
      fun _ _ _ _ _ _ _ _ _ _ => .refl _ _⟩⟩

/-- A token that is about to be returned has a pending resource with the key of its operation. -/
def CreatedPending (s : JournalPool) : Prop :=
  ∀ i r op token, (s.thread i).next = some (.unlock r (some (op, token))) →
    HasPending s.world.store op.key

/-- If operations are removed or ended only if they are not shared, a returned token stands for a
pending resource. -/
theorem createdPending_of_retiresUnshared (cfg : Nat → JournalConfig) (n : Nat) (init : Cluster)
    (hin : init.Inv cfg n) (events : List JournalEvent) (s : JournalPool)
    (hru : (journalThreads cfg n init).machine.run (journalThreads cfg n init).machine.init
      events = some s)
    (hr : (journalThreads cfg n init).machine.Along (RetiresUnshared n)
      (journalThreads cfg n init).machine.init events) : CreatedPending s := by
  have hs := (journalThreads_meets cfg n hin).run_sound hr hru
  intro i r op token hn
  have hi := (hs i).2.issue (hs i).1 hn
  exact hi.2.2 (op, token) rfl

/-- The slices are what `SyncFromCRD` reads when a replica starts. -/
def Cluster.Synced (cfg : Nat → JournalConfig) (n : Nat) (w : Cluster) : Prop :=
  ∀ r < n, (w.replicas r).operations =
    pendingOps (w.selected ⟨(cfg r).driverName, (cfg r).instanceUID, ""⟩)

theorem Cluster.Synced.inv {cfg : Nat → JournalConfig} {n : Nat} {w : Cluster}
    (h : w.Synced cfg n) : w.Inv cfg n := by
  intro r hr _
  rw [Cluster.Sound, h r hr]
  refine ⟨w.nodup_pendingOps_selected _, fun op hop => ?_⟩
  obtain ⟨resource, hmem, -, hp, rfl⟩ := Cluster.mem_pendingOps_selected.mp hop
  exact ⟨resource, hmem, rfl, rfl, fun _ => hp, fun _ => hp⟩

def twoReplicas (r : Nat) : JournalConfig :=
  ⟨r, if r = 0 then "pod-0" else "pod-1", "csi-powermax", "", 100⟩

def deferredCleanup (volumeID token : String) : DeferredOperation :=
  ⟨token, .deviceCleanup, volumeID, "000120000548", "12", 0, 0, "", "csi-powermax", "", .pending⟩

def bothSynced : Cluster where
  store := ⟨[crdOpToUnstructured (deferredCleanup "vol-1" "t")], by decide⟩
  lease := none
  revision := 0
  clock := 0
  replicas _ := ⟨[deferredCleanup "vol-1" "t"], none⟩
  jobs _ := none

theorem bothSynced_synced : bothSynced.Synced twoReplicas 2 := by
  intro r _
  rfl

def noOperations : Cluster :=
  { bothSynced with store := ⟨[], by decide⟩, replicas := fun _ => ⟨[], none⟩ }

/-- A replica creates an operation, up to the return of its token. -/
def createRun (r : Nat) (stored : List DeferredOperation) (volumeID token : String) :
    List JournalEvent :=
  let newOp := deferredCleanup volumeID token
  [.start r (.createDeferredOperation r 1 (deferredCleanup volumeID "")),
    .reply r (.lock r) () (),
    .reply r (.operations r) [] (),
    .reply r .newUUID token (),
    .reply r .now 0 (),
    .reply r .now 0 (),
    .reply r .getLease (.error ⟨.notFound, ""⟩) (),
    .reply r (.createLease (twoReplicas r).holderIdentity 0) (.ok ()) (),
    .reply r (.list ⟨"csi-powermax", "", ""⟩) (.ok (stored.map crdOpToUnstructured)) (),
    .reply r (.create (crdOpToUnstructured newOp)) (.ok ()) (),
    .reply r .deleteLease (.ok ()) (),
    .reply r (.setOperations r [newOp]) () ()]

def returned (r : Nat) (volumeID token : String) : JournalEvent :=
  .reply r (.unlock r (some (deferredCleanup volumeID "", token))) () ()

def removeRun (r : Nat) : List JournalEvent :=
  [.start r (.removeDeferredOperation r "t"),
    .reply r (.lock r) () (),
    .reply r (.operations r) [deferredCleanup "vol-1" "t"] (),
    .reply r (.get "t") (.ok (crdOpToUnstructured (deferredCleanup "vol-1" "t"))) (),
    .reply r (.delete "t") (.ok ()) (),
    .reply r (.setOperations r []) () (),
    .reply r (.unlock r none) () ()]

def observe (s : JournalPool) : Option JournalCall × List Resource :=
  ((s.thread 0).next, s.world.store.items)

def bothCreate (token : String) : List JournalEvent :=
  createRun 1 [] "vol-2" "v" ++ returned 1 "vol-2" "v" ::
    createRun 0 [deferredCleanup "vol-2" "v"] "vol-1" token

/-- Two replicas create operations, and the token of the second one is about to be returned. -/
theorem createdPending_createRun : ∃ s,
    (journalThreads twoReplicas 2 noOperations).machine.run
      (journalThreads twoReplicas 2 noOperations).machine.init (bothCreate "u") = some s ∧
    (s.thread 0).next = some (.unlock 0 (some (deferredCleanup "vol-1" "", "u"))) ∧
    CreatedPending s := by
  have ho : ((journalThreads twoReplicas 2 noOperations).machine.run
      (journalThreads twoReplicas 2 noOperations).machine.init (bothCreate "u")).map observe =
      some (some (.unlock 0 (some (deferredCleanup "vol-1" "", "u"))),
        [deferredCleanup "vol-2" "v", deferredCleanup "vol-1" "u"].map crdOpToUnstructured) := by
    decide +kernel
  obtain ⟨s, hr, hs⟩ := Option.map_eq_some_iff.mp ho
  refine ⟨s, hr, congrArg Prod.fst hs, ?_⟩
  exact createdPending_of_retiresUnshared twoReplicas 2 noOperations
    (Cluster.Synced.inv fun r _ => rfl) _ s hr (by decide +kernel)

/-- The other replica has removed the operation, and nothing is pending. -/
theorem staleSlice_returned : ¬ ∀ cfg n init events s, Cluster.Synced cfg n init →
    (journalThreads cfg n init).machine.run (journalThreads cfg n init).machine.init events =
      some s → CreatedPending s := by
  intro ha
  have ho : ((journalThreads twoReplicas 2 bothSynced).machine.run
      (journalThreads twoReplicas 2 bothSynced).machine.init (removeRun 1 ++
        [.start 0 (.createDeferredOperation 0 1 (deferredCleanup "vol-1" "")),
          .reply 0 (.lock 0) () (),
          .reply 0 (.operations 0) [deferredCleanup "vol-1" "t"] ()])).map observe =
      some (some (.unlock 0 (some (deferredCleanup "vol-1" "", "t"))), []) := by decide
  obtain ⟨s, hr, hs⟩ := Option.map_eq_some_iff.mp ho
  simp only [observe, Prod.mk.injEq] at hs
  obtain ⟨hn, hi⟩ := hs
  obtain ⟨resource, hmem, -⟩ := ha _ _ _ _ s bothSynced_synced hr 0 _ _ _ hn
  rw [Registry.mem_def, hi] at hmem
  exact absurd hmem List.not_mem_nil

end PowerMaxCsi.Journal
