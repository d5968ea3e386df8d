import PowerMaxCsi.Journal.Cluster

/-!
# The lease of the deferred operations queue

`Section`s are the goroutines that have acquired the lease and have not released it yet; a release
deletes it, whoever holds it.  `QueueInv` keeps them apart as long as none outlives its lease:
`Timely`.
-/

namespace PowerMaxCsi.Journal

open Prog List Option Cluster

structure Driver where
  (driverName instanceUID : String)
  hardLimit : Int
deriving DecidableEq, Repr

namespace Driver

def journal (d : Driver) (identity : Nat → String) (r : Nat) : JournalConfig :=
  ⟨r, identity r, d.driverName, d.instanceUID, d.hardLimit⟩

def limit (d : Driver) : Int := if d.hardLimit ≤ 0 then queueHardLimit else d.hardLimit

def selector (d : Driver) : Selector := ⟨d.driverName, d.instanceUID, ""⟩

def pending (d : Driver) (store : Store) : List Resource :=
  store.items.filter fun resource =>
    d.selector.selects resource && isPendingOperation resource.op.status

/-- The queue is within its limit, and no operation is in it twice. -/
def Admitted (d : Driver) (store : Store) : Prop :=
  ((d.pending store).length : Int) ≤ d.limit ∧ ((d.pending store).map (·.op.key)).Nodup

instance (d : Driver) (store : Store) : Decidable (d.Admitted store) :=
  inferInstanceAs (Decidable (_ ∧ _))

end Driver

inductive Fault where
  | none
  | refused
  /-- The call takes effect, but an error is answered. -/
  | lost
deriving DecidableEq, Repr

namespace JournalCall

def failed : (c : JournalCall) → JournalAnswer c → Bool
  | .getLease, .error _ => true
  | .createLease _ _, .error _ => true
  | .updateLease _, .error _ => true
  | .deleteLease, .error _ => true
  | .list _, .error _ => true
  | .create _, .error _ => true
  | .get _, .error _ => true
  | .patch _, .error _ => true
  | .patchStatus _, .error _ => true
  | .delete _, .error _ => true
  | _, _ => false

def written : (c : JournalCall) → Option (JournalAnswer c)
  | .createLease _ _ => some (.ok ())
  | .updateLease _ => some (.ok ())
  | .deleteLease => some (.ok ())
  | .create _ => some (.ok ())
  | .patch _ => some (.ok ())
  | .patchStatus _ => some (.ok ())
  | .delete _ => some (.ok ())
  | _ => none

def reads : JournalCall → Bool
  | .operations _ | .newUUID | .now | .wait | .getLease | .list _ | .get _ | .loops => true
  | _ => false

end JournalCall

/-- A goroutine that has acquired the lease and has not released it yet. -/
structure Section where
  (goroutine acquireTime : Nat)
deriving DecidableEq, Repr

/-- A section goes from writing the lease to the answer of its release. -/
def track (i : Nat) (sections : List Section) : (c : JournalCall) → JournalAnswer c → List Section
  | .createLease _ acquireTime, .ok () => ⟨i, acquireTime⟩ :: sections
  | .updateLease lease, .ok () => (lease.acquireTime.map (Section.mk i)).toList ++ sections
  | .deleteLease, _ => sections.filter (·.goroutine ≠ i)
  | _, _ => sections

structure QueueWorld where
  cluster : Cluster
  sections : List Section

structure CreateJob where
  (replica fuel : Nat)
  op : DeferredOperation
deriving DecidableEq, Repr

namespace QueueWorld

def serve (w : QueueWorld) (i : Nat) (c : JournalCall) (r : JournalAnswer c) :
    Fault → Option QueueWorld
  | .none => (w.cluster.serve i c r).map fun cluster => ⟨cluster, track i w.sections c r⟩
  | .refused => if c.failed r then some ⟨w.cluster, track i w.sections c r⟩ else none
  | .lost =>
    if c.failed r then
      (c.written.bind (w.cluster.serve i c)).map fun cluster => ⟨cluster, track i w.sections c r⟩
    else none

def Timely (w : QueueWorld) : Prop :=
  ∀ s ∈ w.sections, w.cluster.clock < s.acquireTime + volumeJournalLeaseDuration

instance (w : QueueWorld) : Decidable w.Timely :=
  inferInstanceAs (Decidable (∀ s ∈ w.sections, _))

end QueueWorld

/-- The goroutines that call `CreateDeferredOperation`.  Time passes by the action. -/
def queueThreads (d : Driver) (identity : Nat → String) (init : Cluster) :
    Threads Nat JournalCall CreateJob Nat Fault QueueWorld JournalAnswer where
  init := ⟨init, []⟩
  program job :=
    (createDeferredOperation (d.journal identity job.replica) job.fuel job.op).bind fun _ => .ret ()
  start w i job :=
    some ⟨{ w.cluster with
        jobs := Function.update w.cluster.jobs i
          (some (.createDeferredOperation job.replica job.fuel job.op)) },
      w.sections.filter (·.goroutine ≠ i)⟩
  serve w i c r f := w.serve i c r f
  env w time := some { w with cluster := { w.cluster with clock := w.cluster.clock + time } }

abbrev QueuePool := Threads.Pool Nat JournalCall QueueWorld JournalAnswer

abbrev QueueEvent := Threads.Event Nat JournalCall CreateJob Nat Fault JournalAnswer

namespace QueueWorld

variable {w w' : QueueWorld} {i : Nat} {c : JournalCall} {r : JournalAnswer c} {f : Fault}

/-- A call changes the cluster as it says, and the sections as its answer tells. -/
theorem serve_act (h : w.serve i c r f = some w') :
    w.cluster.Act i c w'.cluster ∧ w'.sections = track i w.sections c r := by
  cases f with
  | none =>
    obtain ⟨cluster, hs, rfl⟩ := map_eq_some_iff.mp h
    exact ⟨serve_act hs, rfl⟩
  | refused =>
    obtain ⟨-, ⟨⟩⟩ := ite_none_right_eq_some.mp h
    exact ⟨.none, rfl⟩
  | lost =>
    obtain ⟨-, h⟩ := ite_none_right_eq_some.mp h
    obtain ⟨cluster, hs, rfl⟩ := map_eq_some_iff.mp h
    obtain ⟨answer, -, hs⟩ := bind_eq_some_iff.mp hs
    exact ⟨serve_act hs, rfl⟩

theorem serve_of_not_failed (hr : c.failed r = false) (h : w.serve i c r f = some w') :
    w.cluster.serve i c r = some w'.cluster := by
  cases f with
  | none =>
    obtain ⟨cluster, hs, rfl⟩ := map_eq_some_iff.mp h
    exact hs
  | refused => simp [serve, hr] at h
  | lost => simp [serve, hr] at h

end QueueWorld

namespace QueueWorld

structure Holds (w : QueueWorld) (i r : Nat) : Prop where
  mutex : (w.cluster.replicas r).mutex = some i
  job : ∃ fuel op, w.cluster.jobs i = some (.createDeferredOperation r fuel op)

def Outside (w : QueueWorld) (i : Nat) : Prop := ∀ s ∈ w.sections, s.goroutine ≠ i

/-- The lease has been read, and is the one in the cluster unless that was written since. -/
def LeaseRead (w : QueueWorld) (lease : QueueLease) : Prop :=
  lease.resourceVersion ≤ w.cluster.revision ∧
    ∀ lease' ∈ w.cluster.lease, lease'.resourceVersion = lease.resourceVersion → lease' = lease

def Takeable (w : QueueWorld) (holderIdentity : String) (lease : QueueLease) : Prop :=
  lease.holderIdentity = holderIdentity ∨ ∃ acquireTime, lease.acquireTime = some acquireTime ∧
    acquireTime + volumeJournalLeaseDuration ≤ w.cluster.clock

end QueueWorld

section

variable (d : Driver) (identity : Nat → String) (init : Store) (kind : Resource → Prop)

/-- There is at most one section, in the replica whose mutex it holds, under the lease that it has
written; the queue stays as it should be. -/
structure QueueInv (w : QueueWorld) : Prop where
  version : ∀ lease ∈ w.cluster.lease, lease.resourceVersion ≤ w.cluster.revision
  single : w.sections.length ≤ 1
  held : ∀ s ∈ w.sections, ∃ r, w.Holds s.goroutine r ∧
    ∃ version, w.cluster.lease = some ⟨identity r, some s.acquireTime, version⟩
  admitted : d.Admitted init → d.Admitted w.cluster.store
  created : ∀ resource ∈ w.cluster.store, resource ∈ init ∨ kind resource

structure QueueRely (i : Nat) (w w' : QueueWorld) : Prop where
  jobs : w'.cluster.jobs i = w.cluster.jobs i
  mutex : ∀ r, (w.cluster.replicas r).mutex = some i → (w'.cluster.replicas r).mutex = some i
  outside : w'.Outside i ↔ w.Outside i
  store : ¬ w.Outside i → w'.cluster.store = w.cluster.store
  clock : w.cluster.clock ≤ w'.cluster.clock
  revision : w.cluster.revision ≤ w'.cluster.revision
  lease : ∀ lease ∈ w'.cluster.lease, lease.resourceVersion ≤ w.cluster.revision →
    w.cluster.lease = some lease

def QueueIssue (i : Nat) (w : QueueWorld) : JournalCall → Prop
  | .unlock r _ => w.Holds i r ∧ w.Outside i
  | .setOperations r _ => w.Holds i r
  | .createLease holderIdentity _ => ∃ r, w.Holds i r ∧ w.Outside i ∧ holderIdentity = identity r
  | .updateLease lease' => ∃ r lease acquireTime, w.Holds i r ∧ w.Outside i ∧
      lease' = ⟨identity r, some acquireTime, lease.resourceVersion⟩ ∧ w.LeaseRead lease ∧
        w.Takeable (identity r) lease
  | .deleteLease => ¬ w.Outside i
  | .create resource => ¬ w.Outside i ∧ kind resource ∧
      ((d.pending w.cluster.store).length : Int) < d.limit ∧
        ∀ existing ∈ d.pending w.cluster.store, existing.op.key ≠ resource.op.key
  | .patch _ => False
  | .delete _ => False
  | _ => True

def queueContract (i : Nat) : Contract JournalCall JournalAnswer QueueWorld where
  inv := QueueInv d identity init kind
  rely _ := QueueRely i
  answers w c r w' := ∃ f, w.serve i c r f = some w'
  issue := QueueIssue d identity kind i
  rely_refl _ w := ⟨rfl, fun _ => id, .rfl, fun _ => rfl, le_rfl, le_rfl, fun _ h _ => h⟩
  rely_trans _ w w' w'' h h' := by
    refine ⟨h'.jobs.trans h.jobs, fun r hr => h'.mutex r (h.mutex r hr),
      h'.outside.trans h.outside, fun hin => ?_, h.clock.trans h'.clock,
      h.revision.trans h'.revision, fun lease hl hv => ?_⟩
    · exact (h'.store (mt h.outside.mp hin)).trans (h.store hin)
    · have hl' := h'.lease lease hl (hv.trans h.revision)
      exact h.lease lease hl' hv

end

section

variable {d : Driver} {identity : Nat → String} {init : Store} {kind : Resource → Prop}
  {w w' : QueueWorld} {i j : Nat} {c : JournalCall}

theorem QueueInv.eq_of_inside (hin : QueueInv d identity init kind w) (hi : ¬ w.Outside i)
    (hj : ¬ w.Outside j) : i = j := by
  simp only [QueueWorld.Outside, not_forall, not_not] at hi hj
  obtain ⟨s, hs, rfl⟩ := hi
  obtain ⟨s', hs', rfl⟩ := hj
  have hsi := hin.single
  rcases hse : w.sections with _ | ⟨s₀, _ | ⟨s₁, rest⟩⟩
  · simp [hse] at hs
  · rw [hse, mem_singleton] at hs hs'
    rw [hs, hs']
  · simp [hse] at hsi

theorem QueueInv.sections_of_none (hi : QueueInv d identity init kind w) (hl : w.cluster.lease = none) :
    w.sections = [] := by
  refine eq_nil_iff_forall_not_mem.mpr fun s hs => ?_
  obtain ⟨r, -, version, hso⟩ := hi.held s hs
  simp [hl] at hso

theorem QueueInv.sections_of_takeable (hin : QueueInv d identity init kind w)
    (hi : Function.Injective identity) (ht : w.Timely) {r : Nat} {lease : QueueLease}
    (hh : w.Holds i r) (ho : w.Outside i) (hl : w.cluster.lease = some lease)
    (hta : w.Takeable (identity r) lease) : w.sections = [] := by
  refine eq_nil_iff_forall_not_mem.mpr fun s hs => ?_
  obtain ⟨r', hh', version, hso⟩ := hin.held s hs
  obtain rfl := some.inj (hl.symm.trans hso)
  rcases hta with hsa | ⟨acquireTime, ha, he⟩
  · obtain rfl := hi hsa
    exact ho s hs (some.inj (hh'.mutex.symm.trans hh.mutex))
  · cases ha
    exact absurd (ht s hs) (by omega)

theorem outside_track {sections : List Section} {r : JournalAnswer c} (hne : i ≠ j) :
    (∀ s ∈ track j sections c r, s.goroutine ≠ i) ↔ ∀ s ∈ sections, s.goroutine ≠ i := by
  cases c
  case createLease holderIdentity acquireTime =>
    rcases r with err | _
    · rfl
    · simp [track, hne.symm]
  case updateLease lease =>
    rcases r with err | _
    · rfl
    · cases ha : lease.acquireTime <;> simp [track, ha, hne.symm]
  case deleteLease =>
    simp only [track, decide_not, mem_filter, Bool.not_eq_eq_eq_not, Bool.not_true,
      decide_eq_false_iff_not, and_imp]
    constructor
    · intro h s hs hsi
      exact h s hs (fun hsj => hne (hsi.symm.trans hsj)) hsi
    · exact fun h s hs _ => h s hs
  all_goals rfl

theorem QueueInv.rely {r : JournalAnswer c} {f : Fault} (hinv : QueueInv d identity init kind w)
    (hi : QueueIssue d identity kind j w c) (hse : w.serve j c r f = some w') (hne : i ≠ j) :
    QueueRely i w w' := by
  obtain ⟨ha, hs⟩ := QueueWorld.serve_act hse
  have ho : w'.Outside i ↔ w.Outside i := by
    rw [QueueWorld.Outside, hs]
    exact outside_track hne
  have hmutex_ne {k : Nat} (hh : w.Holds j k) {k' : Nat}
      (hk' : (w.cluster.replicas k').mutex = some i) : k' ≠ k := by
    rintro rfl
    exact hne (some.inj (hk'.symm.trans hh.mutex))
  obtain ⟨cluster', sections'⟩ := w'
  simp only at ha
  cases ha with
  | none => exact ⟨rfl, fun _ => id, ho, fun _ => rfl, le_rfl, le_rfl, fun _ h _ => h⟩
  | @lock k hf =>
    refine ⟨rfl, fun k' hk' => ?_, ho, fun _ => rfl, le_rfl, le_rfl, fun _ h _ => h⟩
    rw [setReplica_replicas, if_neg]
    · exact hk'
    · rintro rfl
      simp [hf] at hk'
  | unlock =>
    refine ⟨rfl, fun k' hk' => ?_, ho, fun _ => rfl, le_rfl, le_rfl, fun _ h _ => h⟩
    rw [setReplica_replicas, if_neg (hmutex_ne hi.1 hk')]
    exact hk'
  | setOperations =>
    refine ⟨rfl, fun k' hk' => ?_, ho, fun _ => rfl, le_rfl, le_rfl, fun _ h _ => h⟩
    rw [setReplica_replicas, if_neg (hmutex_ne hi hk')]
    exact hk'
  | createLease =>
    refine ⟨rfl, fun _ => id, ho, fun _ => rfl, le_rfl, Nat.le_succ _, ?_⟩
    rintro lease hl hv
    cases hl
    exact absurd hv (Nat.not_succ_le_self _)
  | updateLease =>
    refine ⟨rfl, fun _ => id, ho, fun _ => rfl, le_rfl, Nat.le_succ _, ?_⟩
    rintro lease hl hv
    cases hl
    exact absurd hv (Nat.not_succ_le_self _)
  | deleteLease =>
    refine ⟨rfl, fun _ => id, ho, fun _ => rfl, le_rfl, le_rfl, ?_⟩
    rintro lease hl
    cases hl
  | create =>
    refine ⟨rfl, fun _ => id, ho, fun hin => ?_, le_rfl, le_rfl, fun _ h _ => h⟩
    exact absurd (hinv.eq_of_inside hin hi.1) hne
  | patch => cases hi
  | delete => cases hi

theorem QueueInv.write (hi : QueueInv d identity init kind w) {r acquireTime : Nat}
    (hh : w.Holds j r) {sections : List Section} (hsi : sections.length ≤ 1)
    (hse : ∀ s ∈ sections, s = ⟨j, acquireTime⟩) :
    QueueInv d identity init kind ⟨w.cluster.writeLease (identity r) (some acquireTime), sections⟩ := by
  refine ⟨?_, hsi, fun s hs => ?_, hi.admitted, hi.created⟩
  · rintro lease hl
    cases hl
    exact le_rfl
  · obtain rfl := hse s hs
    exact ⟨r, ⟨hh.mutex, hh.job⟩, _, rfl⟩

theorem Driver.Admitted.insert {store store' : Store} {resource : Resource}
    (ha : d.Admitted store) (hi : store.insert resource = some store')
    (hr : ((d.pending store).length : Int) < d.limit)
    (hne : ∀ existing ∈ d.pending store, existing.op.key ≠ resource.op.key) :
    d.Admitted store' := by
  have hp : d.pending store' = d.pending store ++ [resource].filter fun resource =>
        d.selector.selects resource && isPendingOperation resource.op.status := by
    rw [Driver.pending, Registry.items_insert hi, filter_append]
    rfl
  rw [Driver.Admitted, hp, filter_singleton]
  cases d.selector.selects resource && isPendingOperation resource.op.status with
  | false =>
    rw [cond_false, append_nil]
    exact ha
  | true =>
    obtain ⟨-, hn⟩ := ha
    refine ⟨?_, ?_⟩
    · simp only [cond_true, length_append, length_singleton]
      omega
    · rw [map_append]
      refine hn.append (nodup_singleton _) fun key hk hk' => ?_
      obtain ⟨existing, he, rfl⟩ := List.mem_map.mp hk
      exact hne existing he (by simpa using hk')

theorem QueueInv.setReplica (hi : QueueInv d identity init kind w) {k : Nat} {replica : Replica}
    (hm : ∀ i, (w.cluster.replicas k).mutex = some i → ¬ w.Outside i → replica.mutex = some i) :
    QueueInv d identity init kind ⟨w.cluster.setReplica k replica, w.sections⟩ := by
  refine ⟨hi.version, hi.single, fun s hs => ?_, hi.admitted, hi.created⟩
  obtain ⟨r, hh, hl⟩ := hi.held s hs
  refine ⟨r, ⟨?_, hh.job⟩, hl⟩
  rw [setReplica_replicas]
  split
  case isTrue hrk =>
    subst hrk
    exact hm s.goroutine hh.mutex fun ho => ho s hs rfl
  case isFalse => exact hh.mutex

theorem QueueInv.reply {r : JournalAnswer c} {f : Fault} (hinv : QueueInv d identity init kind w)
    (hid : Function.Injective identity) (ht : w.Timely)
    (his : QueueIssue d identity kind j w c) (hser : w.serve j c r f = some w') :
    QueueInv d identity init kind w' := by
  obtain ⟨ha, hse⟩ := QueueWorld.serve_act hser
  obtain ⟨cluster', sections'⟩ := w'
  subst hse
  cases c
  case createLease holderIdentity acquireTime =>
    obtain ⟨k, hh, ho, rfl⟩ := his
    rcases r with err | _
    · cases ha with
      | none => exact hinv
      | createLease hl =>
        have he := hinv.sections_of_none hl
        exact hinv.write hh (by simp [track, he]) (by simp [track, he])
    · obtain ⟨hl, hc⟩ :=
        serve_createLease_ok (QueueWorld.serve_of_not_failed rfl hser)
      have he := hinv.sections_of_none hl
      subst hc
      exact hinv.write hh (by simp [track, he]) (by simp [track, he])
  case updateLease lease' =>
    obtain ⟨k, lease, acquireTime, hh, ho, rfl, hr, hta⟩ := his
    have hse {lease' : QueueLease} (hl : w.cluster.lease = some lease')
        (hv : lease'.resourceVersion = lease.resourceVersion) : w.sections = [] := by
      obtain rfl := hr.2 lease' hl hv
      exact hinv.sections_of_takeable hid ht hh ho hl hta
    rcases r with err | _
    · cases ha with
      | none => exact hinv
      | updateLease hl hv =>
        have he := hse hl hv
        exact hinv.write hh (by simp [track, he]) (by simp [track, he])
    · obtain ⟨lease', hl, hv, hc⟩ :=
        serve_updateLease_ok (QueueWorld.serve_of_not_failed rfl hser)
      have he := hse hl hv
      subst hc
      exact hinv.write hh (by simp [track, he]) (by simp [track, he])
  case deleteLease =>
    have he : track j w.sections .deleteLease r = [] := by
      refine filter_eq_nil_iff.mpr fun s hs => ?_
      have hin : ¬ w.Outside s.goroutine := fun ho => ho s hs rfl
      simpa using hinv.eq_of_inside hin his
    rw [he]
    cases ha with
    | none => exact ⟨hinv.version, by simp, by simp, hinv.admitted, hinv.created⟩
    | deleteLease => exact ⟨by simp, by simp, by simp, hinv.admitted, hinv.created⟩
  case lock k =>
    cases ha with
    | none => exact hinv
    | lock hf => exact hinv.setReplica fun i hi _ => by simp [hf] at hi
  case unlock k created =>
    cases ha with
    | none => exact hinv
    | unlock =>
      refine hinv.setReplica fun i hi hin => ?_
      obtain rfl := some.inj (hi.symm.trans his.1.mutex)
      exact absurd his.2 hin
  case setOperations k operations =>
    cases ha with
    | none => exact hinv
    | setOperations => exact hinv.setReplica fun i hi _ => hi
  case create resource =>
    cases ha with
    | none => exact hinv
    | create hins =>
      obtain ⟨-, hk, hro, hn⟩ := his
      refine ⟨hinv.version, hinv.single, fun s hs => ?_,
        fun hini => (hinv.admitted hini).insert hins hro hn, fun resource' hmem => ?_⟩
      · obtain ⟨k, hh, hl⟩ := hinv.held s hs
        exact ⟨k, ⟨hh.mutex, hh.job⟩, hl⟩
      · rcases (Registry.mem_insert hins).mp hmem with hmem | rfl
        · exact hinv.created resource' hmem
        · exact .inr hk
  case patch => cases his
  case delete => cases his
  all_goals
    cases ha
    exact hinv

end

end PowerMaxCsi.Journal
