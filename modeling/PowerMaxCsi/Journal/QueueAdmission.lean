import PowerMaxCsi.Journal.QueueLease

/-!
# Admission to the deferred operations queue

`CreateDeferredOperation` creates a resource only in its section, after it has found the queue with
room and without the operation.
-/

namespace PowerMaxCsi.Journal

open Prog QueueWorld List Option Cluster

section

variable {d : Driver} {identity : Nat → String} {init : Store} {kind : Resource → Prop}
  {i r : Nat} {w : QueueWorld}

def Ready (i r : Nat) (w : QueueWorld) : Prop := w.Holds i r ∧ w.Outside i

def Entered (i r : Nat) (w : QueueWorld) : Prop := w.Holds i r ∧ ¬ w.Outside i

variable {w' : QueueWorld}

theorem QueueWorld.Holds.rely (h : w.Holds i r) (hr : QueueRely i w w') : w'.Holds i r :=
  ⟨hr.mutex r h.mutex, by rw [hr.jobs]; exact h.job⟩

theorem Ready.rely (h : Ready i r w) (hr : QueueRely i w w') : Ready i r w' :=
  ⟨h.1.rely hr, hr.outside.mpr h.2⟩

theorem Entered.rely (h : Entered i r w) (hr : QueueRely i w w') : Entered i r w' :=
  ⟨h.1.rely hr, mt hr.outside.mp h.2⟩

theorem QueueWorld.LeaseRead.rely {lease : QueueLease} (h : w.LeaseRead lease)
    (hr : QueueRely i w w') : w'.LeaseRead lease := by
  refine ⟨h.1.trans hr.revision, fun lease' hl' hv => ?_⟩
  exact h.2 lease' (hr.lease lease' hl' (hv.trans_le h.1)) hv

variable {c : JournalCall}

theorem QueueWorld.Holds.serve {answer : JournalAnswer c} {f : Fault}
    (h : w.Holds i r) (hc : ∀ k created, c ≠ .unlock k created)
    (hs : w.serve i c answer f = some w') : w'.Holds i r := by
  obtain ⟨ha, -⟩ := serve_act hs
  obtain ⟨cluster', sections'⟩ := w'
  simp only at ha
  have hse {k : Nat} {replica : Replica} (hr : r = k → replica.mutex = some i) :
      QueueWorld.Holds ⟨w.cluster.setReplica k replica, sections'⟩ i r := by
    refine ⟨?_, h.job⟩
    rw [setReplica_replicas]
    split
    case isTrue hrk => exact hr hrk
    case isFalse => exact h.mutex
  cases ha with
  | lock => exact hse fun _ => rfl
  | unlock => exact absurd rfl (hc _ _)
  | setOperations => exact hse fun hrk => hrk ▸ h.mutex
  | _ => exact ⟨h.mutex, h.job⟩

variable {α : Type} {post : QueueWorld → α → Prop}

theorem serve_reads {answer : JournalAnswer c} {f : Fault} (hc : c.reads = true)
    (hse : w.serve i c answer f = some w') : w' = w := by
  obtain ⟨ha, hs⟩ := serve_act hse
  obtain ⟨cluster', sections'⟩ := w'
  subst hs
  cases ha with
  | none => cases c <;> first | rfl | cases hc
  | _ => cases hc

theorem safe_read {I : QueueWorld → Prop} (hI : ∀ w w', I w → QueueRely i w w' → I w') (hw : I w)
    (hc : c.reads = true) {k : JournalAnswer c → JournalProg α}
    (hk : ∀ answer f w₁, I w₁ → QueueInv d identity init kind w₁ →
      w₁.serve i c answer f = some w₁ →
        (queueContract d identity init kind i).Safe post w₁ (k answer)) :
    (queueContract d identity init kind i).Safe post w (.call c k) := by
  intro w₁ hr hi
  refine ⟨?_, ?_⟩
  · cases c <;> trivial
  · rintro answer w₂ ⟨f, hs⟩
    obtain rfl := serve_reads hc hs
    exact hk answer f w₂ (hI w w₂ hw hr) hi hs

theorem safe_write (hw : Ready i r w) (acquireTime : Nat)
    {k : JournalAnswer c → JournalProg α} (hc : ∀ k created, c ≠ .unlock k created)
    (hi : ∀ w₁, Ready i r w₁ → QueueRely i w w₁ → QueueIssue d identity kind i w₁ c)
    (ht : ∀ sections answer, track i sections c answer =
      if c.failed answer then sections else ⟨i, acquireTime⟩ :: sections)
    (hk : ∀ answer w₁, (if c.failed answer then Ready i r w₁ else Entered i r w₁) →
      (queueContract d identity init kind i).Safe post w₁ (k answer)) :
    (queueContract d identity init kind i).Safe post w (.call c k) := by
  intro w₁ hr _
  have hw₁ := hw.rely hr
  refine ⟨hi w₁ hw₁ hr, ?_⟩
  rintro answer w₂ ⟨f, hse⟩
  have hh := hw₁.1.serve hc hse
  obtain ⟨-, hs⟩ := serve_act hse
  rw [ht] at hs
  refine hk answer w₂ ?_
  cases hf : c.failed answer with
  | true =>
    rw [hf] at hs
    rw [if_pos rfl]
    refine ⟨hh, ?_⟩
    rw [Outside, hs]
    exact hw₁.2
  | false =>
    rw [hf] at hs
    refine ⟨hh, fun ho => ho ⟨i, acquireTime⟩ ?_ rfl⟩
    rw [hs]
    exact mem_cons_self

def Attempted (i r : Nat) (w : QueueWorld) : Option String → Prop
  | none => Entered i r w
  | some _ => Ready i r w

theorem takeable_of_checks {lease : QueueLease} {holderIdentity : String} {now duration : Nat}
    (hb : ¬ (lease.holderIdentity ≠ holderIdentity ∧
      (lease.acquireTime.any fun acquireTime => now < acquireTime + duration) = true))
    (hi : ¬ (lease.holderIdentity ≠ holderIdentity ∧ lease.acquireTime = none)) :
    lease.holderIdentity = holderIdentity ∨ ∃ acquireTime, lease.acquireTime = some acquireTime ∧
      acquireTime + duration ≤ now := by
  by_cases hh : lease.holderIdentity = holderIdentity
  · exact .inl hh
  · have hs : lease.acquireTime ≠ none := fun hn => hi ⟨hh, hn⟩
    obtain ⟨acquireTime, ha⟩ := ne_none_iff_exists'.mp hs
    refine .inr ⟨acquireTime, ha, Nat.le_of_not_lt fun hlt => hb ⟨hh, ?_⟩⟩
    simp [ha, hlt]

theorem acquireQueueLease_safe (hw : Ready i r w) :
    (queueContract d identity init kind i).Safe (Attempted i r) w
      (acquireQueueLease (d.journal identity r)) := by
  refine safe_read (fun _ _ => Ready.rely) hw rfl ?_
  intro now f w₁ hw₁ _ hs₁
  have hn : now ≤ w₁.cluster.clock :=
    (serve_now (serve_of_not_failed rfl hs₁)).le
  refine safe_read (I := fun w => Ready i r w ∧ now ≤ w.cluster.clock)
    (fun _ _ h hr => ⟨h.1.rely hr, h.2.trans hr.clock⟩) ⟨hw₁, hn⟩ rfl ?_
  rintro (err | lease) f w₂ ⟨hw₂, hn₂⟩ hi₂ hs₂
  · refine .ite (fun _ => ?_) fun _ => hw₂
    refine safe_write hw₂ now (fun _ _ h => by cases h)
      (fun w₃ hw₃ _ => ⟨r, hw₃.1, hw₃.2, rfl⟩) ?_ ?_
    · rintro sections (err | _) <;> rfl
    · rintro (err | _) w₃ hw₃
      · exact hw₃
      · exact hw₃
  · have hl : w₂.cluster.lease = some lease :=
      serve_getLease_ok (serve_of_not_failed rfl hs₂)
    have hre : w₂.LeaseRead lease := by
      refine ⟨hi₂.version lease hl, fun lease' hl' _ => ?_⟩
      exact some.inj (hl'.symm.trans hl)
    refine .ite (fun _ => hw₂) fun hb => ?_
    refine .ite (fun _ => hw₂) fun hi => ?_
    have ht : ∀ w₃, QueueRely i w₂ w₃ → w₃.Takeable (identity r) lease := by
      intro w₃ hr
      refine (takeable_of_checks hb hi).imp_right fun he => ?_
      obtain ⟨acquireTime, ha, hle⟩ := he
      exact ⟨acquireTime, ha, hle.trans (hn₂.trans hr.clock)⟩
    refine safe_write hw₂ now (fun _ _ h => by cases h) (fun w₃ hw₃ hr =>
      ⟨r, lease, now, hw₃.1, hw₃.2, rfl, hre.rely hr, ht w₃ hr⟩) ?_ ?_
    · rintro sections (err | _) <;> rfl
    · rintro (err | _) w₃ hw₃
      · exact hw₃
      · exact hw₃

theorem awaitQueueLease_safe (hw : Ready i r w) (fuel : Nat) :
    (queueContract d identity init kind i).Safe (Attempted i r) w
      (awaitQueueLease (d.journal identity r) fuel) := by
  induction fuel generalizing w with
  | zero => exact safe_read (fun _ _ => Ready.rely) hw rfl fun answer => answer.elim
  | succ fuel ih =>
    refine (acquireQueueLease_safe hw).bind ?_
    rintro w₁ (_ | err) hw₁
    · exact hw₁
    · dsimp only
      split
      case isFalse => exact hw₁
      case isTrue =>
        refine safe_read (fun _ _ => Ready.rely) hw₁ rfl ?_
        rintro (err | _) f w₂ hw₂ - -
        · exact hw₂
        · exact ih hw₂

theorem withQueueLease_ready {fn : JournalProg (Except String α)} (hw : Ready i r w) (fuel : Nat)
    (hfn : ∀ w, Entered i r w →
      (queueContract d identity init kind i).Safe (fun w' _ => Entered i r w') w fn) :
    (queueContract d identity init kind i).Safe (fun w' _ => Ready i r w') w
      (withQueueLease (d.journal identity r) fuel fn) := by
  refine (awaitQueueLease_safe hw fuel).bind ?_
  rintro w₁ (_ | err) hw₁
  · refine (hfn w₁ hw₁).bind fun w₂ result hw₂ w₃ hr _ => ?_
    have hw₃ := hw₂.rely hr
    refine ⟨hw₃.2, ?_⟩
    rintro answer w₄ ⟨f, hse⟩
    refine ⟨hw₃.1.serve (fun _ _ h => by cases h) hse, ?_⟩
    rw [Outside, (serve_act hse).2]
    exact fun s hs => by simpa using (mem_filter.mp hs).2
  · exact hw₁

theorem pendingOps_perm {cluster : Cluster} {resources : List Resource}
    (hp : resources.Perm (cluster.selected d.selector)) :
    (pendingOps resources).Perm ((d.pending cluster.store).map (·.op)) := by
  have hs : pendingOps (cluster.selected d.selector) = (d.pending cluster.store).map (·.op) := by
    simp only [pendingOps, Cluster.selected, List.filter_map, List.filter_filter]
    congr 2
    funext resource
    exact Bool.and_comm _ _
  rw [← hs]
  exact (hp.map _).filter _

theorem createUnderLease_entered {newOp : DeferredOperation} (hw : Entered i r w)
    (hk : kind (crdOpToUnstructured newOp)) :
    (queueContract d identity init kind i).Safe (fun w' _ => Entered i r w') w
      (createUnderLease (d.journal identity r) d.limit newOp) := by
  refine safe_read (fun _ _ => Entered.rely) hw rfl ?_
  rintro (err | resources) f w₁ hw₁ - hs₁
  · exact hw₁
  have hp := pendingOps_perm (serve_list_ok (serve_of_not_failed rfl hs₁))
  refine .ite (fun _ => hw₁) fun hro => ?_
  cases hf : (pendingOps resources).find? fun existing => existing.key = newOp.key with
  | some existing => exact hw₁
  | none =>
    intro w₂ hr _
    have hw₂ := hw₁.rely hr
    refine ⟨⟨hw₂.2, hk, ?_, ?_⟩, ?_⟩
    · rw [hr.store hw₁.2]
      have hl := hp.length_eq
      rw [length_map] at hl
      omega
    · rw [hr.store hw₁.2]
      intro existing hex hke
      have hmem := hp.mem_iff.mpr (mem_map_of_mem hex)
      exact List.find?_eq_none.mp hf _ hmem (decide_eq_true hke)
    · have he {answer : Except ApiError Unit} {w₃ : QueueWorld} {f : Fault}
          (hs : w₂.serve i (.create (crdOpToUnstructured newOp)) answer f = some w₃) :
          Entered i r w₃ := by
        refine ⟨hw₂.1.serve (fun _ _ h => by cases h) hs, ?_⟩
        rw [Outside, (serve_act hs).2]
        exact hw₂.2
      rintro (err | _) w₃ ⟨f, hs⟩
      · exact he hs
      · exact he hs

theorem unlock_ready {created : Option (DeferredOperation × String)} {k : Unit → JournalProg α}
    (hw : Ready i r w) (hk : ∀ w', (queueContract d identity init kind i).Safe post w' (k ())) :
    (queueContract d identity init kind i).Safe post w (.call (.unlock r created) k) :=
  fun _ hr _ => ⟨hw.rely hr, fun _ w₂ _ => hk w₂⟩

theorem createDeferredOperation_keeps {fuel : Nat} {op : DeferredOperation}
    (hj : w.cluster.jobs i = some (.createDeferredOperation r fuel op)) (ho : w.Outside i)
    (hk : ∀ token time, kind (crdOpToUnstructured { op with
      idempotencyToken := token, submissionTime := time, retryCount := 0, status := .pending })) :
    (queueContract d identity init kind i).Safe (fun _ _ => True) w
      (createDeferredOperation (d.journal identity r) fuel op) := by
  -- the mutex is locked
  intro w₁ hr _
  refine ⟨trivial, ?_⟩
  rintro _ w₂ ⟨f, hs⟩
  have hw₂ : Ready i r w₂ := by
    refine ⟨⟨?_, fuel, op, ?_⟩, ?_⟩
    · rw [serve_lock (serve_of_not_failed rfl hs), setReplica_replicas]
      simp [Driver.journal]
    · rw [serve_lock (serve_of_not_failed rfl hs)]
      exact hr.jobs.trans hj
    · rw [Outside, (serve_act hs).2]
      exact hr.outside.mpr ho
  refine safe_read (fun _ _ => Ready.rely) hw₂ rfl ?_
  rintro operations - w₃ hw₃ - -
  simp only [ret_bind]
  split
  case h_1 existing _ => exact unlock_ready hw₃ fun _ => trivial
  case h_2 =>
    refine safe_read (fun _ _ => Ready.rely) hw₃ rfl fun token _ w₄ hw₄ _ _ => ?_
    refine safe_read (fun _ _ => Ready.rely) hw₄ rfl fun time _ w₅ hw₅ _ _ => ?_
    refine (withQueueLease_ready hw₅ fuel fun w hw =>
      createUnderLease_entered hw (hk token time)).bind ?_
    rintro w₆ (err | (_ | duplicateToken)) hw₆
    · exact unlock_ready hw₆ fun _ => trivial
    · intro w₇ hr₇ _
      have hw₇ := hw₆.rely hr₇
      refine ⟨hw₇.1, ?_⟩
      rintro _ w₈ ⟨f₈, hs₈⟩
      refine unlock_ready ⟨hw₇.1.serve (fun _ _ h => by cases h) hs₈, ?_⟩ fun _ => trivial
      rw [Outside, (serve_act hs₈).2]
      exact hw₇.2
    · exact unlock_ready hw₆ fun _ => trivial

end

section

variable {d : Driver} {identity : Nat → String} {kind : Resource → Prop}

/-- No section has outlived its lease, and operations become resources of the given kind. -/
def Careful (kind : Resource → Prop) (s : QueuePool) (e : QueueEvent) : Prop :=
  s.world.Timely ∧ ∀ i job, e = .start i job → ∀ token time, kind (crdOpToUnstructured
    { job.op with
      idempotencyToken := token, submissionTime := time, retryCount := 0, status := .pending })

theorem queueThreads_meets (hi : Function.Injective identity) {init : Cluster}
    (hv : ∀ lease ∈ init.lease, lease.resourceVersion ≤ init.revision) :
    Threads.Meets (queueContract d identity init.store kind) (queueThreads d identity init)
      (Careful kind) where
  init _ := ⟨hv, by simp [queueThreads], by simp [queueThreads], id, fun _ => .inl⟩
  start s i job w hc hs h := by
    cases h
    have hin := (hs i).1
    have hj {k : Nat} (hk : k ≠ i) : Function.update s.world.cluster.jobs i
        (some (.createDeferredOperation job.replica job.fuel job.op)) k =
          s.world.cluster.jobs k := Function.update_of_ne hk ..
    refine ⟨fun _ => ⟨hin.version, ?_, fun sec hse => ?_, hin.admitted, hin.created⟩, ?_, ?_⟩
    · exact (length_filter_le _ _).trans hin.single
    · obtain ⟨hmem, hne⟩ := mem_filter.mp hse
      obtain ⟨r, hh, hl⟩ := hin.held sec hmem
      obtain ⟨fuel, op, hjo⟩ := hh.job
      exact ⟨r, ⟨hh.mutex, fuel, op, (hj (by simpa using hne)).trans hjo⟩, hl⟩
    · intro k hk c _
      have hne : k ≠ i := fun hki => hk (by rw [hki])
      refine ⟨hj hne, fun _ => id, ?_, fun _ => rfl, le_rfl, le_rfl, fun _ h _ => h⟩
      constructor
      · intro h sec hse hg
        refine h sec (mem_filter.mpr ⟨hse, ?_⟩) hg
        simpa [hg] using hne
      · exact fun h sec hse => h sec (mem_filter.mp hse).1
    · refine (createDeferredOperation_keeps (Function.update_self ..) ?_
        (hc.2 i job rfl)).bind fun _ _ _ => trivial
      exact fun sec hse => by simpa using (mem_filter.mp hse).2
  reply s i c r f w hc hs hn h := by
    have his : QueueIssue d identity kind i s.world c := (hs i).2.issue (hs i).1 hn
    refine ⟨fun k => (hs k).1.reply hi hc.1 his h, fun k hk _ _ => ?_, f, h⟩
    exact (hs k).1.rely his h fun hki => hk (by rw [hki])
  env s time w _ hs h := by
    cases h
    refine ⟨fun k => ?_, fun k _ _ _ => ?_⟩
    · obtain ⟨hv, hsi, hhe, ha, hcr⟩ := (hs k).1
      refine ⟨hv, hsi, fun sec hse => ?_, ha, hcr⟩
      obtain ⟨r, hh, hl⟩ := hhe sec hse
      exact ⟨r, ⟨hh.mutex, hh.job⟩, hl⟩
    · exact ⟨rfl, fun _ => id, .rfl, fun _ => rfl, Nat.le_add_right _ _, le_rfl, fun _ h _ => h⟩

/-- No section has outlived its lease, and operations carry the names of the driver. -/
def Assumed (d : Driver) (s : QueuePool) : QueueEvent → Prop
  | .start _ job => s.world.Timely ∧
      job.op.driverName = d.driverName ∧ job.op.instanceUID = d.instanceUID
  | _ => s.world.Timely

instance (s : QueuePool) (e : QueueEvent) : Decidable (Assumed d s e) :=
  match e with
  | .start _ _ => inferInstanceAs (Decidable (_ ∧ _ ∧ _))
  | .reply _ _ _ _ => inferInstanceAs (Decidable s.world.Timely)
  | .env _ => inferInstanceAs (Decidable s.world.Timely)

theorem Assumed.careful {s : QueuePool} {e : QueueEvent} (h : Assumed d s e) :
    Careful (fun resource => d.selector.selects resource = true) s e := by
  cases e with
  | start i job =>
    refine ⟨h.1, fun i' job' hs token time => ?_⟩
    obtain ⟨rfl, rfl⟩ : i = i' ∧ job = job' := by simpa using hs
    simp [crdOpToUnstructured, Selector.selects, Driver.selector, h.2.1, h.2.2]
  | reply i c r f => exact ⟨h, fun _ _ hs => by cases hs⟩
  | env time => exact ⟨h, fun _ _ hs => by cases hs⟩

/-- If no section outlives its lease there is at most one at a time, the pending resources are
within the limit, and no two have one key. -/
theorem queue_admission (d : Driver) (identity : Nat → String)
    (hi : Function.Injective identity) (init : Cluster)
    (hv : ∀ lease ∈ init.lease, lease.resourceVersion ≤ init.revision)
    (ha : d.Admitted init.store) (events : List QueueEvent) (s : QueuePool)
    (hr : (queueThreads d identity init).machine.run (queueThreads d identity init).machine.init
      events = some s) (hass : (queueThreads d identity init).machine.Along (Assumed d)
      (queueThreads d identity init).machine.init events) :
    s.world.sections.length ≤ 1 ∧
      ((d.pending s.world.cluster.store).length : Int) ≤ d.limit ∧
      ((d.pending s.world.cluster.store).map (·.op.key)).Nodup ∧
      ∀ resource ∈ s.world.cluster.store,
        resource ∈ init.store ∨ d.selector.selects resource = true := by
  have hs := (queueThreads_meets hi hv).run_sound (hass.mono _ fun _ _ => Assumed.careful) hr
  have hin := (hs 0).1
  obtain ⟨hl, hk⟩ := hin.admitted ha
  exact ⟨hin.single, hl, hk, hin.created⟩

/-- Whenever a replica is about to delete the lease, it is its own. -/
def ReleasesOwn (identity : Nat → String) (s : QueuePool) : Prop :=
  ∀ i r fuel op, (s.thread i).next = some .deleteLease →
    s.world.cluster.jobs i = some (.createDeferredOperation r fuel op) →
      ∀ lease ∈ s.world.cluster.lease, lease.holderIdentity = identity r

/-- In every run in which no section outlives its lease, replicas delete their own leases only. -/
theorem releasesOwn_of_timely (d : Driver) (identity : Nat → String)
    (hid : Function.Injective identity) (init : Cluster)
    (hv : ∀ lease ∈ init.lease, lease.resourceVersion ≤ init.revision)
    (events : List QueueEvent) (s : QueuePool)
    (hr : (queueThreads d identity init).machine.run (queueThreads d identity init).machine.init
      events = some s)
    (ht : (queueThreads d identity init).machine.Along (fun s _ => s.world.Timely)
      (queueThreads d identity init).machine.init events) : ReleasesOwn identity s := by
  have hm : Threads.Meets (queueContract d identity init.store fun _ => True)
      (queueThreads d identity init) (Careful fun _ => True) := queueThreads_meets hid hv
  have hs := hm.run_sound (ht.mono _ fun _ _ h => ⟨h, fun _ _ _ _ _ => trivial⟩) hr
  intro i r fuel op hn hj lease hl
  have hi : ¬ s.world.Outside i := (hs i).2.issue (hs i).1 hn
  simp only [Outside, not_forall, not_not] at hi
  obtain ⟨sec, hse, rfl⟩ := hi
  obtain ⟨r', hh, version, hso⟩ := (hs 0).1.held sec hse
  obtain ⟨fuel', op', hj'⟩ := hh.job
  rw [hj'] at hj
  cases hj
  obtain rfl := some.inj (hso.symm.trans hl)
  rfl

end

namespace TwoPods

def driver : Driver := ⟨"csi-powermax", "", 1⟩

def identity (r : Nat) : String := String.ofList (List.replicate r 'p')

theorem identity_injective : Function.Injective identity := by
  intro r r' h
  have hl := congrArg String.length h
  simpa [identity] using hl

def empty : Cluster := ⟨⟨[], List.nodup_nil⟩, none, 0, 0, fun _ => ⟨[], none⟩, fun _ => none⟩

def cleanup (token : String) : DeferredOperation :=
  ⟨token, .deviceCleanup, "vol-1", "000120000548", "12", 0, 0, "", "csi-powermax", "", .pending⟩

def begins (i : Nat) : List QueueEvent :=
  [.start i ⟨i, 2, cleanup ""⟩, .reply i (.lock i) () .none, .reply i (.operations i) [] .none,
    .reply i .newUUID "t" .none, .reply i .now 0 .none]

def acquires (i : Nat) : List QueueEvent :=
  [.reply i .now 0 .none, .reply i .getLease (.error ⟨.notFound, ""⟩) .none,
    .reply i (.createLease (identity i) 0) (.ok ()) .none]

def creates (i : Nat) : List QueueEvent :=
  [.reply i (.list driver.selector) (.ok []) .none,
    .reply i (.create (crdOpToUnstructured (cleanup "t"))) (.ok ()) .none]

def inTurn : List QueueEvent :=
  begins 0 ++ acquires 0 ++ begins 1 ++
    [.reply 1 .now 0 .none, .reply 1 .getLease (.ok ⟨identity 0, some 0, 1⟩) .none,
      .reply 1 .wait (.ok ()) .none] ++
    creates 0 ++ [.reply 0 .deleteLease (.ok ()) .none] ++ acquires 1 ++
    [.reply 1 (.list driver.selector) (.ok [crdOpToUnstructured (cleanup "t")]) .none]

/-- The first replica takes longer than the lease lasts, and the second takes over. -/
def overtaken : List QueueEvent :=
  begins 0 ++ acquires 0 ++ creates 0 ++ begins 1 ++
    [.env 31000000000, .reply 1 .now 31000000000 .none,
      .reply 1 .getLease (.ok ⟨identity 0, some 0, 1⟩) .none,
      .reply 1 (.updateLease ⟨identity 1, some 31000000000, 1⟩) (.ok ()) .none]

def observe (s : QueuePool) : List Section × Option JournalCall × Option JournalJob ×
    Option QueueLease :=
  (s.world.sections, (s.thread 0).next, s.world.cluster.jobs 0, s.world.cluster.lease)

abbrev machine : Machine QueuePool QueueEvent := (queueThreads driver identity empty).machine

theorem inTurn_admitted : ∃ s, machine.run machine.init inTurn = some s ∧
    s.world.sections = [⟨1, 0⟩] ∧ s.world.sections.length ≤ 1 ∧
      ((driver.pending s.world.cluster.store).length : Int) ≤ driver.limit ∧
      ((driver.pending s.world.cluster.store).map (·.op.key)).Nodup ∧
      ∀ resource ∈ s.world.cluster.store,
        resource ∈ empty.store ∨ driver.selector.selects resource = true := by
  have ho : (machine.run machine.init inTurn).map (·.world.sections) = some [⟨1, 0⟩] := by
    decide +kernel
  obtain ⟨s, hr, hs⟩ := map_eq_some_iff.mp ho
  refine ⟨s, hr, hs, ?_⟩
  exact queue_admission driver identity identity_injective empty (by decide) (by decide) inTurn s
    hr (by decide +kernel)

/-- The first replica has deleted its lease, and the second is about to delete its own. -/
theorem released_own : ∃ s, machine.run machine.init inTurn = some s ∧
    (s.thread 1).next = some .deleteLease ∧ ReleasesOwn identity s := by
  have ho : (machine.run machine.init inTurn).map (fun s => (s.thread 1).next) =
      some (some .deleteLease) := by decide +kernel
  obtain ⟨s, hr, hs⟩ := map_eq_some_iff.mp ho
  refine ⟨s, hr, hs, ?_⟩
  exact releasesOwn_of_timely driver identity identity_injective empty (by decide) _ s hr
    (by decide +kernel)

/-- The first replica deletes the lease of the second. -/
theorem other_released : ¬ ∀ (d : Driver) (identity : Nat → String) (init : Cluster)
    (events : List QueueEvent) (s : QueuePool), Function.Injective identity →
    (∀ lease ∈ init.lease, lease.resourceVersion ≤ init.revision) →
    (queueThreads d identity init).machine.run (queueThreads d identity init).machine.init
      events = some s → ReleasesOwn identity s := by
  intro ha
  have ho : (machine.run machine.init overtaken).map observe =
      some ([⟨1, 31000000000⟩, ⟨0, 0⟩], some .deleteLease,
        some (.createDeferredOperation 0 2 (cleanup "")),
        some ⟨identity 1, some 31000000000, 2⟩) := by decide +kernel
  obtain ⟨s, hr, hs⟩ := map_eq_some_iff.mp ho
  simp only [observe, Prod.mk.injEq] at hs
  obtain ⟨-, hn, hj, hl⟩ := hs
  have hh := ha driver identity empty overtaken s identity_injective (by decide) hr 0 0 2 _
    hn hj _ hl
  exact absurd (identity_injective hh) (by decide)

end TwoPods

end PowerMaxCsi.Journal
