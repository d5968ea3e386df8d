import PowerMaxCsi.Metro.LeaseContract

/-!
# At most one pod reconciles an array

Between the success of `tryAcquireMetroReconcileLease` and the release no other goroutine is at that
point for the same array, if leases are acquired promptly and runs are short.
-/

namespace PowerMaxCsi.Metro

open Prog LeaseWorld Function List Option

section

variable {i : Nat} {job : LeaseJob} {w w' : LeaseWorld}

variable (i job) in
def Asserts (F : LeaseWorld → Prop) (w : LeaseWorld) : Prop :=
  ∀ job', w.jobs i = some job' → job' = job ∧ F w

variable (i job) in
def Kept (F : LeaseWorld → Prop) : Prop :=
  ∀ w w', w'.jobs i = some job → LeaseRely i w w' → F w → F w'

variable {F : LeaseWorld → Prop}

theorem Asserts.of (hj : w.jobs i = some job) (hF : F w) : Asserts i job F w :=
  fun _ hj' => ⟨some.inj (hj'.symm.trans hj), hF⟩

theorem Asserts.rely (hF : Kept i job F) (h : Asserts i job F w) (hr : LeaseRely i w w') :
    Asserts i job F w' := by
  intro job' hj'
  obtain ⟨rfl, hw⟩ := h job' (hr.jobs job' hj')
  exact ⟨rfl, hF w w' hj' hr hw⟩

theorem Kept.and {F' : LeaseWorld → Prop} (hF : Kept i job F) (hF' : Kept i job F') :
    Kept i job fun w => F w ∧ F' w :=
  fun w w' hj hr hw => ⟨hF w w' hj hr hw.1, hF' w w' hj hr hw.2⟩

theorem kept_free : Kept i job fun w => w.Free i := by
  intro w w' hj hr hf h hmem hgo
  exact hf h ((hr.holders job hj h hgo).mp hmem) hgo

theorem kept_flight : Kept i job fun w => (job, i) ∈ w.inFlight :=
  fun _ _ hj hr hf => hr.flight job hj hf

theorem kept_heldBy : Kept i job fun w => w.HeldBy i job := by
  rintro w w' hj hr ⟨h, hmem, hgo, hj'⟩
  exact ⟨h, (hr.holders job hj h hgo).mpr hmem, hgo, hj'⟩

/-- The goroutine has its entry in `metroReconcileInFlight`, and no lease. -/
def Flying (i : Nat) (job : LeaseJob) (w : LeaseWorld) : Prop := (job, i) ∈ w.inFlight ∧ w.Free i

theorem kept_flying : Kept i job (Flying i job) := kept_flight.and kept_free

def Seen (name : String) (existing : Lease) (w : LeaseWorld) : Prop :=
  existing.resourceVersion ≤ w.revision ∧ ∀ lease, w.leases name = some lease →
    lease.resourceVersion = existing.resourceVersion → lease = existing

theorem kept_seen (name : String) (existing : Lease) : Kept i job (Seen name existing) := by
  rintro w w' - hr ⟨hv, hse⟩
  refine ⟨hv.trans hr.revision, fun lease hl hs => hse lease ?_ hs⟩
  exact hr.leases name lease hl (hs ▸ hv)

theorem kept_clock (time : Nat) : Kept i job fun w => time ≤ w.clock :=
  fun _ _ _ hr ht => ht.trans hr.clock

variable {α : Type} {post : LeaseWorld → α → Prop}

theorem call_safe (hF : Kept i job F) (hw : Asserts i job F w) {c : LeaseCall}
    {k : LeaseAnswer c → LeaseProg α} (hi : ∀ w, w.jobs i = some job → F w → LeaseIssue i w c)
    (hk : ∀ r w₁ w₂, w₁.jobs i = some job → F w₁ → LeaseInv w₁ →
      w₁.serveJob i job c r = some w₂ → (leaseContract i).Safe post w₂ (k r)) :
    (leaseContract i).Safe post w (.call c k) := by
  intro w₁ hr hin
  have hw₁ := hw.rely hF hr
  refine ⟨fun job' hj' => ?_, fun r w₂ ha => ?_⟩
  · obtain ⟨rfl, hF₁⟩ := hw₁ job' hj'
    exact hi w₁ hj' hF₁ job' hj'
  · obtain ⟨job', hj', hs⟩ := bind_eq_some_iff.mp ha.1
    obtain ⟨rfl, hF₁⟩ := hw₁ job' hj'
    exact hk r w₁ w₂ hj' hF₁ hin hs

def Outcome (i : Nat) (job : LeaseJob) (w : LeaseWorld) : Acquired → Prop
  | .no => Asserts i job (Flying i job) w
  | .withoutLease => False
  | .lease name => name = job.leaseName ∧ Asserts i job (fun w => w.HeldBy i job) w

theorem heldBy_hold : (w.hold i job).HeldBy i job :=
  ⟨⟨i, job, w.clock⟩, mem_cons_self, rfl, rfl⟩

theorem emit_safe (hF : Kept i job F) (hw : Asserts i job F w) {reason : String} {a : α}
    (hp : ∀ w, Asserts i job F w → post w a) :
    (leaseContract i).Safe post w (.call (.emitMetroEvent reason) fun _ => .ret a) := by
  refine call_safe hF hw (fun _ _ _ _ _ => trivial) fun _ w₁ w₂ hj hF₁ _ hs => ?_
  cases hs
  exact hp w₁ (.of hj hF₁)

theorem unexpired_of_le {spec : LeaseSpec} {time time' : Nat} (ht : time ≤ time')
    (he : spec.unexpired time = false) : spec.unexpired time' = false := by
  cases hr : spec.renewTime <;> cases hd : spec.leaseDurationSeconds <;>
    simp_all only [LeaseSpec.unexpired, decide_eq_false_iff_not, not_lt]
  exact he.trans ht

theorem updateLease_safe {existing : Lease} {now time : Nat}
    (he : existing.spec.unexpired time = false)
    (hw : Asserts i job (fun w => (Flying i job w ∧ Seen job.leaseName existing w) ∧
      time ≤ w.clock) w) :
    (leaseContract i).Safe (Outcome i job) w
      (Rec.updateLease job.leaseName ⟨leaseSpec job.podName now, existing.resourceVersion⟩ >>=
        fun | .error _ => pure .no | .ok () => pure (.lease job.leaseName)) := by
  refine call_safe ((kept_flying.and (kept_seen _ existing)).and (kept_clock time)) hw ?_ ?_
  · rintro w hj ⟨⟨hf, -, hse⟩, ht⟩ job' hj'
    obtain rfl := some.inj (hj.symm.trans hj')
    refine ⟨rfl, hf, ⟨now, rfl⟩, fun lease hl hv => ?_⟩
    rw [hse lease hl hv]
    exact unexpired_of_le ht he
  rintro (err | _) w₁ w₂ hj ⟨⟨hf, -⟩, -⟩ hi hs
  · cases hs
    exact Asserts.of hj hf
  · obtain ⟨-, ⟨⟩⟩ := ite_none_right_eq_some.mp hs
    exact ⟨rfl, .of hj heldBy_hold⟩

theorem takeOverLease_safe (hw : Asserts i job (Flying i job) w) (now : Nat) :
    (leaseContract i).Safe (Outcome i job) w
      (takeOverLease job.podName job.leaseName now) := by
  refine call_safe kept_flying hw ?_ ?_
  · intro w hj hf job' hj'
    obtain rfl := some.inj (hj.symm.trans hj')
    exact ⟨rfl, hf⟩
  rintro (err | existing) w₁ w₂ hj hf hi hs
  · cases hs
    exact emit_safe kept_flying (.of hj hf) fun _ => id
  simp only [serveJob] at hs
  split at hs
  case isFalse => cases hs
  case isTrue hl =>
    show (leaseContract i).Safe (Outcome i job) w₂ (ite ..)
    split
    case isTrue hh =>
      rw [if_pos hh] at hs
      cases hs
      exact ⟨rfl, .of hj heldBy_hold⟩
    case isFalse hh =>
      rw [if_neg hh] at hs
      cases hs
      have hse : Seen job.leaseName existing w₁ :=
        ⟨(hi.leases _ _ hl).1, fun lease hl' _ =>
          some.inj (hl'.symm.trans hl)⟩
      -- the clock is read after the lease
      refine call_safe (kept_flying.and (kept_seen _ existing)) (.of hj ⟨hf, hse⟩)
        (fun _ _ _ _ _ => trivial) fun time w₂ w₃ hj₂ hF₂ _ hs₂ => ?_
      obtain ⟨ht, ⟨⟩⟩ := ite_none_right_eq_some.mp hs₂
      show (leaseContract i).Safe (Outcome i job) w₂ (ite ..)
      split
      · exact Asserts.of hj₂ hF₂.1
      case isFalse he =>
        exact updateLease_safe (Bool.not_eq_true _ ▸ he) (.of hj₂ ⟨hF₂, ht.le⟩)

theorem tryAcquireMetroReconcileLease_safe (hw : Asserts i job (Flying i job) w) :
    (leaseContract i).Safe (Outcome i job) w
      (tryAcquireMetroReconcileLease job.podName job.arrayID) := by
  refine call_safe kept_flying hw (fun _ _ _ _ _ => trivial) ?_
  rintro (_ | _) w₁ w₂ hj hf hi hs
  · cases hs
  cases hs
  refine call_safe kept_flying (.of hj hf) (fun _ _ _ _ _ => trivial)
    fun now w₂ w₃ hj₂ hf₂ _ hs₂ => ?_
  simp only [serveJob] at hs₂
  split at hs₂
  case isFalse => cases hs₂
  cases hs₂
  refine call_safe kept_flying (.of hj₂ hf₂) ?_ ?_
  · intro w hj hf job' hj'
    obtain rfl := some.inj (hj.symm.trans hj')
    exact ⟨rfl, hf, now, rfl⟩
  rintro (err | _) w₃ w₄ hj₃ hf₃ hi₃ hs₃
  · have hsa : w₄ = w₃ := by
      simp only [serveJob] at hs₃
      grind
    subst hsa
    show (leaseContract i).Safe (Outcome i job) w₄ (ite ..)
    split
    · exact takeOverLease_safe (.of hj₃ hf₃) now
    · exact emit_safe kept_flying (.of hj₃ hf₃) fun _ => id
  · simp only [serveJob] at hs₃
    split at hs₃
    case h_1 =>
      cases hs₃
      exact ⟨rfl, .of hj₃ heldBy_hold⟩
    all_goals grind

theorem free_unhold (w : LeaseWorld) (i : Nat) : (w.unhold i).Free i :=
  fun _ hmem => (mem_unhold_iff.mp hmem).2

theorem deleteInFlight_safe (hw : Asserts i job (Flying i job) w) :
    (leaseContract i).Safe (fun _ _ => True) w (Rec.deleteInFlight job.arrayID) := by
  refine call_safe kept_flying hw ?_ fun _ _ _ _ _ _ _ => trivial
  intro w hj hf job' hj'
  obtain rfl := some.inj (hj.symm.trans hj')
  exact ⟨rfl, hf⟩

theorem reconcile_safe (hw : Asserts i job (fun w => w.HeldBy i job) w) :
    (leaseContract i).Safe (fun _ _ => True) w (do
      Rec.reconcile job.arrayID
      let _ ← Rec.deleteLease job.leaseName
      Rec.deleteInFlight job.arrayID) := by
  have hi : ∀ {c : LeaseCall}, c = .reconcile job.arrayID ∨ c = .deleteLease job.leaseName →
      ∀ w : LeaseWorld, w.jobs i = some job → w.HeldBy i job → LeaseIssue i w c := by
    rintro c (rfl | rfl) w hj hh job' hj' <;>
    · obtain rfl := some.inj (hj.symm.trans hj')
      exact ⟨rfl, hh⟩
  refine call_safe kept_heldBy hw (hi (.inl rfl)) fun _ w₁ w₂ hj hh _ hs => ?_
  cases hs
  refine call_safe kept_heldBy (.of hj hh) (hi (.inr rfl)) ?_
  rintro r w₂ w₃ hj₂ ⟨h, hmem, rfl, rfl⟩ hin hs₂
  have hf := (hin.held h hmem).flight
  refine deleteInFlight_safe ?_
  rcases r with err | _
  · cases hs₂
    exact .of hj₂ ⟨hf, free_unhold w₂ _⟩
  · cases hs₂
    exact .of hj₂ ⟨hf, free_unhold w₂ _⟩

theorem triggerReconciliation_safe (hw : Asserts i job (fun w => w.Free i) w) :
    (leaseContract i).Safe (fun _ _ => True) w
      (triggerReconciliation job.podName job.arrayID) := by
  refine call_safe kept_free hw (fun _ _ _ _ _ => trivial) ?_
  rintro (_ | _) w₁ w₂ hj hfr hi hs
  case true => trivial
  have hf : Asserts i job (Flying i job) w₂ := by
    obtain ⟨-, ⟨⟩⟩ := ite_none_left_eq_some.mp hs
    exact .of hj ⟨mem_cons_self, hfr⟩
  refine (tryAcquireMetroReconcileLease_safe hf).bind fun w acquired ho => ?_
  cases acquired with
  | no => exact deleteInFlight_safe ho
  | withoutLease => exact ho.elim
  | lease name =>
    obtain ⟨rfl, hh⟩ := ho
    exact reconcile_safe hh

end

def RunsShort (s : LeasePool) : LeaseEvent → Prop
  | .env (.tick d) => ∀ h ∈ s.world.holders, s.world.clock + d ≤ h.since + 10 * minute
  | _ => True

instance (s : LeasePool) : ∀ e, Decidable (RunsShort s e)
  | .env (.tick _) => List.decidableBAll _ _
  | .env (.restart _) | .start _ _ | .reply _ _ _ _ => instDecidableTrue

def Promptly (s : LeasePool) : LeaseEvent → Prop
  | .reply i c r _ => s.world.AcquiresPromptly i c r
  | _ => True

instance (s : LeasePool) : ∀ e, Decidable (Promptly s e)
  | .reply i c r _ => inferInstanceAs (Decidable (s.world.AcquiresPromptly i c r))
  | .env _ | .start _ _ => instDecidableTrue

namespace LeaseWorld

variable {w : LeaseWorld}

theorem leaseInv_empty : LeaseInv .empty where
  flights := nodup_nil
  leases _ _ hl := nomatch hl
  held _ hmem := nomatch hmem
  unique _ hmem := nomatch hmem

variable {i : Nat}

theorem LeaseInv.free_of_none (hi : LeaseInv w) (hn : w.jobs i = none) : w.Free i := by
  rintro h hmem rfl
  have hj := (hi.held h hmem).job
  rw [hn] at hj
  cases hj

theorem LeaseInv.start (hi : LeaseInv w) (hn : w.jobs i = none) (job : LeaseJob) :
    LeaseInv { w with jobs := update w.jobs i (some job) } := by
  refine ⟨hi.flights, hi.leases, fun h hmem => ?_, hi.unique⟩
  obtain ⟨hj, hf, hs, hl⟩ := hi.held h hmem
  refine ⟨?_, hf, hs, hl⟩
  change update w.jobs i (some job) h.goroutine = some h.job
  rw [update_of_ne (hi.free_of_none hn h hmem), hj]

theorem LeaseInv.tick (hi : LeaseInv w) {d : Nat}
    (hs : ∀ h ∈ w.holders, w.clock + d ≤ h.since + 10 * minute) : LeaseInv (w.act (.tick d)) := by
  refine ⟨hi.flights, hi.leases, fun h hmem => ?_, hi.unique⟩
  obtain ⟨hj, hf, -, hl⟩ := hi.held h hmem
  exact ⟨hj, hf, hs h hmem, hl⟩

variable {podName : String}

theorem jobs_restart {job : LeaseJob} :
    (w.act (.restart podName)).jobs i = some job ↔ w.jobs i = some job ∧ job.podName ≠ podName := by
  simp [act]

theorem flight_restart {job : LeaseJob} :
    (job, i) ∈ (w.act (.restart podName)).inFlight ↔
      (job, i) ∈ w.inFlight ∧ job.podName ≠ podName := by
  simp [act]

theorem mem_holders_restart {h : Holding} :
    h ∈ (w.act (.restart podName)).holders ↔ h ∈ w.holders ∧ h.job.podName ≠ podName := by
  simp [act]

theorem LeaseInv.restart (hi : LeaseInv w) (podName : String) :
    LeaseInv (w.act (.restart podName)) := by
  refine ⟨hi.flights.sublist (filter_sublist.map _), hi.leases, fun h hmem => ?_,
    fun h hmem h' hmem' => ?_⟩
  · obtain ⟨hmem, hp⟩ := mem_holders_restart.mp hmem
    obtain ⟨hj, hf, hs, hl⟩ := hi.held h hmem
    exact ⟨jobs_restart.mpr ⟨hj, hp⟩, flight_restart.mpr ⟨hf, hp⟩, hs, hl⟩
  · exact hi.unique h (mem_holders_restart.mp hmem).1 h' (mem_holders_restart.mp hmem').1

theorem leaseRely_restart (hi : LeaseInv w) (podName : String) (i : Nat) :
    LeaseRely i w (w.act (.restart podName)) where
  jobs _ hj := (jobs_restart.mp hj).1
  flight _ hj hf := flight_restart.mpr ⟨hf, (jobs_restart.mp hj).2⟩
  holders job hj h hgo := by
    refine mem_holders_restart.trans (and_iff_left_of_imp fun hmem => ?_)
    have hs := (hi.held h hmem).job
    rw [hgo, (jobs_restart.mp hj).1] at hs
    exact some.inj hs ▸ (jobs_restart.mp hj).2
  clock := le_rfl
  revision := le_rfl
  leases _ _ hl _ := hl

theorem leaseRely_tick (w : LeaseWorld) (d i : Nat) : LeaseRely i w (w.act (.tick d)) :=
  ⟨fun _ => id, fun _ _ => id, fun _ _ _ _ => Iff.rfl, Nat.le_add_right _ _, le_rfl, fun _ _ h _ => h⟩

theorem leaseRely_start {j : Nat} (hj : j ≠ i) (w : LeaseWorld) (job : LeaseJob) :
    LeaseRely j w { w with jobs := update w.jobs i (some job) } := by
  refine ⟨fun job' hj' => ?_, fun _ _ => id, fun _ _ _ _ => Iff.rfl, le_rfl, le_rfl, fun _ _ h _ => h⟩
  change update w.jobs i (some job) j = some job' at hj'
  rwa [update_of_ne hj] at hj'

end LeaseWorld

theorem leaseThreads_meets :
    Threads.Meets leaseContract leaseThreads fun s e => RunsShort s e ∧ Promptly s e where
  init _ := leaseInv_empty
  start s i job w _ hs hst := by
    have hin : LeaseInv s.world := (hs i).1
    change (if s.world.jobs i = none then _ else _) = some w at hst
    obtain ⟨hn, ⟨⟩⟩ := ite_none_right_eq_some.mp hst
    refine ⟨fun _ => hin.start hn job, fun j hj c _ => ?_, ?_⟩
    · exact leaseRely_start (fun h => hj (congrArg some h)) s.world job
    · exact triggerReconciliation_safe (.of (update_self _ _ _) (hin.free_of_none hn))
  reply s i c r _ w hG hs hne hse := by
    have hin : LeaseInv s.world := (hs i).1
    have hi : LeaseIssue i s.world c := (hs i).2.issue hin hne
    obtain ⟨job, hjo, he⟩ := serve_effect hse hG.2
    refine ⟨fun _ => he.inv hjo hin hi, fun j hj c _ => ?_, hse, hG.2⟩
    exact he.rely hjo hin hi fun h => hj (congrArg some h)
  env s action w hG hs hen := by
    cases hen
    cases action with
    | tick d =>
      exact ⟨fun i => LeaseInv.tick (hs i).1 hG.1, fun j _ _ _ => leaseRely_tick s.world d j⟩
    | restart podName =>
      exact ⟨fun i => LeaseInv.restart (hs i).1 podName,
        fun j _ _ _ => leaseRely_restart (hs j).1 podName j⟩

def LeaseCall.underLease : LeaseCall → Bool
  | .reconcile _ | .deleteLease _ => true
  | _ => false

/-- A goroutine is between a successful `tryAcquireMetroReconcileLease` and the release. -/
def Reconciles (s : LeasePool) (i : Nat) (job : LeaseJob) : Prop :=
  s.world.jobs i = some job ∧ (s.thread i).next.any LeaseCall.underLease

instance (s : LeasePool) (i : Nat) (job : LeaseJob) : Decidable (Reconciles s i job) :=
  inferInstanceAs (Decidable (_ ∧ _))

def OneReconciler (s : LeasePool) : Prop :=
  ∀ i j job job', Reconciles s i job → Reconciles s j job' → job.arrayID = job'.arrayID →
    job.podName = job'.podName

theorem Reconciles.heldBy {s : LeasePool} (hs : s.Sound leaseContract) {i : Nat} {job : LeaseJob}
    (h : Reconciles s i job) : s.world.HeldBy i job := by
  obtain ⟨hj, hn⟩ := h
  obtain ⟨c, hc, hu⟩ := (any_eq_true _ _).mp hn
  have hi := (hs i).2.issue (hs i).1 hc job hj
  cases c with
  | reconcile | deleteLease => exact hi.2
  | _ => cases hu

/-- If leases are acquired promptly and runs are short, at most one pod reconciles an array. -/
theorem oneReconciler_of_promptly (events : List LeaseEvent) (s : LeasePool)
    (hr : leaseThreads.machine.run leaseThreads.machine.init events = some s)
    (hG : leaseThreads.machine.Along (fun s e => RunsShort s e ∧ Promptly s e)
      leaseThreads.machine.init events) : OneReconciler s := by
  have hs : s.Sound leaseContract := leaseThreads_meets.run_sound hG hr
  have hin : LeaseInv s.world := (hs 0).1
  intro i j job job' hi hj ha
  obtain ⟨h, hmem, -, rfl⟩ := hi.heldBy hs
  obtain ⟨h', hmem', -, rfl⟩ := hj.heldBy hs
  have hn : h.job.leaseName = h'.job.leaseName := congrArg metroLeaseNameForArray ha
  rw [hin.unique h hmem h' hmem' hn]

def readRun (i : Nat) (podName : String) (now : Nat) (lease : Lease) : List LeaseEvent :=
  [.start i ⟨podName, "000197900046"⟩,
    .reply i (.loadOrStore "000197900046") false (),
    .reply i .getClient true (),
    .reply i .now now (),
    .reply i (.createLease (metroLeaseNameForArray "000197900046") (leaseSpec podName now))
      (.error ⟨.alreadyExists, ""⟩) (),
    .reply i (.getLease (metroLeaseNameForArray "000197900046")) (.ok lease) ()]

def createRun (i : Nat) (podName : String) (now : Nat) : List LeaseEvent :=
  [.start i ⟨podName, "000197900046"⟩,
    .reply i (.loadOrStore "000197900046") false (),
    .reply i .getClient true (),
    .reply i .now now (),
    .reply i (.createLease (metroLeaseNameForArray "000197900046") (leaseSpec podName now))
      (.ok ()) ()]

/-- A pod restarts and takes over within a minute; 10 minutes later another one is refused. -/
def refusedRun : List LeaseEvent :=
  createRun 0 "controller-0" 0 ++ [.env (.restart "controller-0"), .env (.tick minute)] ++
    readRun 1 "controller-0" minute ⟨leaseSpec "controller-0" 0, 1⟩ ++ [.env (.tick (10 * minute))] ++
    readRun 2 "controller-1" (11 * minute) ⟨leaseSpec "controller-0" 0, 1⟩ ++
    [.reply 2 .now (11 * minute) ()]

/-- The pod that has restarted reconciles, and the other one does not. -/
theorem oneReconciler_refusedRun : ∃ s,
    leaseThreads.machine.run leaseThreads.machine.init refusedRun = some s ∧
    Reconciles s 1 ⟨"controller-0", "000197900046"⟩ ∧ OneReconciler s := by
  have ho : (leaseThreads.machine.run leaseThreads.machine.init refusedRun).map
      (fun s => decide (Reconciles s 1 ⟨"controller-0", "000197900046"⟩)) = some true := by
    decide +kernel
  obtain ⟨s, hr, hs⟩ := map_eq_some_iff.mp ho
  refine ⟨s, hr, of_decide_eq_true hs, ?_⟩
  exact oneReconciler_of_promptly refusedRun s hr (by decide +kernel)

/-- A pod restarts and takes over after 9 minutes; 3 minutes later the lease has expired. -/
def expiredRun : List LeaseEvent :=
  createRun 0 "controller-0" 0 ++ [.env (.restart "controller-0"), .env (.tick (9 * minute))] ++
    readRun 1 "controller-0" (9 * minute) ⟨leaseSpec "controller-0" 0, 1⟩ ++
    [.env (.tick (3 * minute))] ++
    readRun 2 "controller-1" (12 * minute) ⟨leaseSpec "controller-0" 0, 1⟩ ++
    [.reply 2 .now (12 * minute) (),
      .reply 2 (.updateLease (metroLeaseNameForArray "000197900046")
        ⟨leaseSpec "controller-1" (12 * minute), 1⟩) (.ok ()) ()]

/-- Two pods reconcile the array, though no run lasts longer than 10 minutes. -/
theorem expiredRun_twoReconcilers : ¬ ∀ events s,
    leaseThreads.machine.run leaseThreads.machine.init events = some s →
    leaseThreads.machine.Along RunsShort leaseThreads.machine.init events → OneReconciler s := by
  intro ha
  have ho : (leaseThreads.machine.run leaseThreads.machine.init expiredRun).map
      (fun s => decide (Reconciles s 1 ⟨"controller-0", "000197900046"⟩ ∧
        Reconciles s 2 ⟨"controller-1", "000197900046"⟩)) = some true := by
    decide +kernel
  obtain ⟨s, hr, hs⟩ := map_eq_some_iff.mp ho
  obtain ⟨hf, hse⟩ := of_decide_eq_true hs
  have hsa := ha expiredRun s hr (by decide +kernel) 1 2 _ _ hf hse rfl
  exact absurd hsa (by decide)

end PowerMaxCsi.Metro
