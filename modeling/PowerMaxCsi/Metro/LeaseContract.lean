import Mathlib.Data.List.Nodup
import PowerMaxCsi.Metro.LeaseWorld

/-!
# What keeps the holders of a lease apart

A holder is safe while the lease has the name of its pod and has not expired: `LeaseInv`.  It
expires 12 minutes after its renew time and a run takes up to 10, so it must be acquired within 2
minutes of the renew time: `Prompt`.
-/

namespace PowerMaxCsi.Metro

open Prog List Option Function

namespace LeaseWorld

def Prompt (w : LeaseWorld) (renewTime : Option Nat) : Prop :=
  ∃ time ∈ renewTime, w.clock < time + 2 * minute

instance (w : LeaseWorld) (renewTime : Option Nat) : Decidable (w.Prompt renewTime) :=
  match renewTime with
  | none => .isFalse (by simp [Prompt])
  | some time => decidable_of_iff (w.clock < time + 2 * minute) (by simp [Prompt])

/-- A takeover by the same pod is prompt, and no run of the pod for another array holds the
lease. -/
def TakesOver (w : LeaseWorld) (job : LeaseJob) (name : String) (spec : LeaseSpec) : Prop :=
  spec.holderIdentity = some job.podName →
    w.Prompt spec.renewTime ∧ ∀ h ∈ w.holders, h.job.podName = job.podName →
      h.job.leaseName = name → h.job.arrayID = job.arrayID

instance (w : LeaseWorld) (job : LeaseJob) (name : String) (spec : LeaseSpec) :
    Decidable (w.TakesOver job name spec) :=
  inferInstanceAs (Decidable (_ → _))

def AcquiresPromptly (w : LeaseWorld) (i : Nat) : (c : LeaseCall) → LeaseAnswer c → Prop
  | .createLease _ spec, .ok () => w.Prompt spec.renewTime
  | .updateLease _ lease, .ok () => w.Prompt lease.spec.renewTime
  | .getLease name, .ok lease => ∀ job ∈ w.jobs i, w.TakesOver job name lease.spec
  | _, _ => True

instance (w : LeaseWorld) (i : Nat) : (c : LeaseCall) → (r : LeaseAnswer c) →
    Decidable (w.AcquiresPromptly i c r)
  | .createLease _ spec, .ok () => inferInstanceAs (Decidable (w.Prompt spec.renewTime))
  | .updateLease _ lease, .ok () => inferInstanceAs (Decidable (w.Prompt lease.spec.renewTime))
  | .getLease name, .ok lease =>
    inferInstanceAs (Decidable (∀ job ∈ w.jobs i, w.TakesOver job name lease.spec))
  | .createLease _ _, .error _ | .updateLease _ _, .error _ | .getLease _, .error _
  | .loadOrStore _, _ | .deleteInFlight _, _ | .getClient, _ | .now, _ | .deleteLease _, _
  | .emitMetroEvent _, _ | .reconcile _, _ => instDecidableTrue

structure Held (w : LeaseWorld) (h : Holding) : Prop where
  job : w.jobs h.goroutine = some h.job
  flight : (h.job, h.goroutine) ∈ w.inFlight
  short : w.clock ≤ h.since + 10 * minute
  lease : ∃ lease time, w.leases h.job.leaseName = some lease ∧
    lease.spec = leaseSpec h.job.podName time ∧ h.since < time + 2 * minute

structure LeaseInv (w : LeaseWorld) : Prop where
  flights : (w.inFlight.map Prod.fst).Nodup
  leases : ∀ name lease, w.leases name = some lease → lease.resourceVersion ≤ w.revision ∧
    ∃ podName time, lease.spec = leaseSpec podName time
  held : ∀ h ∈ w.holders, w.Held h
  unique : ∀ h ∈ w.holders, ∀ h' ∈ w.holders, h.job.leaseName = h'.job.leaseName → h = h'

structure LeaseRely (i : Nat) (w w' : LeaseWorld) : Prop where
  jobs : ∀ job, w'.jobs i = some job → w.jobs i = some job
  flight : ∀ job, w'.jobs i = some job → (job, i) ∈ w.inFlight → (job, i) ∈ w'.inFlight
  holders : ∀ job, w'.jobs i = some job → ∀ h, h.goroutine = i → (h ∈ w'.holders ↔ h ∈ w.holders)
  clock : w.clock ≤ w'.clock
  revision : w.revision ≤ w'.revision
  leases : ∀ name lease, w'.leases name = some lease → lease.resourceVersion ≤ w.revision →
    w.leases name = some lease

theorem LeaseRely.refl (i : Nat) (w : LeaseWorld) : LeaseRely i w w :=
  ⟨fun _ => id, fun _ _ => id, fun _ _ _ _ => Iff.rfl, le_rfl, le_rfl, fun _ _ h _ => h⟩

theorem LeaseRely.trans {i : Nat} {w w' w'' : LeaseWorld} (h : LeaseRely i w w')
    (h' : LeaseRely i w' w'') : LeaseRely i w w'' where
  jobs job hj := h.jobs job (h'.jobs job hj)
  flight job hj hf := h'.flight job hj (h.flight job (h'.jobs job hj) hf)
  holders job hj hold hgo :=
    (h'.holders job hj hold hgo).trans (h.holders job (h'.jobs job hj) hold hgo)
  clock := h.clock.trans h'.clock
  revision := h.revision.trans h'.revision
  leases name lease hl hv :=
    h.leases name lease (h'.leases name lease hl (hv.trans h.revision)) hv

def Free (w : LeaseWorld) (i : Nat) : Prop := ∀ h ∈ w.holders, h.goroutine ≠ i

def HeldBy (w : LeaseWorld) (i : Nat) (job : LeaseJob) : Prop :=
  ∃ h ∈ w.holders, h.goroutine = i ∧ h.job = job

def LeaseIssue (i : Nat) (w : LeaseWorld) (c : LeaseCall) : Prop :=
  ∀ job, w.jobs i = some job →
    match c with
    | .deleteInFlight arrayID => arrayID = job.arrayID ∧ (job, i) ∈ w.inFlight ∧ w.Free i
    | .createLease name spec => name = job.leaseName ∧ ((job, i) ∈ w.inFlight ∧ w.Free i) ∧
        ∃ time, spec = leaseSpec job.podName time
    | .getLease name => name = job.leaseName ∧ (job, i) ∈ w.inFlight ∧ w.Free i
    | .updateLease name lease => name = job.leaseName ∧ ((job, i) ∈ w.inFlight ∧ w.Free i) ∧
        (∃ time, lease.spec = leaseSpec job.podName time) ∧
        ∀ lease₀, w.leases name = some lease₀ → lease₀.resourceVersion = lease.resourceVersion →
          lease₀.spec.unexpired w.clock = false
    | .deleteLease name => name = job.leaseName ∧ w.HeldBy i job
    | .reconcile arrayID => arrayID = job.arrayID ∧ w.HeldBy i job
    | _ => True

end LeaseWorld

open LeaseWorld

def leaseContract (i : Nat) : Contract LeaseCall LeaseAnswer LeaseWorld where
  inv := LeaseInv
  rely _ := LeaseRely i
  answers w c r w' := w.serve i c r = some w' ∧ w.AcquiresPromptly i c r
  issue := LeaseIssue i
  rely_refl _ := LeaseRely.refl i
  rely_trans _ _ _ _ h h' := h.trans h'

namespace LeaseWorld

inductive Effect (w : LeaseWorld) (i : Nat) (job : LeaseJob) : LeaseCall → LeaseWorld → Prop where
  | none {c : LeaseCall} : Effect w i job c w
  | store {arrayID : String} : ⟨job.podName, arrayID⟩ ∉ w.inFlight.map Prod.fst →
      Effect w i job (.loadOrStore arrayID)
        { w with inFlight := (⟨job.podName, arrayID⟩, i) :: w.inFlight }
  | unstore {arrayID : String} : Effect w i job (.deleteInFlight arrayID)
      { w with inFlight := w.inFlight.filter (·.1 ≠ ⟨job.podName, arrayID⟩) }
  | create {name : String} {spec : LeaseSpec} : w.leases name = Option.none →
      w.Prompt spec.renewTime → Effect w i job (.createLease name spec)
        ((w.write name spec).hold i job)
  | takeOver {name : String} {lease : Lease} : w.leases name = some lease →
      lease.spec.holderIdentity = some job.podName → w.TakesOver job name lease.spec →
      Effect w i job (.getLease name) (w.hold i job)
  | update {name : String} {lease lease₀ : Lease} : w.leases name = some lease₀ →
      lease₀.resourceVersion = lease.resourceVersion → w.Prompt lease.spec.renewTime →
      Effect w i job (.updateLease name lease) ((w.write name lease.spec).hold i job)
  | release {name : String} : Effect w i job (.deleteLease name) (w.unhold i)
  | delete {name : String} : Effect w i job (.deleteLease name)
      { w.unhold i with leases := Function.update w.leases name Option.none }

variable {w w' : LeaseWorld} {i : Nat} {job : LeaseJob} {c : LeaseCall}

theorem serveJob_effect {r : LeaseAnswer c} (hj : w.jobs i = some job)
    (h : w.serveJob i job c r = some w') (hp : w.AcquiresPromptly i c r) : w.Effect i job c w' := by
  cases c
  case loadOrStore arrayID =>
    simp only [serveJob] at h
    split at h
    · split at h
      · cases h
        exact .none
      · cases h
    case isFalse hne =>
      split at h
      · cases h
      · cases h
        exact .store hne
  case deleteInFlight arrayID =>
    cases h
    exact .unstore
  case createLease name spec =>
    simp only [serveJob] at h
    split at h
    case h_1 hn =>
      cases h
      exact .create hn hp
    case h_2 =>
      split at h
      · cases h
      · cases h
        exact .none
    case h_3 =>
      cases h
      exact .none
    case h_4 => cases h
  case getLease name =>
    rcases r with err | lease
    · cases h
      exact .none
    · obtain ⟨hl, h⟩ := ite_none_right_eq_some.mp h
      split at h
      case isTrue hh =>
        cases h
        exact .takeOver hl hh (hp job hj)
      case isFalse =>
        cases h
        exact .none
  case updateLease name lease =>
    rcases r with err | _
    · cases h
      exact .none
    · obtain ⟨hv, h⟩ := ite_none_right_eq_some.mp h
      obtain ⟨lease₀, hl₀, hv⟩ := map_eq_some_iff.mp hv
      cases h
      exact .update hl₀ hv hp
  case deleteLease name =>
    rcases r with err | _
    · cases h
      exact .release
    · cases h
      exact .delete
  -- the other calls change nothing
  all_goals
    have hs : w' = w := by
      simp only [serveJob] at h
      grind
    rw [hs]
    exact .none

theorem serve_effect {r : LeaseAnswer c} (h : w.serve i c r = some w')
    (hp : w.AcquiresPromptly i c r) : ∃ job, w.jobs i = some job ∧ w.Effect i job c w' := by
  obtain ⟨job, hj, h⟩ := bind_eq_some_iff.mp h
  exact ⟨job, hj, serveJob_effect hj h hp⟩

variable {j time : Nat} {h : Holding} {lease : Lease}

theorem LeaseInv.flight_unique (hin : LeaseInv w) {i : Nat} (hi : (job, i) ∈ w.inFlight)
    (hj : (job, j) ∈ w.inFlight) : i = j :=
  congrArg Prod.snd (inj_on_of_nodup_map hin.flights hi hj rfl)

theorem Held.unexpired (hh : w.Held h)
    (hl : w.leases h.job.leaseName = some lease) : lease.spec.unexpired w.clock = true := by
  obtain ⟨lease', time, hl', hs, ht⟩ := hh.lease
  obtain rfl := some.inj (hl.symm.trans hl')
  have hsh := hh.short
  rw [hs]
  simp only [LeaseSpec.unexpired, leaseSpec, metroReconcileLeaseDuration, minute,
    decide_eq_true_eq] at *
  omega

theorem write_leases (w : LeaseWorld) (name name' : String) (spec : LeaseSpec) :
    (w.write name spec).leases name' =
      if name' = name then some ⟨spec, w.revision + 1⟩ else w.leases name' :=
  update_apply w.leases name _ name'

theorem leases_of_write {name name' : String} {spec : LeaseSpec}
    (hl : (w.write name spec).leases name' = some lease)
    (hv : lease.resourceVersion ≤ w.revision) : w.leases name' = some lease := by
  rw [write_leases] at hl
  split at hl
  · cases hl
    exact absurd hv (Nat.not_succ_le_self _)
  · exact hl

theorem mem_hold_iff (hgo : h.goroutine = j) (hj : j ≠ i) :
    h ∈ (w.hold i job).holders ↔ h ∈ w.holders := by
  refine ⟨fun hmem => ?_, mem_cons_of_mem _⟩
  rcases mem_cons.mp hmem with rfl | hmem
  · exact absurd hgo.symm hj
  · exact hmem

theorem mem_unhold_iff {i : Nat} : h ∈ (w.unhold i).holders ↔ h ∈ w.holders ∧ h.goroutine ≠ i := by
  simp [unhold]

theorem Effect.rely (he : w.Effect i job c w') (hjo : w.jobs i = some job)
    (hin : LeaseInv w) (hi : LeaseIssue i w c) (hj : j ≠ i) : LeaseRely j w w' := by
  cases he with
  | none => exact .refl j w
  | store =>
    exact ⟨fun _ => id, fun _ _ => mem_cons_of_mem _, fun _ _ _ _ => Iff.rfl, le_rfl, le_rfl,
      fun _ _ h _ => h⟩
  | unstore =>
    obtain ⟨rfl, hf, -⟩ := hi job hjo
    refine ⟨fun _ => id, fun job' _ hf' => ?_, fun _ _ _ _ => Iff.rfl, le_rfl, le_rfl,
      fun _ _ h _ => h⟩
    refine mem_filter.mpr ⟨hf', ?_⟩
    rw [decide_eq_true_eq]
    rintro rfl
    exact hj (hin.flight_unique hf' hf)
  | create =>
    exact ⟨fun _ => id, fun _ _ => id, fun _ _ _ hgo => mem_hold_iff hgo hj, le_rfl, Nat.le_succ _,
      fun _ _ => leases_of_write⟩
  | takeOver =>
    exact ⟨fun _ => id, fun _ _ => id, fun _ _ _ hgo => mem_hold_iff hgo hj, le_rfl, le_rfl,
      fun _ _ h _ => h⟩
  | update =>
    exact ⟨fun _ => id, fun _ _ => id, fun _ _ _ hgo => mem_hold_iff hgo hj, le_rfl, Nat.le_succ _,
      fun _ _ => leases_of_write⟩
  | release =>
    refine ⟨fun _ => id, fun _ _ => id, fun _ _ h hgo => ?_, le_rfl, le_rfl, fun _ _ h _ => h⟩
    rw [mem_unhold_iff, and_iff_left (hgo ▸ hj)]
  | @delete name =>
    refine ⟨fun _ => id, fun _ _ => id, fun _ _ h hgo => ?_, le_rfl, le_rfl, fun name' lease h _ => ?_⟩
    · exact mem_unhold_iff.trans (and_iff_left (hgo ▸ hj))
    · change Function.update w.leases name Option.none name' = some lease at h
      rw [update_apply] at h
      split at h
      · cases h
      · exact h

variable (hi : LeaseInv w)

include hi

theorem LeaseInv.hold (hj : w.jobs i = some job) (hf : (job, i) ∈ w.inFlight)
    (hl : w.leases job.leaseName = some lease) (hs : lease.spec = leaseSpec job.podName time)
    (hp : w.Prompt lease.spec.renewTime) (hu : ∀ h ∈ w.holders, h.job.leaseName ≠ job.leaseName) :
    LeaseInv (w.hold i job) := by
  have hne : (w.hold i job).Held ⟨i, job, w.clock⟩ := by
    obtain ⟨time', ht', hc⟩ := hp
    rw [hs] at ht'
    cases ht'
    exact ⟨hj, hf, Nat.le_add_right _ _, lease, time, hl, hs, hc⟩
  refine ⟨hi.flights, hi.leases, fun h hmem => ?_, fun h hmem h' hmem' hn => ?_⟩
  · rcases mem_cons.mp hmem with rfl | hmem
    · exact hne
    · obtain ⟨hj', hf', hs', hl'⟩ := hi.held h hmem
      exact ⟨hj', hf', hs', hl'⟩
  · rcases mem_cons.mp hmem with rfl | hmem <;> rcases mem_cons.mp hmem' with rfl | hmem'
    · rfl
    · exact absurd hn.symm (hu h' hmem')
    · exact absurd hn (hu h hmem)
    · exact hi.unique h hmem h' hmem' hn

theorem LeaseInv.write {name podName : String} (hu : ∀ h ∈ w.holders, h.job.leaseName ≠ name) :
    LeaseInv (w.write name (leaseSpec podName time)) := by
  refine ⟨hi.flights, fun name' lease hl => ?_, fun h hmem => ?_, hi.unique⟩
  · rw [write_leases] at hl
    split at hl
    · cases hl
      exact ⟨le_rfl, podName, time, rfl⟩
    · obtain ⟨hv, hsp⟩ := hi.leases name' lease hl
      exact ⟨hv.trans (Nat.le_succ _), hsp⟩
  · obtain ⟨hj, hf, hs, lease, time', hl, hr⟩ := hi.held h hmem
    refine ⟨hj, hf, hs, lease, time', ?_, hr⟩
    rw [write_leases, if_neg (hu h hmem), hl]

theorem LeaseInv.acquire (hj : w.jobs i = some job) (hf : (job, i) ∈ w.inFlight)
    (hp : w.Prompt (leaseSpec job.podName time).renewTime)
    (hu : ∀ h ∈ w.holders, h.job.leaseName ≠ job.leaseName) :
    LeaseInv ((w.write job.leaseName (leaseSpec job.podName time)).hold i job) := by
  have hi' : LeaseInv (w.write job.leaseName (leaseSpec job.podName time)) := hi.write hu
  have hl : (w.write job.leaseName (leaseSpec job.podName time)).leases job.leaseName =
      some ⟨leaseSpec job.podName time, w.revision + 1⟩ := by
    rw [write_leases, if_pos rfl]
  obtain ⟨time', ht', hc⟩ := hp
  exact hi'.hold hj hf hl rfl ⟨time', ht', hc⟩ hu

theorem LeaseInv.takeOver (hjo : w.jobs i = some job) (hf : (job, i) ∈ w.inFlight) (hfr : w.Free i)
    (hl : w.leases job.leaseName = some lease) (hh : lease.spec.holderIdentity = some job.podName)
    (ht : w.TakesOver job job.leaseName lease.spec) : LeaseInv (w.hold i job) := by
  obtain ⟨-, podName, time, hs⟩ := hi.leases _ lease hl
  have hpo : podName = job.podName := by
    rw [hs] at hh
    exact some.inj hh
  subst hpo
  obtain ⟨hp, ho⟩ := ht hh
  refine hi.hold hjo hf hl hs hp fun h hmem hn => ?_
  -- a holder of this lease is a goroutine of the same pod for the same array
  have hhe := hi.held h hmem
  obtain ⟨lease', time', hl', hs', -⟩ := hhe.lease
  rw [hn, hl] at hl'
  cases hl'
  have hpo : h.job.podName = job.podName := by
    rw [hs'] at hh
    exact some.inj hh
  have hsa : h.job = job := by
    have ha := ho h hmem hpo hn
    cases hj : h.job
    simp_all
  refine hfr h hmem (hi.flight_unique ?_ hf)
  rw [← hsa]
  exact hhe.flight

theorem LeaseInv.unhold (i : Nat) : LeaseInv (w.unhold i) := by
  refine ⟨hi.flights, hi.leases, fun h hmem => ?_, fun h hmem h' hmem' => ?_⟩
  · obtain ⟨hj, hf, hs, hl⟩ := hi.held h (mem_unhold_iff.mp hmem).1
    exact ⟨hj, hf, hs, hl⟩
  · exact hi.unique h (mem_unhold_iff.mp hmem).1 h' (mem_unhold_iff.mp hmem').1

omit hi

theorem Effect.inv (hef : w.Effect i job c w') (hj : w.jobs i = some job)
    (hin : LeaseInv w) (hi : LeaseIssue i w c) : LeaseInv w' := by
  cases hef with
  | none => exact hin
  | store hne =>
    refine ⟨nodup_cons.mpr ⟨hne, hin.flights⟩, hin.leases, fun h hmem => ?_, hin.unique⟩
    obtain ⟨hj', hf, hs, hl⟩ := hin.held h hmem
    exact ⟨hj', mem_cons_of_mem _ hf, hs, hl⟩
  | unstore =>
    obtain ⟨rfl, hf, hfr⟩ := hi job hj
    refine ⟨hin.flights.sublist (filter_sublist.map _), hin.leases, fun h hmem => ?_, hin.unique⟩
    obtain ⟨hj', hf', hs, hl⟩ := hin.held h hmem
    refine ⟨hj', mem_filter.mpr ⟨hf', ?_⟩, hs, hl⟩
    rw [decide_eq_true_eq]
    intro (hsa : h.job = job)
    rw [hsa] at hf'
    exact hfr h hmem (hin.flight_unique hf' hf)
  | create hno hp =>
    obtain ⟨rfl, ⟨hf, -⟩, time, rfl⟩ := hi job hj
    have hun : ∀ h ∈ w.holders, h.job.leaseName ≠ job.leaseName := by
      intro h hmem hn
      obtain ⟨lease, -, hl, -⟩ := (hin.held h hmem).lease
      rw [hn, hno] at hl
      cases hl
    exact hin.acquire hj hf hp hun
  | takeOver hl hh ht =>
    obtain ⟨rfl, hf, hfr⟩ := hi job hj
    exact hin.takeOver hj hf hfr hl hh ht
  | update hl hv hp =>
    obtain ⟨rfl, ⟨hf, -⟩, ⟨time, hsp⟩, he⟩ := hi job hj
    have hun : ∀ h ∈ w.holders, h.job.leaseName ≠ job.leaseName := by
      intro h hmem hn
      have hu := (hin.held h hmem).unexpired (hn.symm ▸ hl)
      rw [he _ hl hv] at hu
      cases hu
    rw [hsp] at hp ⊢
    exact hin.acquire hj hf hp hun
  | release => exact hin.unhold i
  | delete =>
    obtain ⟨rfl, holder, hh, rfl, rfl⟩ := hi job hj
    have hin' := hin.unhold holder.goroutine
    refine ⟨hin'.flights, fun name lease hl => ?_, fun h hmem => ?_, hin'.unique⟩
    · change Function.update w.leases _ Option.none name = some lease at hl
      rw [update_apply] at hl
      split at hl
      · cases hl
      · exact hin.leases name lease hl
    · obtain ⟨hmem', hgo⟩ := mem_unhold_iff.mp hmem
      obtain ⟨hj', hf, hs, lease, time, hl, hr⟩ := hin.held h hmem'
      refine ⟨hj', hf, hs, lease, time, ?_, hr⟩
      change Function.update w.leases _ Option.none _ = some lease
      rw [update_of_ne, hl]
      intro hn
      exact hgo (congrArg Holding.goroutine (hin.unique h hmem' holder hh hn))

end LeaseWorld

end PowerMaxCsi.Metro
