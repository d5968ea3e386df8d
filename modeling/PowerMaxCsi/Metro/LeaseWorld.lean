import PowerMaxCsi.Metro.Lease

/-!
# Pods that share the leases

The API server with the leases, the clock, and the pods.  A call takes effect at once or fails.
When a container restarts its goroutines and `metroReconcileInFlight` are gone, and the pod keeps
its name.
-/

namespace PowerMaxCsi.Metro

open Journal (ApiError)

structure LeaseJob where
  (podName arrayID : String)
deriving DecidableEq, Repr

def LeaseJob.leaseName (job : LeaseJob) : String := metroLeaseNameForArray job.arrayID

structure Holding where
  goroutine : Nat
  job : LeaseJob
  since : Nat
deriving DecidableEq, Repr

structure LeaseWorld where
  leases : String → Option Lease
  (revision clock : Nat)
  /-- `metroReconcileInFlight` of all pods, with the goroutine that stored the entry. -/
  inFlight : List (LeaseJob × Nat)
  jobs : Nat → Option LeaseJob
  holders : List Holding

namespace LeaseWorld

def empty : LeaseWorld := ⟨fun _ => none, 0, 0, [], fun _ => none, []⟩

def write (w : LeaseWorld) (name : String) (spec : LeaseSpec) : LeaseWorld :=
  { w with
    leases := Function.update w.leases name (some ⟨spec, w.revision + 1⟩)
    revision := w.revision + 1 }

def hold (w : LeaseWorld) (i : Nat) (job : LeaseJob) : LeaseWorld :=
  { w with holders := ⟨i, job, w.clock⟩ :: w.holders }

def unhold (w : LeaseWorld) (i : Nat) : LeaseWorld :=
  { w with holders := w.holders.filter (·.goroutine ≠ i) }

def serveJob (w : LeaseWorld) (i : Nat) (job : LeaseJob) :
    (c : LeaseCall) → LeaseAnswer c → Option LeaseWorld
  | .loadOrStore arrayID, loaded =>
    let key : LeaseJob := ⟨job.podName, arrayID⟩
    if key ∈ w.inFlight.map Prod.fst then if loaded then some w else none
    else if loaded then none else some { w with inFlight := (key, i) :: w.inFlight }
  | .deleteInFlight arrayID, _ =>
    some { w with inFlight := w.inFlight.filter (·.1 ≠ ⟨job.podName, arrayID⟩) }
  | .getClient, available => if available then some w else none
  | .now, time => if time = w.clock then some w else none
  | .createLease name spec, answer =>
    match w.leases name, answer with
    | none, .ok () => some ((w.write name spec).hold i job)
    | none, .error err => if err.reason = .alreadyExists then none else some w
    | some _, .error _ => some w
    | some _, .ok () => none
  | .getLease name, answer =>
    match answer with
    | .error _ => some w
    | .ok lease =>
      if w.leases name = some lease then
        if lease.spec.holderIdentity = some job.podName then some (w.hold i job) else some w
      else none
  | .updateLease name lease, answer =>
    match answer with
    | .error _ => some w
    | .ok () =>
      if (w.leases name).map Lease.resourceVersion = some lease.resourceVersion then
        some ((w.write name lease.spec).hold i job)
      else none
  | .deleteLease name, answer =>
    match answer with
    | .error _ => some (w.unhold i)
    | .ok () => some { w.unhold i with leases := Function.update w.leases name none }
  | .emitMetroEvent _, _ => some w
  | .reconcile _, _ => some w

def serve (w : LeaseWorld) (i : Nat) (c : LeaseCall) (r : LeaseAnswer c) : Option LeaseWorld :=
  (w.jobs i).bind fun job => w.serveJob i job c r

end LeaseWorld

inductive LeaseAction where
  | tick (d : Nat)
  | restart (podName : String)
deriving DecidableEq, Repr

def LeaseWorld.act (w : LeaseWorld) : LeaseAction → LeaseWorld
  | .tick d => { w with clock := w.clock + d }
  | .restart podName =>
    { w with
      inFlight := w.inFlight.filter (·.1.podName ≠ podName)
      jobs := fun i => (w.jobs i).filter (·.podName ≠ podName)
      holders := w.holders.filter (·.job.podName ≠ podName) }

def leaseThreads :
    Prog.Threads Nat LeaseCall LeaseJob LeaseAction Unit LeaseWorld LeaseAnswer where
  init := .empty
  program job := triggerReconciliation job.podName job.arrayID
  start w i job :=
    if w.jobs i = none then some { w with jobs := Function.update w.jobs i (some job) } else none
  serve w i c r _ := w.serve i c r
  env w action := some (w.act action)

abbrev LeasePool := Prog.Threads.Pool Nat LeaseCall LeaseWorld LeaseAnswer

abbrev LeaseEvent := Prog.Threads.Event Nat LeaseCall LeaseJob LeaseAction Unit LeaseAnswer

end PowerMaxCsi.Metro
