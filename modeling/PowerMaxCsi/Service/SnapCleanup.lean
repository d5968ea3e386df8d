import PowerMaxCsi.Lib.Machine
import PowerMaxCsi.Lib.Strings

/-!
# The cleanup of snapshots

`snapCleanupThread`.  `Less` is constantly false, so the heap leaves a new request at the end and
takes the first one, whose place the last one gets.
-/

namespace PowerMaxCsi.Service.Snap

open Machine

structure SnapCleanupRequest where
  (symmetrixID snapshotID volumeID requestID : String)
  retries : Nat
deriving DecidableEq

structure SnapCleanupWorker where
  queue : List SnapCleanupRequest
  maxRetries : Nat
deriving DecidableEq

variable (scw : SnapCleanupWorker) (req : SnapCleanupRequest)

def queueForRetry : SnapCleanupWorker := { scw with queue := scw.queue ++ [req] }

/-- The volume is not looked at. -/
def requestCleanup : SnapCleanupWorker :=
  if scw.queue.any fun r => r.snapshotID = req.snapshotID ∧ r.symmetrixID = req.symmetrixID then scw
  else queueForRetry scw req

def removeItem : Option (SnapCleanupRequest × SnapCleanupWorker) :=
  match scw.queue with
  | [] => none
  | req :: rest => some (req, { scw with queue := rest.getLast?.toList ++ rest.dropLast })

/-- The requests name one snapshot of one volume. -/
def SnapCleanupRequest.Same (r req : SnapCleanupRequest) : Prop :=
  r.symmetrixID = req.symmetrixID ∧ r.volumeID = req.volumeID ∧ r.snapshotID = req.snapshotID

/-- **Admission.**  No entry is lost or added twice, but the request is queued exactly if the
entries of its snapshot, if any, include its volume. -/
theorem requestCleanup_queued_iff (scw : SnapCleanupWorker) (req : SnapCleanupRequest) :
    ((∃ r ∈ (requestCleanup scw req).queue, r.Same req) ↔
      ((∃ r ∈ scw.queue, r.snapshotID = req.snapshotID ∧ r.symmetrixID = req.symmetrixID) →
        ∃ r ∈ scw.queue, r.Same req)) ∧
    (∀ r ∈ scw.queue, r ∈ (requestCleanup scw req).queue) ∧
    ((∃ r ∈ scw.queue, r.Same req) → requestCleanup scw req = scw) := by
  simp only [requestCleanup, List.any_eq_true, decide_eq_true_eq]
  split
  case isTrue h => exact ⟨⟨fun hs _ => hs, fun hs => hs h⟩, fun _ => id, fun _ => rfl⟩
  case isFalse h =>
    refine ⟨iff_of_true ⟨req, by simp [queueForRetry], rfl, rfl, rfl⟩ (absurd · h),
      fun r hm => List.mem_append_left _ hm, ?_⟩
    rintro ⟨r, hm, hsym, -, hsnap⟩
    exact absurd ⟨r, hm, hsnap, hsym⟩ h

def someRequest : SnapCleanupRequest := ⟨"000120000548", "DEL-csi-snap", "00001", "", 0⟩

/-- The volume is not compared, so the same snapshot of another volume counts as queued. -/
theorem requestCleanup_other_volume :
    ¬ ∀ scw req, ∃ r ∈ (requestCleanup scw req).queue, r.Same req := by
  intro h
  obtain ⟨r, hr, -, hv, -⟩ := h ⟨[someRequest], 10⟩ { someRequest with volumeID := "00002" }
  revert r
  decide

inductive Phase
  | removeItem
  | requestLock (req : SnapCleanupRequest)
  | getPowerMaxClient (req : SnapCleanupRequest)
  | unlinkAndTerminate (req : SnapCleanupRequest)
  | releaseLock (req : SnapCleanupRequest)
deriving DecidableEq

structure State where
  scw : SnapCleanupWorker
  phase : Phase
  held : List String
deriving DecidableEq

inductive Event
  | requestCleanup (req : SnapCleanupRequest)
  | call (err : Option String)
deriving DecidableEq

def SnapCleanupRequest.lockHandle : String := req.volumeID ++ req.symmetrixID

def alreadyTerminated (err : String) : Bool :=
  Strings.contains err "Volume is neither a source nor target"

def retry (err : String) : SnapCleanupWorker :=
  if ¬ alreadyTerminated err ∧ req.retries = scw.maxRetries then
    queueForRetry scw { req with retries := req.retries + 1 }
  else scw

/-- `RequestLock` does not return while the lock is held. -/
def step (s : State) : Event → Option State
  | .requestCleanup req => some { s with scw := requestCleanup s.scw req }
  | .call err =>
    match s.phase, err with
    | .removeItem, _ =>
      match removeItem s.scw with
      | some (req, scw) => some { s with scw, phase := .requestLock req }
      | none => some s
    | .requestLock _, some _ => some { s with phase := .removeItem }
    | .requestLock req, none =>
      if req.lockHandle ∈ s.held then none
      else some { s with phase := .getPowerMaxClient req, held := req.lockHandle :: s.held }
    | .getPowerMaxClient _, some _ => some { s with phase := .removeItem }
    | .getPowerMaxClient req, none => some { s with phase := .unlinkAndTerminate req }
    | .unlinkAndTerminate req, some err =>
      some { s with scw := retry s.scw req err, phase := .releaseLock req }
    | .unlinkAndTerminate req, none => some { s with phase := .releaseLock req }
    | .releaseLock req, _ =>
      some { s with phase := .removeItem, held := s.held.erase req.lockHandle }

/-- The thread after its start, with the number of retries that `startSnapCleanupWorker` sets. -/
def machine : Machine State Event := ⟨⟨⟨[], 10⟩, .removeItem, []⟩, step⟩

def failed (s : State) (e : Event) : Option SnapCleanupRequest :=
  match s.phase, e with
  | .requestLock req, .call (some _) | .getPowerMaxClient req, .call (some _) => some req
  | .unlinkAndTerminate req, .call (some err) => if alreadyTerminated err then none else some req
  | _, _ => none

def PutBack (s : State) (e : Event) : Prop :=
  ∀ req ∈ failed s e, req.retries < s.scw.maxRetries → ∀ s' ∈ step s e,
    s'.scw = queueForRetry s.scw { req with retries := req.retries + 1 }

/-- A request that fails has been retried enough. -/
def Exhausted (s : State) (e : Event) : Prop := ∀ req ∈ failed s e, s.scw.maxRetries ≤ req.retries

variable {s s' : State} {e : Event} {req}

theorem scw_of_failed (hf : failed s e = some req) (hr : req.retries < s.scw.maxRetries) :
    ∃ s', step s e = some s' ∧ s'.scw = s.scw := by
  unfold failed at hf
  split at hf
  case h_3 req' err hp =>
    split at hf
    case isTrue => cases hf
    case isFalse ht =>
      cases hf
      simp [step, hp, retry, hr.ne]
  all_goals simp_all [step]

theorem putBack_iff_exhausted : PutBack s e ↔ Exhausted s e := by
  constructor
  · intro h req hf
    by_contra! hr
    obtain ⟨s', hs, heq⟩ := scw_of_failed hf hr
    have hq := congrArg SnapCleanupWorker.queue (heq.symm.trans (h req hf hr s' hs))
    simp [queueForRetry] at hq
  · intro h req hf hr
    exact absurd hr (h req hf).not_gt

/-- **Retries.**  Requests that fail are put back exactly if none fails before its last retry. -/
theorem along_putBack_iff (s : State) (es : List Event) :
    machine.Along PutBack s es ↔ machine.Along Exhausted s es :=
  along_congr machine (I := fun _ => True) (fun _ _ _ _ _ => trivial)
    (fun _ _ _ => putBack_iff_exhausted) trivial es

instance : Decidable (PutBack s e) := by unfold PutBack; infer_instance

/-- The first failure of a new request is its last. -/
theorem dropped_at_first_failure : ¬ ∀ es, machine.Along PutBack machine.init es := by
  intro h
  exact absurd (h [.requestCleanup someRequest, .call none, .call none, .call none,
    .call (some "timeout")]) (by decide)

def Phase.handles : Phase → List String
  | .getPowerMaxClient req | .unlinkAndTerminate req | .releaseLock req => [req.lockHandle]
  | .removeItem | .requestLock _ => []

def Connects (s : State) (e : Event) : Prop :=
  ∀ req err, s.phase = .getPowerMaxClient req → e ≠ .call (some err)

theorem step_handles (hs : s.held = s.phase.handles) (he : Connects s e) (h : step s e = some s') :
    s'.held = s'.phase.handles := by
  cases e with
  | requestCleanup req =>
    cases h
    exact hs
  | call err =>
    simp only [step] at h
    split at h
    case h_8 req _ hp =>
      cases h
      simp [hs, hp, Phase.handles]
    all_goals grind [Phase.handles, Connects]

/-- **Locks.**  While the clients are found, the thread holds no lock when it takes a request. -/
theorem held_of_removeItem {es : List Event} (h : machine.Along Connects machine.init es)
    (hr : machine.run machine.init es = some s) (hp : s.phase = .removeItem) : s.held = [] := by
  have hi := machine.run_invariant (I := fun s => s.held = s.phase.handles)
    (fun _ _ _ => step_handles) rfl h hr
  rw [hi, hp, Phase.handles]

def cleanedUp : List Event :=
  [.requestCleanup someRequest, .call none, .call none, .call none, .call none, .call none]

theorem released_after_cleanup :
    ∃ s, machine.run machine.init cleanedUp = some s ∧ s.held = [] := by
  have hc : machine.Along Connects machine.init cleanedUp :=
    along_of_forall _ (by simp [cleanedUp, Connects]) _
  exact ⟨_, rfl, held_of_removeItem hc rfl rfl⟩

/-- The array of the request is not configured any more. -/
theorem held_after_lookup : ¬ ∀ es s, machine.run machine.init es = some s →
    s.phase = .removeItem → s.held = [] := by
  intro h
  exact absurd (h [.requestCleanup someRequest, .call none, .call none,
    .call (some "array: 000120000548 not found")] _ rfl rfl) (by decide)

end PowerMaxCsi.Service.Snap
