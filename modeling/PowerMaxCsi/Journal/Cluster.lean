import PowerMaxCsi.Journal.VolumeJournal
import PowerMaxCsi.Lib.Registry

/-!
# Replicas that share the journal resources

The API server with the journal resources and the queue lease, the memory of each replica, and its
goroutines.  Calls take effect at once and are refused only for a reason.
-/

namespace PowerMaxCsi.Journal

open Option

abbrev Store := Registry Resource Resource.name

def Store.patch (store : Store) (op : DeferredOperation) : Store :=
  store.modify op.idempotencyToken (fun resource => { resource with op := op }) fun _ _ => rfl

theorem mem_patch {store : Store} {resource : Resource} {op : DeferredOperation}
    (hmem : resource ∈ store) (hn : resource.name = op.idempotencyToken) :
    { resource with op := op } ∈ Store.patch store op :=
  Registry.mem_modify.mpr ⟨resource, hmem, if_pos hn⟩

/-- The memory of a replica: the slice of its journal, and the goroutine that holds the
mutex. -/
structure Replica where
  operations : List DeferredOperation
  mutex : Option Nat

inductive JournalJob where
  | createDeferredOperation (replica fuel : Nat) (op : DeferredOperation)
  | updateDeferredOperation (replica : Nat) (token : String) (retryCount : Nat) (lastError : String)
  | updateDeferredOperationStatus (replica : Nat) (token : String) (status : OpStatus)
  | removeDeferredOperation (replica : Nat) (token : String)
deriving DecidableEq, Repr

def JournalJob.replica : JournalJob → Nat
  | .createDeferredOperation replica _ _ => replica
  | .updateDeferredOperation replica _ _ _ => replica
  | .updateDeferredOperationStatus replica _ _ => replica
  | .removeDeferredOperation replica _ => replica

def JournalJob.creates : JournalJob → Option DeferredOperation
  | .createDeferredOperation _ _ op => some op
  | _ => none

structure Cluster where
  store : Store
  lease : Option QueueLease
  (revision clock : Nat)
  replicas : Nat → Replica
  jobs : Nat → Option JournalJob

namespace Cluster

def writeLease (w : Cluster) (holderIdentity : String) (acquireTime : Option Nat) : Cluster :=
  { w with
    lease := some ⟨holderIdentity, acquireTime, w.revision + 1⟩
    revision := w.revision + 1 }

def setReplica (w : Cluster) (r : Nat) (replica : Replica) : Cluster :=
  { w with replicas := Function.update w.replicas r replica }

def refused {α : Type} (reason : ApiReason) : Except ApiError α → Bool
  | .ok _ => false
  | .error err => err.reason = reason

def selected (w : Cluster) (selector : Selector) : List Resource :=
  w.store.items.filter selector.selects

def serve (w : Cluster) (i : Nat) : (c : JournalCall) → JournalAnswer c → Option Cluster
  | .lock r, _ =>
    if (w.replicas r).mutex = none then
      some (w.setReplica r { w.replicas r with mutex := some i })
    else none
  | .unlock r _, _ => some (w.setReplica r { w.replicas r with mutex := none })
  | .operations r, operations => if operations = (w.replicas r).operations then some w else none
  | .setOperations r operations, _ =>
    some (w.setReplica r { w.replicas r with operations := operations })
  | .now, time => if time = w.clock then some w else none
  | .getLease, answer =>
    match w.lease, answer with
    | some lease, .ok lease' => if lease = lease' then some w else none
    | none, answer => if refused .notFound answer then some w else none
    | _, _ => none
  | .createLease holderIdentity acquireTime, answer =>
    match w.lease, answer with
    | none, .ok () => some (w.writeLease holderIdentity (some acquireTime))
    | some _, answer => if refused .alreadyExists answer then some w else none
    | _, _ => none
  | .updateLease lease', answer =>
    match w.lease with
    | some lease =>
      if lease.resourceVersion = lease'.resourceVersion then
        match answer with
        | .ok () => some (w.writeLease lease'.holderIdentity lease'.acquireTime)
        | .error _ => none
      else if refused .conflict answer then some w else none
    | none => if refused .notFound answer then some w else none
  | .deleteLease, answer =>
    match w.lease, answer with
    | some _, .ok () => some { w with lease := none }
    | none, answer => if refused .notFound answer then some w else none
    | _, _ => none
  | .list selector, answer =>
    match answer with
    | .ok resources => if resources.Perm (w.selected selector) then some w else none
    | .error _ => none
  | .create resource, answer =>
    match w.store.insert resource, answer with
    | some store, .ok () => some { w with store := store }
    | none, answer => if refused .alreadyExists answer then some w else none
    | _, _ => none
  | .get name, answer =>
    match w.store.get name, answer with
    | some resource, .ok resource' => if resource = resource' then some w else none
    | none, answer => if refused .notFound answer then some w else none
    | _, _ => none
  | .patch op, answer =>
    match w.store.get op.idempotencyToken, answer with
    | some _, .ok () => some { w with store := Store.patch w.store op }
    | none, answer => if refused .notFound answer then some w else none
    | _, _ => none
  | .patchStatus op, answer =>
    match w.store.get op.idempotencyToken, answer with
    | some _, .ok () => some w
    | none, answer => if refused .notFound answer then some w else none
    | _, _ => none
  | .delete name, answer =>
    match w.store.get name, answer with
    | some _, .ok () => some { w with store := w.store.erase name }
    | none, answer => if refused .notFound answer then some w else none
    | _, _ => none
  | .newUUID, _ => some w
  | .wait, _ => some w
  | .loops, _ => none

inductive Act (w : Cluster) (i : Nat) : JournalCall → Cluster → Prop where
  | none {c : JournalCall} : Act w i c w
  | lock {r : Nat} : (w.replicas r).mutex = Option.none →
      Act w i (.lock r) (w.setReplica r { w.replicas r with mutex := some i })
  | unlock {r : Nat} {created : Option (DeferredOperation × String)} :
      Act w i (.unlock r created) (w.setReplica r { w.replicas r with mutex := Option.none })
  | setOperations {r : Nat} {operations : List DeferredOperation} :
      Act w i (.setOperations r operations)
        (w.setReplica r { w.replicas r with operations := operations })
  | createLease {holderIdentity : String} {acquireTime : Nat} : w.lease = Option.none →
      Act w i (.createLease holderIdentity acquireTime)
        (w.writeLease holderIdentity (some acquireTime))
  | updateLease {lease lease' : QueueLease} : w.lease = some lease →
      lease.resourceVersion = lease'.resourceVersion →
      Act w i (.updateLease lease') (w.writeLease lease'.holderIdentity lease'.acquireTime)
  | deleteLease : Act w i .deleteLease { w with lease := Option.none }
  | create {resource : Resource} {store : Store} : w.store.insert resource = some store →
      Act w i (.create resource) { w with store := store }
  | patch {op : DeferredOperation} : Act w i (.patch op) { w with store := Store.patch w.store op }
  | delete {token : String} : Act w i (.delete token) { w with store := w.store.erase token }

variable {w w' : Cluster} {i : Nat}

attribute [local simp] serve

theorem Act.of_ite {c : JournalCall} {p : Prop} [Decidable p]
    (h : (if p then some w else Option.none) = some w') : w.Act i c w' := by
  obtain ⟨-, h⟩ := ite_none_right_eq_some.mp h
  cases h
  exact .none

theorem serve_act {c : JournalCall} {r : JournalAnswer c} (h : w.serve i c r = some w') :
    w.Act i c w' := by
  cases c
  case lock r =>
    obtain ⟨hm, h⟩ := ite_none_right_eq_some.mp h
    cases h
    exact .lock hm
  case unlock r created =>
    cases h
    exact .unlock
  case setOperations r operations =>
    cases h
    exact .setOperations
  case createLease holderIdentity acquireTime =>
    simp only [serve] at h
    split at h
    case h_1 _ _ hl =>
      cases h
      exact .createLease hl
    case h_2 => exact .of_ite h
    case h_3 => cases h
  case updateLease lease' =>
    simp only [serve] at h
    split at h
    case h_1 lease hl =>
      split at h
      case isTrue hv =>
        split at h
        · cases h
          exact .updateLease hl hv
        · cases h
      case isFalse => exact .of_ite h
    case h_2 => exact .of_ite h
  case deleteLease =>
    simp only [serve] at h
    split at h
    case h_1 =>
      cases h
      exact .deleteLease
    case h_2 => exact .of_ite h
    case h_3 => cases h
  case create resource =>
    simp only [serve] at h
    split at h
    case h_1 store _ hs =>
      cases h
      exact .create hs
    case h_2 => exact .of_ite h
    case h_3 => cases h
  case patch op =>
    simp only [serve] at h
    split at h
    case h_1 =>
      cases h
      exact .patch
    case h_2 => exact .of_ite h
    case h_3 => cases h
  case delete token =>
    simp only [serve] at h
    split at h
    case h_1 =>
      cases h
      exact .delete
    case h_2 => exact .of_ite h
    case h_3 => cases h
  -- the other calls only read
  all_goals
    have hsa : w' = w := by
      simp only [serve] at h
      grind
    rw [hsa]
    exact .none

theorem serve_createLease_ok {holderIdentity : String} {acquireTime : Nat}
    (h : w.serve i (.createLease holderIdentity acquireTime) (.ok ()) = some w') :
    w.lease = none ∧ w' = w.writeLease holderIdentity (some acquireTime) := by
  simp only [serve] at h
  split at h
  case h_1 hl _ => exact ⟨hl, (some.inj h).symm⟩
  case h_2 => simp [refused] at h
  case h_3 => cases h

theorem serve_updateLease_ok {lease' : QueueLease}
    (h : w.serve i (.updateLease lease') (.ok ()) = some w') :
    ∃ lease, w.lease = some lease ∧ lease.resourceVersion = lease'.resourceVersion ∧
      w' = w.writeLease lease'.holderIdentity lease'.acquireTime := by
  simp only [serve] at h
  split at h
  case h_1 lease hl =>
    split at h
    case isTrue hv => exact ⟨lease, hl, hv, (some.inj h).symm⟩
    case isFalse => simp [refused] at h
  case h_2 => simp [refused] at h

theorem serve_now {time : Nat} (h : w.serve i .now time = some w') : time = w.clock := by
  obtain ⟨heq, h⟩ := ite_none_right_eq_some.mp h
  exact heq

theorem serve_lock {r : Nat} (h : w.serve i (.lock r) () = some w') :
    w' = w.setReplica r { w.replicas r with mutex := some i } := by
  obtain ⟨-, h⟩ := ite_none_right_eq_some.mp h
  exact (some.inj h).symm

theorem serve_getLease_ok {lease : QueueLease} (h : w.serve i .getLease (.ok lease) = some w') :
    w.lease = some lease := by
  simp only [serve] at h
  split at h
  case h_1 lease₁ lease₂ hl ha =>
    obtain rfl := Except.ok.inj ha
    split at h
    case isTrue heq => rw [hl, heq]
    case isFalse => cases h
  case h_2 => simp [refused] at h
  case h_3 => cases h

theorem serve_list_ok {selector : Selector} {resources : List Resource}
    (h : w.serve i (.list selector) (.ok resources) = some w') :
    resources.Perm (w.selected selector) := by
  obtain ⟨hp, h⟩ := ite_none_right_eq_some.mp h
  exact hp

variable {resource : Resource}

theorem serve_create_ok (h : w.serve i (.create resource) (.ok ()) = some w') :
    ∃ store, w.store.insert resource = some store ∧ w' = { w with store := store } := by
  simp only [serve] at h
  split at h
  case h_1 store hs _ => exact ⟨store, hs, (some.inj h).symm⟩
  case h_2 => simp [refused] at h
  case h_3 => simp at h

theorem serve_create_error {err : ApiError}
    (h : w.serve i (.create resource) (.error err) = some w') : w' = w := by
  simp only [serve] at h
  split at h
  case h_1 heq => cases heq
  case h_2 =>
    split at h
    · exact (some.inj h).symm
    · simp at h
  case h_3 => simp at h

variable (hmem : resource ∈ w.store)

include hmem

theorem serve_get_iff {name : String} {answer : Except ApiError Resource}
    (hn : resource.name = name) :
    w.serve i (.get name) answer = some w' ↔ answer = .ok resource ∧ w' = w := by
  simp only [serve, Registry.get_eq_some.mpr ⟨hmem, hn⟩]
  rcases answer with err | resource'
  · simp
  · simp only [Except.ok.injEq]
    split
    case isTrue h => simp [h, eq_comm]
    case isFalse h => simp [Ne.symm h]

theorem serve_patch_iff {op : DeferredOperation} {answer : Except ApiError Unit}
    (hn : resource.name = op.idempotencyToken) :
    w.serve i (.patch op) answer = some w' ↔
      answer = .ok () ∧ w' = { w with store := Store.patch w.store op } := by
  simp only [serve, Registry.get_eq_some.mpr ⟨hmem, hn⟩]
  rcases answer with err | _ <;> simp [eq_comm]

theorem serve_delete_iff {token : String} {answer : Except ApiError Unit}
    (hn : resource.name = token) :
    w.serve i (.delete token) answer = some w' ↔
      answer = .ok () ∧ w' = { w with store := w.store.erase token } := by
  simp only [serve, Registry.get_eq_some.mpr ⟨hmem, hn⟩]
  rcases answer with err | _ <;> simp [eq_comm]

omit hmem

theorem mem_pendingOps_selected {selector : Selector} {op : DeferredOperation} :
    op ∈ pendingOps (w.selected selector) ↔ ∃ resource ∈ w.store,
      selector.selects resource = true ∧ isPendingOperation resource.op.status = true ∧
        resource.op = op := by
  simp only [pendingOps, selected, List.mem_filter, List.mem_map]
  constructor
  · rintro ⟨⟨resource, ⟨hmem, hs⟩, rfl⟩, hp⟩
    exact ⟨resource, hmem, hs, hp, rfl⟩
  · rintro ⟨resource, hmem, hs, hp, rfl⟩
    exact ⟨⟨resource, ⟨hmem, hs⟩, rfl⟩, hp⟩

theorem nodup_pendingOps_selected (w : Cluster) (selector : Selector) :
    ((pendingOps (w.selected selector)).map (·.idempotencyToken)).Nodup := by
  have hm : w.store.items.map Resource.name =
      (w.store.items.map Resource.op).map (·.idempotencyToken) := by simp [Resource.name]
  have hn := w.store.nodup
  rw [hm] at hn
  exact hn.sublist ((List.filter_sublist.trans (List.filter_sublist.map _)).map _)

theorem setReplica_replicas (w : Cluster) (r r' : Nat) (replica : Replica) :
    (w.setReplica r replica).replicas r' = if r' = r then replica else w.replicas r' :=
  Function.update_apply w.replicas r replica r'

end Cluster

def journal (cfg : Nat → JournalConfig) (r : Nat) : JournalConfig := { cfg r with replica := r }

/-- The goroutines of the replicas `0, …, n - 1`.  Time passes by the action. -/
def journalThreads (cfg : Nat → JournalConfig) (n : Nat) (init : Cluster) :
    Prog.Threads Nat JournalCall JournalJob Nat Unit Cluster JournalAnswer where
  init := init
  program
    | .createDeferredOperation r fuel op =>
      (createDeferredOperation (journal cfg r) fuel op).bind fun _ => .ret ()
    | .updateDeferredOperation r token retryCount lastError =>
      (updateDeferredOperation (journal cfg r) token retryCount lastError).bind fun _ => .ret ()
    | .updateDeferredOperationStatus r token status =>
      (updateDeferredOperationStatus (journal cfg r) token status).bind fun _ => .ret ()
    | .removeDeferredOperation r token =>
      (removeDeferredOperation (journal cfg r) token).bind fun _ => .ret ()
  start w i job :=
    if job.replica < n then some { w with jobs := Function.update w.jobs i (some job) } else none
  serve w i c r _ := w.serve i c r
  env w d := some { w with clock := w.clock + d }

abbrev JournalPool := Prog.Threads.Pool Nat JournalCall Cluster JournalAnswer

abbrev JournalEvent := Prog.Threads.Event Nat JournalCall JournalJob Nat Unit JournalAnswer

end PowerMaxCsi.Journal
