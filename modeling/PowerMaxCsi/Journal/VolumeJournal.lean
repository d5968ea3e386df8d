import PowerMaxCsi.Journal.Operation
import PowerMaxCsi.Lib.Strings
import PowerMaxCsi.Lib.Threads

/-!
# The volume journal

`pkg/symmetrix/volumejournal.go` and `volumejournal_crd.go` with a CRD backend, as programs over
`JournalCall`.  A resource is its labels and the operation in it; its encoding and the log lines are
left out.
-/

namespace PowerMaxCsi.Journal

open Strings List

structure JournalConfig where
  replica : Nat
  (holderIdentity driverName instanceUID : String)
  hardLimit : Int
deriving DecidableEq, Repr

/-- A `VolumeJournal` resource; its name is the token of the operation. -/
structure Resource where
  (labelArrayID labelDriverType labelDriverName labelInstanceUID : String)
  op : DeferredOperation
deriving DecidableEq, Repr

def Resource.name (resource : Resource) : String := resource.op.idempotencyToken

structure Selector where
  (driverName instanceUID arrayID : String)
deriving DecidableEq, Repr

/-- A resource meets a label selector; an empty value selects everything. -/
def Selector.selects (selector : Selector) (resource : Resource) : Bool :=
  resource.labelDriverType = "powermax" ∧
    (selector.driverName = "" ∨ resource.labelDriverName = selector.driverName) ∧
    (selector.instanceUID = "" ∨ resource.labelInstanceUID = selector.instanceUID) ∧
    (selector.arrayID = "" ∨ resource.labelArrayID = selector.arrayID)

/-- The acquire time is `none` if it cannot be parsed. -/
structure QueueLease where
  holderIdentity : String
  acquireTime : Option Nat
  resourceVersion : Nat
deriving DecidableEq, Repr

inductive ApiReason where
  | notFound
  | alreadyExists
  | conflict
  | other
deriving DecidableEq, Repr

structure ApiError where
  reason : ApiReason
  text : String
deriving DecidableEq, Repr

/-- `apierrors.IsNotFound`, or the text says so. -/
def ApiError.isNotFound (err : ApiError) : Bool :=
  err.reason = .notFound || contains (toLower err.text) "not found"

/-- `apierrors.IsConflict`, or the text says so. -/
def ApiError.isConflict (err : ApiError) : Bool :=
  err.reason = .conflict || contains (toLower err.text) "conflict"

inductive JournalCall where
  | lock (replica : Nat)
  /-- The deferred `j.mu.Unlock()`, with the operation and the token that are returned, if any. -/
  | unlock (replica : Nat) (created : Option (DeferredOperation × String))
  | operations (replica : Nat)
  | setOperations (replica : Nat) (operations : List DeferredOperation)
  | newUUID
  | now
  | wait
  | getLease
  | createLease (holderIdentity : String) (acquireTime : Nat)
  | updateLease (lease : QueueLease)
  | deleteLease
  | list (selector : Selector)
  | create (resource : Resource)
  | get (name : String)
  | patch (op : DeferredOperation)
  /-- The patch of the status, which is not read. -/
  | patchStatus (op : DeferredOperation)
  | delete (name : String)
  | loops
deriving DecidableEq, Repr

abbrev JournalAnswer : JournalCall → Type
  | .lock _ => Unit
  | .unlock _ _ => Unit
  | .operations _ => List DeferredOperation
  | .setOperations _ _ => Unit
  | .newUUID => String
  | .now => Nat
  | .wait => Except String Unit
  | .getLease => Except ApiError QueueLease
  | .createLease _ _ => Except ApiError Unit
  | .updateLease _ => Except ApiError Unit
  | .deleteLease => Except ApiError Unit
  | .list _ => Except ApiError (List Resource)
  | .create _ => Except ApiError Unit
  | .get _ => Except ApiError Resource
  | .patch _ => Except ApiError Unit
  | .patchStatus _ => Except ApiError Unit
  | .delete _ => Except ApiError Unit
  | .loops => Empty

abbrev JournalProg := Prog JournalCall JournalAnswer

namespace Jrnl

def lock (replica : Nat) : JournalProg Unit := Prog.ask (JournalCall.lock replica)

def unlock (replica : Nat) (created : Option (DeferredOperation × String)) : JournalProg Unit :=
  Prog.ask (JournalCall.unlock replica created)

def operations (replica : Nat) : JournalProg (List DeferredOperation) :=
  Prog.ask (JournalCall.operations replica)

def setOperations (replica : Nat) (operations : List DeferredOperation) : JournalProg Unit :=
  Prog.ask (JournalCall.setOperations replica operations)

def newUUID : JournalProg String := Prog.ask JournalCall.newUUID

def now : JournalProg Nat := Prog.ask JournalCall.now

def wait : JournalProg (Except String Unit) := Prog.ask JournalCall.wait

def getLease : JournalProg (Except ApiError QueueLease) := Prog.ask JournalCall.getLease

def createLease (holderIdentity : String) (acquireTime : Nat) : JournalProg (Except ApiError Unit) :=
  Prog.ask (JournalCall.createLease holderIdentity acquireTime)

def updateLease (lease : QueueLease) : JournalProg (Except ApiError Unit) :=
  Prog.ask (JournalCall.updateLease lease)

def deleteLease : JournalProg (Except ApiError Unit) := Prog.ask JournalCall.deleteLease

def list (selector : Selector) : JournalProg (Except ApiError (List Resource)) :=
  Prog.ask (JournalCall.list selector)

def create (resource : Resource) : JournalProg (Except ApiError Unit) :=
  Prog.ask (JournalCall.create resource)

def get (name : String) : JournalProg (Except ApiError Resource) := Prog.ask (JournalCall.get name)

def patch (op : DeferredOperation) : JournalProg (Except ApiError Unit) :=
  Prog.ask (JournalCall.patch op)

def patchStatus (op : DeferredOperation) : JournalProg (Except ApiError Unit) :=
  Prog.ask (JournalCall.patchStatus op)

def delete (name : String) : JournalProg (Except ApiError Unit) :=
  Prog.ask (JournalCall.delete name)

def loops {α : Type} : JournalProg α := .call JournalCall.loops Empty.elim

end Jrnl

def crdOpToUnstructured (op : DeferredOperation) : Resource :=
  ⟨op.arrayID, "powermax", op.driverName, op.instanceUID, op⟩

def ownsResource (j : JournalConfig) (resource : Resource) : Bool :=
  resource.labelDriverType = "powermax" ∧
    (j.driverName = "" ∨ resource.labelDriverName = j.driverName) ∧
    (j.instanceUID = "" ∨ resource.labelInstanceUID = j.instanceUID)

/-- `getPowerMaxResource`: `none` for a resource of another owner. -/
def getPowerMaxResource (j : JournalConfig) (token : String) :
    JournalProg (Except String (Option Resource)) := do
  match ← Jrnl.get token with
  | .error err => return .error err.text
  | .ok resource => return .ok (if ownsResource j resource then some resource else none)

def crdCreate (op : DeferredOperation) : JournalProg (Option String) := do
  match ← Jrnl.create (crdOpToUnstructured op) with
  | .error err => return some err.text
  | .ok () => return none

def crdUpdate (j : JournalConfig) (op : DeferredOperation) : JournalProg (Option String) := do
  match ← getPowerMaxResource j op.idempotencyToken with
  | .error err => return some err
  | .ok none => return none
  | .ok (some _) =>
    match ← Jrnl.patch op with
    | .error err => return some err.text
    | .ok () =>
      match ← Jrnl.patchStatus op with
      | .error err => return some err.text
      | .ok () => return none

def crdDelete (j : JournalConfig) (token : String) : JournalProg (Option String) := do
  match ← getPowerMaxResource j token with
  | .error err => return some err
  | .ok none => return none
  | .ok (some _) =>
    match ← Jrnl.delete token with
    | .error err => return some err.text
    | .ok () => return none

def pendingOps (resources : List Resource) : List DeferredOperation :=
  (resources.map Resource.op).filter fun op => isPendingOperation op.status

def crdList (j : JournalConfig) (arrayID : String) :
    JournalProg (Except String (List DeferredOperation)) := do
  match ← Jrnl.list ⟨j.driverName, j.instanceUID, arrayID⟩ with
  | .error err => return .error ("crdJournal: list: " ++ err.text)
  | .ok resources => return .ok (pendingOps resources)

def volumeJournalLeaseDuration : Nat := 30000000000

def queueBusy : String := "VolumeJournal queue is busy"

def acquireQueueLease (j : JournalConfig) : JournalProg (Option String) := do
  let now ← Jrnl.now
  match ← Jrnl.getLease with
  | .error err =>
    if err.isNotFound then
      match ← Jrnl.createLease j.holderIdentity now with
      | .error err =>
        return some (if contains (toLower err.text) "already exists" then queueBusy else err.text)
      | .ok () => return none
    else return some err.text
  | .ok lease =>
    if lease.holderIdentity ≠ j.holderIdentity ∧
        lease.acquireTime.any fun acquireTime => now < acquireTime + volumeJournalLeaseDuration
      then return some queueBusy
    else if lease.holderIdentity ≠ j.holderIdentity ∧ lease.acquireTime = none then
      return some "VolumeJournal queue lease has invalid acquireTime"
    else
      match ← Jrnl.updateLease ⟨j.holderIdentity, some now, lease.resourceVersion⟩ with
      | .error err => return some (if err.isConflict then queueBusy else err.text)
      | .ok () => return none

def awaitQueueLease (j : JournalConfig) : Nat → JournalProg (Option String)
  | 0 => Jrnl.loops
  | fuel + 1 => do
    match ← acquireQueueLease j with
    | none => return none
    | some err =>
      if contains err queueBusy then
        match ← Jrnl.wait with
        | .error err => return some err
        | .ok () => awaitQueueLease j fuel
      else return some err

/-- `withQueueLease`; an error of `releaseQueueLease` is only logged. -/
def withQueueLease {α : Type} (j : JournalConfig) (fuel : Nat) (fn : JournalProg (Except String α)) :
    JournalProg (Except String α) := do
  match ← awaitQueueLease j fuel with
  | some err => return .error err
  | none =>
    let result ← fn
    let _ ← Jrnl.deleteLease
    return result

def queueHardLimit : Int := 100

def errQueueFull : String := "deferred operation queue is full"

/-- Under the lease: the token of a duplicate, or the operation is created. -/
def createUnderLease (j : JournalConfig) (limit : Int) (op : DeferredOperation) :
    JournalProg (Except String (Option String)) := do
  match ← crdList j "" with
  | .error err => return .error ("check queue depth: " ++ err)
  | .ok sharedOps =>
    if (sharedOps.length : Int) ≥ limit then return .error errQueueFull
    else
      match sharedOps.find? fun existing => existing.key = op.key with
      | some existing => return .ok (some existing.idempotencyToken)
      | none =>
        match ← crdCreate op with
        | some err => return .error err
        | none => return .ok none

def createDeferredOperation (j : JournalConfig) (fuel : Nat) (op : DeferredOperation) :
    JournalProg (Except String String) := do
  Jrnl.lock j.replica
  let limit := if j.hardLimit ≤ 0 then queueHardLimit else j.hardLimit
  let operations ← Jrnl.operations j.replica
  match operations.find? fun existing =>
      isPendingOperation existing.status ∧ existing.key = op.key with
  | some existing =>
    Jrnl.unlock j.replica (some (op, existing.idempotencyToken))
    return .ok existing.idempotencyToken
  | none =>
    let token ← Jrnl.newUUID
    let time ← Jrnl.now
    let newOp := { op with
      idempotencyToken := token, submissionTime := time, retryCount := 0, status := .pending }
    match ← withQueueLease j fuel (createUnderLease j limit newOp) with
    | .error err =>
      Jrnl.unlock j.replica none
      return .error ("crdJournal: persist VolumeJournal CR for " ++ op.volumeID ++ ": " ++ err)
    | .ok (some duplicateToken) =>
      Jrnl.unlock j.replica (some (op, duplicateToken))
      return .ok duplicateToken
    | .ok none =>
      Jrnl.setOperations j.replica (operations ++ [newOp])
      Jrnl.unlock j.replica (some (op, token))
      return .ok token

def tokenNotFound (token : String) : String :=
  "deferred operation with token " ++ token ++ " not found"

def changeFirst (token : String) (change : DeferredOperation → DeferredOperation) :
    List DeferredOperation → List DeferredOperation
  | [] => []
  | op :: ops =>
    if op.idempotencyToken = token then change op :: ops
    else op :: changeFirst token change ops

/-- An update of the journal: the operation is changed in the slice, and then in the
cluster. -/
def updateOperation (j : JournalConfig) (token : String)
    (change : DeferredOperation → DeferredOperation) : JournalProg (Option String) := do
  Jrnl.lock j.replica
  let operations ← Jrnl.operations j.replica
  match operations.find? fun op => op.idempotencyToken = token with
  | none =>
    Jrnl.unlock j.replica none
    return some (tokenNotFound token)
  | some op =>
    Jrnl.setOperations j.replica (changeFirst token change operations)
    let crdErr ← crdUpdate j (change op)
    Jrnl.unlock j.replica none
    return crdErr.map fun err => "crdJournal: update VolumeJournal CR " ++ token ++ ": " ++ err

def retried (retryCount : Nat) (lastError : String) (op : DeferredOperation) : DeferredOperation :=
  { op with
    retryCount := retryCount
    lastError := lastError
    status := if op.status ≠ .terminal ∧ op.status ≠ .completed then .failed else op.status }

def updateDeferredOperation (j : JournalConfig) (token : String) (retryCount : Nat)
    (lastError : String) : JournalProg (Option String) :=
  updateOperation j token (retried retryCount lastError)

def updateDeferredOperationStatus (j : JournalConfig) (token : String) (status : OpStatus) :
    JournalProg (Option String) :=
  updateOperation j token fun op => { op with status := status }

def removeDeferredOperation (j : JournalConfig) (token : String) : JournalProg (Option String) := do
  Jrnl.lock j.replica
  let operations ← Jrnl.operations j.replica
  match operations.find? fun op => op.idempotencyToken = token with
  | none =>
    Jrnl.unlock j.replica none
    return some (tokenNotFound token)
  | some _ =>
    match ← crdDelete j token with
    | some err =>
      Jrnl.unlock j.replica none
      return some ("crdJournal: delete VolumeJournal CR " ++ token ++ ": " ++ err)
    | none =>
      Jrnl.setOperations j.replica (operations.eraseP fun op => op.idempotencyToken = token)
      Jrnl.unlock j.replica none
      return none

def getDeferredOperations (j : JournalConfig) (arrayID : String) :
    JournalProg (Except String (List DeferredOperation)) :=
  crdList j arrayID

def KeepsKey (change : DeferredOperation → DeferredOperation) : Prop :=
  ∀ op, (change op).idempotencyToken = op.idempotencyToken ∧ (change op).key = op.key

theorem keepsKey_retried (retryCount : Nat) (lastError : String) :
    KeepsKey (retried retryCount lastError) := fun _ => ⟨rfl, rfl⟩

theorem keepsKey_status (status : OpStatus) :
    KeepsKey fun op => { op with status := status } := fun _ => ⟨rfl, rfl⟩

section

variable {token : String} {change : DeferredOperation → DeferredOperation}
  {operations : List DeferredOperation}

theorem changeFirst_map (hc : KeepsKey change) :
    (changeFirst token change operations).map (·.idempotencyToken) =
      operations.map (·.idempotencyToken) := by
  induction operations with
  | nil => rfl
  | cons op ops ih =>
    rw [changeFirst]
    split
    · rw [map_cons, map_cons, (hc op).1]
    · rw [map_cons, map_cons, ih]

variable {op : DeferredOperation}

theorem change_mem_changeFirst (hf : operations.find? (·.idempotencyToken = token) = some op) :
    change op ∈ changeFirst token change operations := by
  induction operations with
  | nil => simp at hf
  | cons op' ops ih =>
    rw [changeFirst]
    rw [List.find?_cons] at hf
    split
    case isTrue h =>
      simp only [h, decide_true, Option.some.injEq] at hf
      rw [hf]
      exact mem_cons_self
    case isFalse h =>
      simp only [h] at hf
      exact mem_cons_of_mem _ (ih hf)

theorem mem_of_mem_changeFirst (hc : KeepsKey change)
    (hop : op ∈ changeFirst token change operations) (hne : op.idempotencyToken ≠ token) :
    op ∈ operations := by
  induction operations with
  | nil => exact hop
  | cons op' ops ih =>
    rw [changeFirst] at hop
    split at hop
    case isTrue h =>
      rcases mem_cons.mp hop with rfl | hop
      · exact absurd ((hc op').1.trans h) hne
      · exact mem_cons_of_mem _ hop
    case isFalse =>
      rcases mem_cons.mp hop with rfl | hop
      · exact mem_cons_self
      · exact mem_cons_of_mem _ (ih hop)

theorem token_ne_of_mem_eraseP (hn : (operations.map (·.idempotencyToken)).Nodup)
    (hop : op ∈ operations.eraseP (·.idempotencyToken = token)) : op.idempotencyToken ≠ token := by
  have he : (operations.eraseP (·.idempotencyToken = token)).map (·.idempotencyToken) =
      (operations.map (·.idempotencyToken)).erase token := by
    rw [erase_eq_eraseP', eraseP_map]
    rfl
  have hmem := mem_map_of_mem (f := (·.idempotencyToken)) hop
  rw [he] at hmem
  exact (hn.mem_erase_iff.mp hmem).1

end

end PowerMaxCsi.Journal
