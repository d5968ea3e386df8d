import Mathlib.Algebra.Group.Int.Defs
import Mathlib.Algebra.Group.Nat.Defs
import PowerMaxCsi.Journal.VolumeJournal

/-!
# The replay of deferred operations

`ReconcileDeferredOperations` of `pkg/symmetrix/reconciliation.go`.  `ReconcileCall` adds the
callback, the context, the timer and the sort to the methods of the journal.
-/

namespace PowerMaxCsi.Journal

/-- An error, and whether it wraps `ErrUnsafeRDFState`. -/
structure ReconcileError where
  isUnsafeRDFState : Bool
  text : String
deriving DecidableEq, Repr

structure ReconciliationResult where
  token : String
  success : Bool
  error : Option ReconcileError
  (unsafeState maxRetries : Bool)
deriving DecidableEq, Repr

def ReconciliationResult.failed (token : String) (err : ReconcileError) : ReconciliationResult :=
  ⟨token, false, some err, false, false⟩

def maxReconciliationRetries : Nat := 10

inductive ReconcileCall where
  | journal (c : JournalCall)
  /-- `sort.Slice` by submission time, which is not stable. -/
  | sort (ops : List DeferredOperation)
  | ctxDone
  /-- `journal.GetReconciliationBackoff()`, in nanoseconds. -/
  | getReconciliationBackoff
  /-- Wait for the duration or until the context is done. -/
  | after (backoff : Int)
  | reconcileFunc (op : DeferredOperation)
deriving DecidableEq, Repr

abbrev ReconcileAnswer : ReconcileCall → Type
  | .journal c => JournalAnswer c
  | .sort _ => List DeferredOperation
  | .ctxDone => Option String
  | .getReconciliationBackoff => Int
  | .after _ => Option String
  | .reconcileFunc _ => Option ReconcileError

abbrev ReconcileProg := Prog ReconcileCall ReconcileAnswer

namespace Rcl

def journal {α : Type} (p : JournalProg α) : ReconcileProg α :=
  p.through ReconcileCall.journal fun _ r => r

def sort (ops : List DeferredOperation) : ReconcileProg (List DeferredOperation) :=
  Prog.ask (ReconcileCall.sort ops)

def ctxDone : ReconcileProg (Option String) := Prog.ask ReconcileCall.ctxDone

def getReconciliationBackoff : ReconcileProg Int := Prog.ask ReconcileCall.getReconciliationBackoff

/-- `time.After`, or `ctx.Done()`. -/
def after (backoff : Int) : ReconcileProg (Option String) := Prog.ask (ReconcileCall.after backoff)

def reconcileFunc (op : DeferredOperation) : ReconcileProg (Option ReconcileError) :=
  Prog.ask (ReconcileCall.reconcileFunc op)

end Rcl

/-- `backoffDuration`, in nanoseconds, with the overflow of a `time.Duration`. -/
def backoffDuration (base : Int) (retryCount : Nat) : Int :=
  let d := (base * 2 ^ retryCount).bmod (2 ^ 64)
  if d > 300000000000 then 300000000000 else d

structure Replayed where
  /-- The operation is appended to `nextPending`. -/
  next : Option DeferredOperation
  retryNeeded : Bool
  result : ReconciliationResult
deriving DecidableEq, Repr

def callReconcileFunc (j : JournalConfig) (op : DeferredOperation) : ReconcileProg Replayed := do
  match ← Rcl.reconcileFunc op with
  | some err =>
    if err.isUnsafeRDFState then
      let _ ← Rcl.journal (updateDeferredOperationStatus j op.idempotencyToken .terminal)
      return ⟨none, false, ⟨op.idempotencyToken, false, some err, true, false⟩⟩
    else
      let _ ← Rcl.journal
        (updateDeferredOperation j op.idempotencyToken (op.retryCount + 1) err.text)
      return ⟨some { op with retryCount := op.retryCount + 1, lastError := err.text }, true,
        .failed op.idempotencyToken err⟩
  | none =>
    match ← Rcl.journal (removeDeferredOperation j op.idempotencyToken) with
    | some err => return ⟨some op, false, .failed op.idempotencyToken ⟨false, err⟩⟩
    | none => return ⟨none, false, ⟨op.idempotencyToken, true, none, false, false⟩⟩

def replay (j : JournalConfig) (op : DeferredOperation) : ReconcileProg Replayed := do
  if op.retryCount ≥ maxReconciliationRetries then
    let _ ← Rcl.journal (updateDeferredOperationStatus j op.idempotencyToken .terminal)
    return ⟨none, false,
      ⟨op.idempotencyToken, false, some ⟨false, "max retries exceeded (10)"⟩, false, true⟩⟩
  else if op.retryCount > 0 then
    let base ← Rcl.getReconciliationBackoff
    match ← Rcl.after (backoffDuration base op.retryCount) with
    | some err => return ⟨some op, false, .failed op.idempotencyToken ⟨false, err⟩⟩
    | none => callReconcileFunc j op
  else callReconcileFunc j op

/-- `nextPending`, `retryNeeded` and `results` of a pass. -/
structure Pass where
  nextPending : List DeferredOperation
  retryNeeded : Bool
  results : List ReconciliationResult
deriving DecidableEq, Repr

def Pass.add (pass : Pass) (replayed : Replayed) : Pass :=
  ⟨pass.nextPending ++ replayed.next.toList, pass.retryNeeded || replayed.retryNeeded,
    pass.results ++ [replayed.result]⟩

def replayAll (j : JournalConfig) : List DeferredOperation → Pass → ReconcileProg Pass
  | [], pass => return pass
  | op :: ops, pass => do
    let replayed ← replay j op
    replayAll j ops (pass.add replayed)

def retryLoop (j : JournalConfig) :
    Nat → List DeferredOperation → List ReconciliationResult →
      ReconcileProg (List ReconciliationResult)
  | 0, _, _ => Rcl.journal Jrnl.loops
  | fuel + 1, pendingOps, results => do
    if pendingOps = [] then return results
    else
      match ← Rcl.ctxDone with
      | some err =>
        return results ++ pendingOps.map fun op => .failed op.idempotencyToken ⟨false, err⟩
      | none =>
        let pass ← replayAll j pendingOps ⟨[], false, results⟩
        if pass.retryNeeded then retryLoop j fuel pass.nextPending pass.results
        else return pass.results

def reconcileDeferredOperations (j : JournalConfig) (fuel : Nat) (arrayID : String) :
    ReconcileProg (List ReconciliationResult) := do
  match ← Rcl.journal (getDeferredOperations j arrayID) with
  | .error err => return [.failed "" ⟨false, err⟩]
  | .ok ops =>
    if ops = [] then return []
    else
      let pendingOps ← Rcl.sort ops
      retryLoop j fuel pendingOps []

end PowerMaxCsi.Journal
