import PowerMaxCsi.Journal.VolumeJournal

/-!
# The lease of a reconciliation

`triggerReconciliation` and `tryAcquireMetroReconcileLease` of `service/service.go`.  Times are in
microseconds, the resolution of the times in a lease.
-/

namespace PowerMaxCsi.Metro

open Journal (ApiError)

def minute : Nat := 60000000

def metroReconcileLeaseDuration : Nat := 12 * minute

def isLeaseNameChar (c : Char) : Bool :=
  ('a' ≤ c && c ≤ 'z') || ('0' ≤ c && c ≤ '9') || c = '-'

@[irreducible] def metroLeaseNameForArray (arrayID : String) : String :=
  let name := "csi-pmax-metro-reconcile-" ++ Strings.toLower arrayID
  String.ofList ((name.toList.map fun c => if isLeaseNameChar c then c else '-').take 253)

structure LeaseSpec where
  holderIdentity : Option String
  (leaseDurationSeconds acquireTime renewTime : Option Nat)
deriving DecidableEq, Repr

structure Lease where
  spec : LeaseSpec
  resourceVersion : Nat
deriving DecidableEq, Repr

def leaseSpec (podName : String) (now : Nat) : LeaseSpec where
  holderIdentity := some podName
  leaseDurationSeconds := some (metroReconcileLeaseDuration / 1000000)
  acquireTime := some now
  renewTime := some now

def LeaseSpec.unexpired (spec : LeaseSpec) (now : Nat) : Bool :=
  match spec.renewTime, spec.leaseDurationSeconds with
  | some renewTime, some seconds => now < renewTime + seconds * 1000000
  | _, _ => false

inductive LeaseCall where
  | loadOrStore (arrayID : String)
  | deleteInFlight (arrayID : String)
  | getClient
  | now
  | createLease (name : String) (spec : LeaseSpec)
  | getLease (name : String)
  | updateLease (name : String) (lease : Lease)
  | deleteLease (name : String)
  | emitMetroEvent (reason : String)
  | reconcile (arrayID : String)
deriving DecidableEq, Repr

abbrev LeaseAnswer : LeaseCall → Type
  | .loadOrStore _ => Bool
  | .deleteInFlight _ => Unit
  | .getClient => Bool
  | .now => Nat
  | .createLease _ _ => Except ApiError Unit
  | .getLease _ => Except ApiError Lease
  | .updateLease _ _ => Except ApiError Unit
  | .deleteLease _ => Except ApiError Unit
  | .emitMetroEvent _ => Unit
  | .reconcile _ => Unit

abbrev LeaseProg := Prog LeaseCall LeaseAnswer

namespace Rec

def loadOrStore (arrayID : String) : LeaseProg Bool := Prog.ask (LeaseCall.loadOrStore arrayID)

def deleteInFlight (arrayID : String) : LeaseProg Unit :=
  Prog.ask (LeaseCall.deleteInFlight arrayID)

def getClient : LeaseProg Bool := Prog.ask LeaseCall.getClient

def now : LeaseProg Nat := Prog.ask LeaseCall.now

def createLease (name : String) (spec : LeaseSpec) : LeaseProg (Except ApiError Unit) :=
  Prog.ask (LeaseCall.createLease name spec)

def getLease (name : String) : LeaseProg (Except ApiError Lease) :=
  Prog.ask (LeaseCall.getLease name)

def updateLease (name : String) (lease : Lease) : LeaseProg (Except ApiError Unit) :=
  Prog.ask (LeaseCall.updateLease name lease)

def deleteLease (name : String) : LeaseProg (Except ApiError Unit) :=
  Prog.ask (LeaseCall.deleteLease name)

def emitMetroEvent (reason : String) : LeaseProg Unit := Prog.ask (LeaseCall.emitMetroEvent reason)

def reconcile (arrayID : String) : LeaseProg Unit := Prog.ask (LeaseCall.reconcile arrayID)

end Rec

inductive Acquired where
  | no
  /-- There is no client, and nothing to release. -/
  | withoutLease
  /-- The lease is acquired, and is released by deleting it. -/
  | lease (name : String)
deriving DecidableEq, Repr

/-- The part of `tryAcquireMetroReconcileLease` after the lease was found to exist. -/
def takeOverLease (podName leaseName : String) (now : Nat) : LeaseProg Acquired := do
  match ← Rec.getLease leaseName with
  | .error _ =>
    Rec.emitMetroEvent "MetroLeaseError"
    return .no
  | .ok existing =>
    if existing.spec.holderIdentity = some podName then return .lease leaseName
    else
      let time ← Rec.now
      if existing.spec.unexpired time then return .no
      else
        match ← Rec.updateLease leaseName ⟨leaseSpec podName now, existing.resourceVersion⟩ with
        | .error _ => return .no
        | .ok () => return .lease leaseName

def tryAcquireMetroReconcileLease (podName arrayID : String) : LeaseProg Acquired := do
  if !(← Rec.getClient) then return .withoutLease
  else
    let leaseName := metroLeaseNameForArray arrayID
    let now ← Rec.now
    match ← Rec.createLease leaseName (leaseSpec podName now) with
    | .ok () => return .lease leaseName
    | .error err =>
      if err.reason = .alreadyExists then takeOverLease podName leaseName now
      else
        Rec.emitMetroEvent "MetroLeaseError"
        return .no

def triggerReconciliation (podName arrayID : String) : LeaseProg Unit := do
  if ← Rec.loadOrStore arrayID then return ()
  else
    match ← tryAcquireMetroReconcileLease podName arrayID with
    | .no => Rec.deleteInFlight arrayID
    | .withoutLease =>
      Rec.reconcile arrayID
      Rec.deleteInFlight arrayID
    | .lease name =>
      Rec.reconcile arrayID
      let _ ← Rec.deleteLease name
      Rec.deleteInFlight arrayID

end PowerMaxCsi.Metro
