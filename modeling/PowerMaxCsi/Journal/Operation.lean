import Mathlib.Data.List.Basic

/-!
# Deferred operations

`pkg/symmetrix/volumejournal.go`, without the fields that only the recovery of a pairing reads.
-/

namespace PowerMaxCsi.Journal

inductive OperationType where
  | metroPairing
  | deviceCleanup
deriving DecidableEq, Repr

/-- The status of an operation: one of the four constants, or another text. -/
inductive OpStatus where
  | pending
  | failed
  | terminal
  | completed
  | other (text : String)
deriving DecidableEq, Repr

structure DeferredOperation where
  idempotencyToken : String
  operationType : OperationType
  (volumeID arrayID rdfGroupNo : String)
  (submissionTime retryCount : Nat)
  (lastError driverName instanceUID : String)
  status : OpStatus
deriving DecidableEq, Repr

def isPendingOperation (status : OpStatus) : Bool :=
  status ≠ .terminal ∧ status ≠ .completed

/-- The compound key by which duplicates are found. -/
structure OpKey where
  volumeID : String
  operationType : OperationType
  (arrayID rdfGroupNo : String)
deriving DecidableEq, Repr

def DeferredOperation.key (op : DeferredOperation) : OpKey :=
  ⟨op.volumeID, op.operationType, op.arrayID, op.rdfGroupNo⟩

end PowerMaxCsi.Journal
