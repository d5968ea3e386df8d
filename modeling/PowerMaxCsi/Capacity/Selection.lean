import Mathlib.Data.String.Basic
import PowerMaxCsi.Lib.GoMap
import PowerMaxCsi.Lib.Threads
import PowerMaxCsi.Service.DeleteVolume

/-!
# Selecting an array for a new volume

`service/capacity_selection.go`, and `CreateVolume` of `service/controller.go` around
`doCreateVolume`.  Each method of the cache takes effect at once.  Utilizations are of any linear
order `U`.  A request that has used up its fuel ends in the call `loops`.
-/

namespace PowerMaxCsi.Capacity

open Function

open Service (Code GrpcError PmaxError isConnectivityError)
open Strings

structure ArrayCapacityEntry (U : Type) where
  utilizationPercent : U
  /-- `none` for the zero time. -/
  lastPollTime : Option Nat
  available : Bool
  inFlight : Int32
deriving DecidableEq, Repr

structure Snapshot (U : Type) where
  utilizationPercent : U
  available : Bool
  inFlight : Int32
  known : Bool
deriving DecidableEq, Repr

abbrev CapacityCache (U : Type) := String → Option (ArrayCapacityEntry U)

namespace CapacityCache

variable {U : Type} [Zero U]

def newCapacityCache : CapacityCache U := fun _ => none

def getOrCreate (c : CapacityCache U) (arrayID : String) : ArrayCapacityEntry U :=
  (c arrayID).getD ⟨0, none, true, 0⟩

def modify (c : CapacityCache U) (arrayID : String)
    (f : ArrayCapacityEntry U → ArrayCapacityEntry U) : CapacityCache U :=
  update c arrayID (some (f (c.getOrCreate arrayID)))

def snapshot (c : CapacityCache U) (arrayID : String) : Snapshot U :=
  match c arrayID with
  | none => ⟨0, true, 0, false⟩
  | some e => ⟨e.utilizationPercent, e.available, e.inFlight, true⟩

def recordPollSuccess (c : CapacityCache U) (arrayID : String) (utilizationPercent : U)
    (now : Nat) : CapacityCache U :=
  c.modify arrayID fun e =>
    { e with
      utilizationPercent := utilizationPercent
      lastPollTime := some now
      available := true }

def recordPollFailure (c : CapacityCache U) (arrayID : String) (pollInterval now : Nat) :
    CapacityCache U :=
  c.modify arrayID fun e =>
    if e.lastPollTime.all fun last => pollInterval < now - last then { e with available := false }
    else e

def invalidate (c : CapacityCache U) (arrayID : String) : CapacityCache U :=
  c.modify arrayID fun e => { e with available := false }

/-- `incInFlight`, by 1, and `decInFlight`, by -1. -/
def addInFlight (c : CapacityCache U) (arrayID : String) (delta : Int32) : CapacityCache U :=
  c.modify arrayID fun e => { e with inFlight := e.inFlight + delta }

end CapacityCache

abbrev Topology := GoMap String String

structure TopologyRequirement where
  (preferred requisite : List Topology)

structure CreateVolumeRequest where
  /-- The parameter `SymmetrixIDParam`, empty if it is not given. -/
  symID : String
  accessibility : Option TopologyRequirement

structure SelectionConfig (U : Type) where
  /-- `capCache` is not nil. -/
  capCache : Bool
  capacityThresholdFull : U
  /-- `opts.StorageArrays`: the labels of the arrays. -/
  storageArrays : GoMap String (GoMap String String)

inductive CreateError where
  | status (err : GrpcError)
  | provisioning (err : PmaxError)
deriving DecidableEq, Repr

inductive CapacityCall where
  | rangeStorageArrays
  | snapshot (arrayID : String)
  | incInFlight (arrayID : String)
  | decInFlight (arrayID : String)
  | invalidate (arrayID : String)
  | doCreateVolume (symmetrixID : String)
  | respond (result : Except CreateError String)
  | loops
deriving DecidableEq

abbrev CapacityAnswer (U : Type) : CapacityCall → Type
  | .rangeStorageArrays => List String
  | .snapshot _ => Snapshot U
  | .incInFlight _ => Unit
  | .decInFlight _ => Unit
  | .invalidate _ => Unit
  | .doCreateVolume _ => Except PmaxError String
  | .respond _ => Unit
  | .loops => Empty

abbrev CapacityProg (U : Type) := Prog CapacityCall (CapacityAnswer U)

structure ArrayCandidate (U : Type) where
  id : String
  utilizationPercent : U
  inFlight : Int32
deriving DecidableEq, Repr

def allArraysUnavailableError (zone : String) (attempted : Nat) : GrpcError :=
  ⟨.resourceExhausted, "all arrays in zone " ++ (if zone = "" then "unknown" else zone) ++
    " are unavailable (" ++ toString attempted ++ " arrays attempted)"⟩

section

variable {U : Type} [LinearOrder U] [Zero U] (cfg : SelectionConfig U)

def ArrayCandidate.less (a b : ArrayCandidate U) : Bool :=
  if a.utilizationPercent ≠ b.utilizationPercent then a.utilizationPercent < b.utilizationPercent
  else if a.inFlight ≠ b.inFlight then a.inFlight < b.inFlight
  else a.id < b.id

def SelectionConfig.usable (snapshot : Snapshot U) : Bool :=
  snapshot.available &&
    !(0 < cfg.capacityThresholdFull && cfg.capacityThresholdFull ≤ snapshot.utilizationPercent)

def available (snapshots : List (String × Snapshot U)) : List (ArrayCandidate U) :=
  (snapshots.filter fun s => cfg.usable s.2).map fun s =>
    ⟨s.1, s.2.utilizationPercent, s.2.inFlight⟩

def selectFrom (zone : String) (snapshots : List (String × Snapshot U)) :
    Except GrpcError String :=
  match (available cfg snapshots).insertionSort fun a b => ¬ b.less a with
  | [] => .error (allArraysUnavailableError zone snapshots.length)
  | selected :: _ => .ok selected.id

def takeSnapshots : List String → CapacityProg U (List (String × Snapshot U))
  | [] => return []
  | id :: rest => do
    let snapshot ← Prog.ask (CapacityCall.snapshot id)
    let snapshots ← takeSnapshots rest
    return (id, snapshot) :: snapshots

def selectArray (zone : String) (candidates : List String) :
    CapacityProg U (Except GrpcError String) :=
  match candidates with
  | [] => return .error (allArraysUnavailableError zone 0)
  | first :: _ =>
    if !cfg.capCache then
      return .ok ((candidates.insertionSort (· ≤ ·)).headD first)
    else do
      let snapshots ← takeSnapshots candidates
      return selectFrom cfg zone snapshots

def SelectionConfig.matches (topology : Topology) (arrayID : String) : Bool :=
  match cfg.storageArrays.lookup arrayID with
  | none => false
  | some labels =>
    !labels.entries.isEmpty &&
      labels.entries.all fun label =>
        (topology.lookup label.1).any fun segment => equalFold segment label.2

def checkTopologyRequirements : List Topology → CapacityProg U (List String)
  | [] => return []
  | topology :: rest => do
    let ids ← Prog.ask CapacityCall.rangeStorageArrays
    let candidates ← checkTopologyRequirements rest
    return ids.filter (cfg.matches topology) ++ candidates

def matchingArrays (requirement : TopologyRequirement) : CapacityProg U (List String) := do
  match ← checkTopologyRequirements cfg requirement.preferred with
  | [] => checkTopologyRequirements cfg requirement.requisite
  | candidates => return candidates

def zoneFromTopologyRequirement (requirement : TopologyRequirement) : String :=
  ((requirement.preferred ++ requirement.requisite).findSome? fun topology =>
    (topology.lookup "topology.kubernetes.io/zone").filter (· ≠ "")).getD ""

def noSuitableArrayErr : GrpcError := ⟨.invalidArgument, "A SYMID parameter is required"⟩

def selectArrayFromTopologyRequirement (requirement : Option TopologyRequirement) :
    CapacityProg U (Except GrpcError String) :=
  match requirement with
  | none => return .error noSuitableArrayErr
  | some requirement =>
    if requirement.requisite.isEmpty && requirement.preferred.isEmpty then
      return .error noSuitableArrayErr
    else if cfg.storageArrays.entries.isEmpty then return .error noSuitableArrayErr
    else do
      match ← matchingArrays cfg requirement with
      | [] => return .error noSuitableArrayErr
      -- the only candidate is taken as it is
      | [candidate] => return .ok candidate
      | candidates => selectArray cfg (zoneFromTopologyRequirement requirement) candidates

def isArrayUnavailable (arrayID : String) : CapacityProg U (Option String) := do
  if !cfg.capCache then return none
  else
    let snapshot ← Prog.ask (CapacityCall.snapshot arrayID)
    if !snapshot.known then return none
    else if !snapshot.available then
      return some "no successful capacity/health poll within the configured capacity-poll-interval"
    else if 0 < cfg.capacityThresholdFull ∧
        cfg.capacityThresholdFull ≤ snapshot.utilizationPercent then
      return some "array is at or above the configured capacity-threshold-full"
    else return none

def maxFailoverRetries : Nat := 3

def ifCached (c : CapacityCall) : CapacityProg U Unit :=
  if cfg.capCache then (Prog.ask c).bind fun _ => .ret () else return ()

def handleConnectivityFailover (zone failedArrayID : String) (candidates : List String)
    (attemptCount : Nat) : CapacityProg U (Except GrpcError String) := do
  ifCached cfg (.invalidate failedArrayID)
  if maxFailoverRetries ≤ attemptCount then
    return .error ⟨.resourceExhausted, "failover retry limit reached after " ++
      toString attemptCount ++ " attempts in zone " ++ zone⟩
  else selectArray cfg zone candidates

def attempt (symmIDFoundInAZ : Bool) (zone : String) (candidates : List String) :
    (fuel attemptCount : Nat) → (symmetrixID : String) → CapacityProg U (Except CreateError String)
  | 0, _, _ => (Prog.ask CapacityCall.loops).bind Empty.elim
  | fuel + 1, attemptCount, symmetrixID => do
    ifCached cfg (.incInFlight symmetrixID)
    let result ← Prog.ask (CapacityCall.doCreateVolume symmetrixID)
    ifCached cfg (.decInFlight symmetrixID)
    match result with
    | .ok volumeID => return .ok volumeID
    | .error err =>
      if !symmIDFoundInAZ || !isConnectivityError err.text err.timeout then
        return .error (.provisioning err)
      else
        match ← handleConnectivityFailover cfg zone symmetrixID candidates
            (attemptCount + 1) with
        | .error failoverErr => return .error (.status failoverErr)
        | .ok nextArrayID =>
          attempt symmIDFoundInAZ zone candidates fuel (attemptCount + 1) nextArrayID

def createVolume (fuel : Nat) (req : CreateVolumeRequest) :
    CapacityProg U (Except CreateError String) := do
  if req.symID = "" then
    match ← selectArrayFromTopologyRequirement cfg req.accessibility with
    | .error err => return .error (.status err)
    | .ok symmetrixID =>
      let requirement := req.accessibility.getD ⟨[], []⟩
      let candidates ← matchingArrays cfg requirement
      attempt cfg true (zoneFromTopologyRequirement requirement) candidates fuel 0 symmetrixID
  else
    match ← isArrayUnavailable cfg req.symID with
    | some reason => return .error (.status ⟨.failedPrecondition,
        "targeted array " ++ req.symID ++ " is unavailable: " ++ reason⟩)
    | none => attempt cfg false "" [] fuel 0 req.symID

end

structure CapacityWorld (U : Type) where
  cache : CapacityCache U
  request : Nat → Option CreateVolumeRequest
  attempts : Nat → List String
  failed : Nat → List String
  before : Nat → String → Int32
  others : Nat → String → Int32

inductive Poll (U : Type) where
  | success (arrayID : String) (utilizationPercent : U) (now : Nat)
  | failure (arrayID : String) (pollInterval now : Nat)

namespace CapacityWorld

variable {U : Type} [Zero U]

def inFlight (w : CapacityWorld U) (arrayID : String) : Int32 :=
  (w.cache.getOrCreate arrayID).inFlight

def empty : CapacityWorld U :=
  ⟨.newCapacityCache, fun _ => none, fun _ => [], fun _ => [], fun _ _ => 0, fun _ _ => 0⟩

def start (w : CapacityWorld U) (i : Nat) (req : CreateVolumeRequest) : CapacityWorld U :=
  { w with
    request := update w.request i (some req)
    attempts := update w.attempts i []
    failed := update w.failed i []
    before := update w.before i w.inFlight
    others := update w.others i fun _ => 0 }

def addInFlight (w : CapacityWorld U) (i : Nat) (arrayID : String) (delta : Int32) :
    CapacityWorld U :=
  { w with
    cache := w.cache.addInFlight arrayID delta
    others := fun j id =>
      if j ≠ i ∧ id = arrayID then w.others j id + delta else w.others j id }

def unreached : Except PmaxError String → Bool
  | .ok _ => false
  | .error err => isConnectivityError err.text err.timeout

def attempted (w : CapacityWorld U) (i : Nat) (arrayID : String)
    (result : Except PmaxError String) : CapacityWorld U :=
  { w with
    attempts := update w.attempts i (w.attempts i ++ [arrayID])
    failed := update w.failed i (w.failed i ++ if unreached result then [arrayID] else []) }

def serve [DecidableEq U] (cfg : SelectionConfig U) (w : CapacityWorld U) (i : Nat) :
    (c : CapacityCall) → CapacityAnswer U c → Option (CapacityWorld U)
  | .rangeStorageArrays, ids => if ids.Perm cfg.storageArrays.keys then some w else none
  | .snapshot arrayID, snapshot => if w.cache.snapshot arrayID = snapshot then some w else none
  | .incInFlight arrayID, _ => some (w.addInFlight i arrayID 1)
  | .decInFlight arrayID, _ => some (w.addInFlight i arrayID (-1))
  | .invalidate arrayID, _ => some { w with cache := w.cache.invalidate arrayID }
  | .doCreateVolume symmetrixID, result => some (w.attempted i symmetrixID result)
  | .respond _, _ => some { w with failed := update w.failed i [] }
  | .loops, r => r.elim

def poll (w : CapacityWorld U) : Poll U → CapacityWorld U
  | .success arrayID utilizationPercent now =>
    { w with cache := w.cache.recordPollSuccess arrayID utilizationPercent now }
  | .failure arrayID pollInterval now =>
    { w with cache := w.cache.recordPollFailure arrayID pollInterval now }

end CapacityWorld

def createThreads {U : Type} [LinearOrder U] [Zero U] (cfg : SelectionConfig U) (fuel : Nat) :
    Prog.Threads Nat CapacityCall CreateVolumeRequest (Poll U) Unit (CapacityWorld U)
      (CapacityAnswer U) where
  init := .empty
  program req := (createVolume cfg fuel req).bind fun result => Prog.ask (CapacityCall.respond result)
  start w i req := some (w.start i req)
  serve w i c r _ := w.serve cfg i c r
  env w poll := some (w.poll poll)

abbrev CreatePool (U : Type) :=
  Prog.Threads.Pool Nat CapacityCall (CapacityWorld U) (CapacityAnswer U)

abbrev CreateEvent (U : Type) :=
  Prog.Threads.Event Nat CapacityCall CreateVolumeRequest (Poll U) Unit (CapacityAnswer U)

end PowerMaxCsi.Capacity
