import PowerMaxCsi.Lib.Singleflight
import PowerMaxCsi.Lib.Threads
import PowerMaxCsi.Metro.Recovery

/-!
# Checks that share one round trip

`logMetroStateCheck` of `service/service.go` and the `MetroStateCache` of `pkg/symmetrix/metro.go`.
The verdict reaches the caller in a local variable.  Times are in nanoseconds.
-/

namespace PowerMaxCsi.Metro

open Service (Code GrpcError)
open Singleflight (Role)

abbrev Verdict := Option GrpcError

/-- `metroStateCacheKey`, also the key in `metroStateCheckGroup`. -/
def metroStateCacheKey (localSymID remoteSymID : String) : String :=
  localSymID ++ ":" ++ remoteSymID

structure MetroStateCacheEntry where
  entry : Except MetroError MetroState
  expiresAt : Nat

def metroStateCacheTTL : Nat := 30000000000

def metroStateErrorCacheTTL : Nat := 5000000000

abbrev MetroStateCache := String → Option MetroStateCacheEntry

namespace MetroStateCache

/-- `Get`; `none` if there is no entry, or it has expired. -/
def get (c : MetroStateCache) (now : Nat) (localSymID remoteSymID : String) :
    Option (Except MetroError MetroState) :=
  match c (metroStateCacheKey localSymID remoteSymID) with
  | some e => if e.expiresAt < now then none else some e.entry
  | none => none

def put (c : MetroStateCache) (now : Nat) (localSymID remoteSymID : String)
    (entry : Except MetroError MetroState) : MetroStateCache :=
  let ttl := match entry with
    | .ok _ => metroStateCacheTTL
    | .error _ => metroStateErrorCacheTTL
  Function.update c (metroStateCacheKey localSymID remoteSymID) (some ⟨entry, now + ttl⟩)

end MetroStateCache

structure CheckRequest where
  initialised : Bool
  (localSymID remoteSymID localRDFGroupNo : String)
  remoteRDFGroupNos : List String
deriving DecidableEq, Repr

def CheckRequest.remoteRDFGroupNo (req : CheckRequest) : String :=
  match req.remoteRDFGroupNos with
  | [] => req.localRDFGroupNo
  | no :: _ => if no ≠ "" then no else req.localRDFGroupNo

inductive CheckCall where
  | get (localSymID remoteSymID : String)
  | setMetroWinner (localSymID remoteSymID winnerSymID : String)
  /-- `metroStateCheckGroup.Do` finds a flight or starts one. -/
  | enter (key : String)
  | doMetroStateCheck (localSymID remoteSymID localRDFGroupNo remoteRDFGroupNo : String)
  /-- The function that was passed to `Do` has returned. -/
  | leave (key : String) (flight : Nat) (err : Verdict)
  | wait (flight : Nat)
  | respond (err : Verdict)
deriving DecidableEq, Repr

abbrev CheckAnswer : CheckCall → Type
  | .get _ _ => Option (Except MetroError MetroState)
  | .setMetroWinner _ _ _ => Unit
  | .enter _ => Role
  | .doMetroStateCheck _ _ _ _ => Verdict
  | .leave _ _ _ => Unit
  | .wait _ => Verdict
  | .respond _ => Unit

abbrev CheckProg := Prog CheckCall CheckAnswer

namespace Chk

def get (localSymID remoteSymID : String) : CheckProg (Option (Except MetroError MetroState)) :=
  Prog.ask (CheckCall.get localSymID remoteSymID)

def setMetroWinner (localSymID remoteSymID winnerSymID : String) : CheckProg Unit :=
  Prog.ask (CheckCall.setMetroWinner localSymID remoteSymID winnerSymID)

def enter (key : String) : CheckProg Role := Prog.ask (CheckCall.enter key)

def doMetroStateCheck (localSymID remoteSymID localRDFGroupNo remoteRDFGroupNo : String) :
    CheckProg Verdict :=
  Prog.ask (CheckCall.doMetroStateCheck localSymID remoteSymID localRDFGroupNo remoteRDFGroupNo)

def leave (key : String) (flight : Nat) (err : Verdict) : CheckProg Unit :=
  Prog.ask (CheckCall.leave key flight err)

def wait (flight : Nat) : CheckProg Verdict := Prog.ask (CheckCall.wait flight)

def respond (err : Verdict) : CheckProg Unit := Prog.ask (CheckCall.respond err)

end Chk

def cachedVerdict : MetroError → Verdict
  | .bothArraysUnreachable _ _ =>
    some ⟨.unavailable, "both local and remote arrays are unreachable"⟩
  | .deviceBiasR1Failure =>
    some ⟨.failedPrecondition, "Device Bias R1-side failure: manual R1 restoration required"⟩
  | .noMetroRDFGroup => none

def logMetroStateCheck (req : CheckRequest) : CheckProg Verdict := do
  if !req.initialised then return none
  else if req.localRDFGroupNo = "" then return none
  else
    match ← Chk.get req.localSymID req.remoteSymID with
    | some (.error cachedErr) => return cachedVerdict cachedErr
    | some (.ok cachedState) =>
      if cachedState.winnerSymID ≠ "" then
        Chk.setMetroWinner req.localSymID req.remoteSymID cachedState.winnerSymID
        return none
      else return none
    | none =>
      let sfKey := metroStateCacheKey req.localSymID req.remoteSymID
      match ← Chk.enter sfKey with
      | .lead flight =>
        let checkErr ← Chk.doMetroStateCheck req.localSymID req.remoteSymID
          req.localRDFGroupNo req.remoteRDFGroupNo
        Chk.leave sfKey flight checkErr
        return checkErr
      | .join flight =>
        -- the result of `Do` is dropped, and `checkErr` of this call was never assigned
        let _ ← Chk.wait flight
        return none

structure CheckWorld where
  clock : Nat
  cache : MetroStateCache
  tracker : SiteStateTracker
  history : List MetroEffect
  group : Singleflight String Verdict
  queries : Nat → Option MetroQuery
  sharing : Nat → Option Role

namespace CheckWorld

def empty : CheckWorld :=
  ⟨0, fun _ => none, newSiteStateTracker, [], .empty, fun _ => none, fun _ => none⟩

def Asks (q : MetroQuery) (localSymID remoteSymID localRDFGroupNo remoteRDFGroupNo : String) :
    Prop :=
  q.localSymID = localSymID ∧ q.remoteSymID = remoteSymID ∧
    q.localRDFGroupNo = localRDFGroupNo ∧ q.remoteRDFGroupNo = remoteRDFGroupNo

instance (q : MetroQuery) (localSymID remoteSymID localRDFGroupNo remoteRDFGroupNo : String) :
    Decidable (Asks q localSymID remoteSymID localRDFGroupNo remoteRDFGroupNo) :=
  inferInstanceAs (Decidable (_ ∧ _))

def check (w : CheckWorld) (i : Nat) (q : MetroQuery) : CheckWorld :=
  let outcome := Metro.doMetroStateCheck w.tracker q
  { w with
    cache := w.cache.put w.clock q.localSymID q.remoteSymID q.checkMetroStateWithRDFGroupsAndTimeout
    tracker := outcome.tracker
    history := w.history ++ outcome.effects
    queries := match w.sharing i with
      | some (.lead flight) => Function.update w.queries flight (some q)
      | _ => w.queries }

def serve (w : CheckWorld) (i : Nat) :
    (c : CheckCall) → CheckAnswer c → Option MetroQuery → Option CheckWorld
  | .get localSymID remoteSymID, entry, _ =>
    match w.cache.get w.clock localSymID remoteSymID, entry with
    | none, none => some w
    | some (.ok state), some (.ok state') => if state = state' then some w else none
    | some (.error err), some (.error err') => if err = err' then some w else none
    | _, _ => none
  | .setMetroWinner localSymID remoteSymID winnerSymID, _, _ =>
    some { w with
      history := w.history ++ [.setMetroWinner localSymID remoteSymID winnerSymID] }
  | .enter key, role, _ =>
    if role = (w.group.enter key).1 then
      some { w with
        group := (w.group.enter key).2
        sharing := Function.update w.sharing i (some role) }
    else none
  | .doMetroStateCheck localSymID remoteSymID localRDFGroupNo remoteRDFGroupNo, err, query =>
    query.bind fun q =>
      if Asks q localSymID remoteSymID localRDFGroupNo remoteRDFGroupNo ∧
          err = (Metro.doMetroStateCheck w.tracker q).err then some (w.check i q)
      else none
  | .leave key flight err, _, _ => some { w with group := w.group.finish key flight err }
  | .wait flight, err, _ => if w.group.result flight = some err then some w else none
  | .respond _, _, _ => some w

theorem eq_of_serve_get {w w' : CheckWorld} {i : Nat} {localSymID remoteSymID : String}
    {entry : CheckAnswer (.get localSymID remoteSymID)} {query : Option MetroQuery}
    (h : w.serve i (.get localSymID remoteSymID) entry query = some w') : w' = w := by
  simp only [serve] at h
  grind

end CheckWorld

def checkThreads :
    Prog.Threads Nat CheckCall CheckRequest Nat (Option MetroQuery) CheckWorld CheckAnswer where
  init := .empty
  program req := (logMetroStateCheck req).bind Chk.respond
  start w i _ := some { w with sharing := Function.update w.sharing i none }
  serve w i c r query := w.serve i c r query
  env w d := some { w with clock := w.clock + d }

abbrev CheckPool := Prog.Threads.Pool Nat CheckCall CheckWorld CheckAnswer

abbrev CheckEvent :=
  Prog.Threads.Event Nat CheckCall CheckRequest Nat (Option MetroQuery) CheckAnswer

end PowerMaxCsi.Metro
