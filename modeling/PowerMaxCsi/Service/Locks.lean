import PowerMaxCsi.Lib.Machine

/-!
# The lock manager of the driver

`service/locks.go`: `LockRequestHandler` and `CleanupMapEntries` work under `lockMutex`, so each is
a single step.  It can get stuck on a send to a full channel, or panic on a closed one (`Stuck`).
The state also records the requests taken and the lock numbers that were sent a 1.  Log lines and
request IDs are left out.
-/

namespace PowerMaxCsi.Service

/-- `LockRequest`.  An unlock request leaves its wait channel nil. -/
inductive LockRequest where
  | lock (resourceID : String) (lockNumber : Int) (waitChannel : Nat)
  | unlock (resourceID : String) (lockNumber : Int)
deriving DecidableEq, Repr

def LockRequest.resourceID : LockRequest → String
  | .lock res _ _ | .unlock res _ => res

def LockRequest.lockNumber : LockRequest → Int
  | .lock _ n _ | .unlock _ n => n

structure LockRequestInfo where
  lockNumber : Int
  waitChannel : Nat
deriving DecidableEq, Repr

structure LockInfo where
  lockRequests : List LockRequestInfo
  currentLockNumber : Int
  (currentWaitChannel count : Nat)
deriving DecidableEq, Repr

abbrev LockTable := String → Option LockInfo

def lockRequestsCapacity : Nat := 100

/-- A wait channel, with room for one value. -/
structure WaitChannel where
  (buffered closed : Bool)
deriving DecidableEq, Repr

def newWaitChannel : WaitChannel := { buffered := false, closed := false }

inductive Stuck where
  /-- The send on `LockRequests` of an entry blocks: the channel is full. -/
  | lockRequestsFull
  | waitChannelFull
  /-- A send on, or a close of, a closed channel panics. -/
  | closedChannel
deriving DecidableEq, Repr

structure LockState where
  fifolocks : LockTable
  /-- The wait channels made by the calls of `RequestLock`, in that order. -/
  channels : List WaitChannel
  received : List (String × Int)
  granted : List (String × Int)
  released : List (String × Int)

namespace LockState

def setInfo (s : LockState) (res : String) (info : LockInfo) : LockState :=
  { s with fifolocks := Function.update s.fifolocks res (some info) }

def grant (s : LockState) (res : String) (info : LockRequestInfo) : Except Stuck LockState :=
  match s.channels[info.waitChannel]? with
  | some { closed := true, .. } => .error .closedChannel
  | some { buffered := false, .. } =>
    .ok { s with
      channels := s.channels.set info.waitChannel { buffered := true, closed := false }
      granted := s.granted ++ [(res, info.lockNumber)] }
  | _ => .error .waitChannelFull

def close (s : LockState) (ch : Nat) : Except Stuck LockState :=
  match s.channels[ch]? with
  | some { buffered, closed := false } =>
    .ok { s with channels := s.channels.set ch { buffered := buffered, closed := true } }
  | _ => .error .closedChannel

def lockRequestHandler (s : LockState) (request : LockRequest) : Except Stuck LockState :=
  match s.fifolocks request.resourceID with
  | none =>
    match request with
    -- "There is no lock to be released!"
    | .unlock _ _ => .ok s
    | .lock res n ch =>
      (s.setInfo res
        { lockRequests := []
          currentLockNumber := n
          currentWaitChannel := ch
          count := 1 }).grant res ⟨n, ch⟩
  | some info =>
    if info.currentLockNumber = request.lockNumber then
      match request with
      | .unlock res _ => do
        let s ← s.close info.currentWaitChannel
        match info.lockRequests with
        | next :: rest =>
          (s.setInfo res
            { lockRequests := rest
              currentLockNumber := next.lockNumber
              currentWaitChannel := next.waitChannel
              count := 1 }).grant res next
        | [] => .ok (s.setInfo res { info with currentLockNumber := -1, count := 0 })
      -- "Invalid request. There is a lock held with the same request"
      | .lock _ _ _ => .ok s
    else
      match request with
      -- "You don't hold the lock"
      | .unlock _ _ => .ok s
      | .lock res n ch =>
        if info.lockRequests.length = 0 ∧ info.currentLockNumber = -1 then
          (s.setInfo res
            { info with currentLockNumber := n, currentWaitChannel := ch }).grant res ⟨n, ch⟩
        else if info.lockRequests.length < lockRequestsCapacity then
          .ok (s.setInfo res { info with lockRequests := info.lockRequests ++ [⟨n, ch⟩] })
        else .error .lockRequestsFull

def cleanupEntry (fifolocks : LockTable) (res : String) : LockTable :=
  match fifolocks res with
  | some info =>
    if info.currentLockNumber = -1 then Function.update fifolocks res none else fifolocks
  | none => fifolocks

/-- A pass of `CleanupMapEntries`; it stops after 20 ms, so `visited` can be any list. -/
def cleanupMapEntries (fifolocks : LockTable) (visited : List String) : LockTable :=
  visited.foldl cleanupEntry fifolocks

def holders (s : LockState) (res : String) : List Int :=
  (s.granted.filter fun g => g.1 = res ∧ g ∉ s.released).map Prod.snd

end LockState

inductive LockEvent where
  /-- The handler takes the request of a call of `RequestLock`, with its `lockNum`. -/
  | requestLock (resourceID : String) (lockNum : Nat)
  /-- The handler takes the request that a call of `ReleaseLock` has sent. -/
  | releaseLock (resourceID : String) (lockNum : Nat)
  /-- A call of `RequestLock` receives from its wait channel and returns. -/
  | acquire (waitChannel : Nat)
  /-- A pass of `CleanupMapEntries` over the given entries. -/
  | cleanup (visited : List String)
deriving DecidableEq, Repr

namespace LockState

/-- Each event is one turn of the handler or of a caller; the handler may be stuck in a send. -/
def step (s : LockState) : LockEvent → Except Stuck LockState
  | .requestLock res n =>
    lockRequestHandler
      { s with
        channels := s.channels ++ [newWaitChannel]
        received := s.received ++ [(res, (n : Int))] }
      (.lock res n s.channels.length)
  | .releaseLock res n =>
    lockRequestHandler { s with released := s.released ++ [(res, (n : Int))] } (.unlock res n)
  | .acquire ch =>
    .ok { s with channels := s.channels.modify ch fun c => { c with buffered := false } }
  | .cleanup visited => .ok { s with fifolocks := cleanupMapEntries s.fifolocks visited }

end LockState

def lockMachine : Machine LockState LockEvent where
  init := { fifolocks := fun _ => none, channels := [], received := [], granted := [],
            released := [] }
  step s e := (s.step e).toOption

theorem lockMachine_step_ok {s s' : LockState} {e : LockEvent} (h : s.step e = .ok s') :
    lockMachine.step s e = some s' := congrArg Except.toOption h

theorem lockMachine_step_error {s : LockState} {e : LockEvent} {x : Stuck}
    (h : s.step e = .error x) : lockMachine.step s e = none := congrArg Except.toOption h

end PowerMaxCsi.Service
