import PowerMaxCsi.Lib.Machine
import PowerMaxCsi.Proxy.Locks

/-!
# The handlers of the reverse proxy that forward under a lock

`ServeReverseProxy`, `getResponseIfAuthorised` and `ServeIterator` of
`csireverseproxy/pkg/proxy/proxy.go`.  If `Lock()` fails, `ServeIterator` has no `return`.
`proxyMachine` interleaves any number of requests with the lock server; a wait channel is the
position of its request.
-/

namespace PowerMaxCsi.Proxy

inductive Handler where
  | serveReverseProxy
  | getResponseIfAuthorised
  | serveIterator
deriving DecidableEq, Repr

/-- `utils.Lock`, without its wait channel. -/
structure Lock where
  id : String
  lockType : LockType
  (maxOutStanding maxActive : Int)
deriving DecidableEq, Repr

/-- The lock of the handlers, from the URL of the proxy, the method and the limits. -/
def newLock (url method : String) (limits : Limits) : Lock :=
  let lockType := getRequestType method
  { id := url
    lockType := lockType
    maxOutStanding := getMaxOutStanding lockType limits
    maxActive := getMaxActive lockType limits }

def Lock.resourceID (l : Lock) : String := l.id ++ "-" ++ l.lockType.text

/-- How far a request has come.  `granted` says whether its `Lock()` succeeded. -/
inductive Phase where
  /-- In `Lock()`: the lock request is sent, the wait channel is empty. -/
  | waiting
  /-- In `Lock()`: the server has answered on the wait channel. -/
  | answered (granted : Bool)
  /-- Forwarding the request to Unisphere. -/
  | serving (granted : Bool)
  /-- The URL scheme was rejected; only the deferred `Release()` is left. -/
  | leaving (granted : Bool)
  /-- `Release()` has sent its unlock request, which the server has not taken. -/
  | releasing (granted : Bool)
  | done
deriving DecidableEq, Repr

structure Request where
  handler : Handler
  lock : Lock
  phase : Phase
deriving DecidableEq, Repr

def Lock.lockRequest (l : Lock) (waitChannel : Nat) : LockRequest :=
  { resourceID := l.resourceID
    unlock := false
    waitChannel := waitChannel
    maxOutStanding := l.maxOutStanding
    maxActive := l.maxActive }

/-- The unlock request that `Release()` sends; its limits are left at zero. -/
def Lock.unlockRequest (l : Lock) (waitChannel : Nat) : LockRequest :=
  { resourceID := l.resourceID
    unlock := true
    waitChannel := waitChannel
    maxOutStanding := 0
    maxActive := 0 }

def lockRequestQueueLength : Nat := 100000

/-- The proxy: the lock server with its queue, and the requests being served. -/
structure State where
  lockRequestsQueue : List LockRequest
  fifoLocks : LockTable
  requests : List Request

inductive Event where
  /-- A request reaches `Lock()` in its handler. -/
  | arrive (handler : Handler) (url method : String) (limits : Limits)
  | serve
  /-- `Lock()` returns; `schemeOk` is the outcome of the later scheme check. -/
  | resume (r : Nat) (schemeOk : Bool)
  /-- The handler returns and its deferred `Release()` runs. -/
  | finish (r : Nat)
deriving DecidableEq, Repr

def State.setPhase (s : State) (r : Nat) (phase : Phase) : State :=
  match s.requests[r]? with
  | some q => { s with requests := s.requests.set r { q with phase := phase } }
  | none => s

def State.deliver (s : State) (answers : List Answer) : State :=
  answers.foldl (fun s a => s.setPhase a.1 (.answered a.2)) s

/-- What a handler does when `Lock()` returns: `ServeIterator` carries on either way. -/
def afterLock (handler : Handler) (granted schemeOk : Bool) : Phase :=
  if granted || handler = .serveIterator then
    if schemeOk then .serving granted else .leaving granted
  else .done

/-- Between `Lock()` and `Release()`, forwarding to Unisphere. -/
def Phase.forwards : Phase → Bool
  | .serving _ => true
  | _ => false

/-- Granted the lock, with a release that the server has not yet taken. -/
def Phase.held : Phase → Bool
  | .answered granted | .serving granted | .leaving granted | .releasing granted => granted
  | .waiting | .done => false

def Request.forwards (q : Request) (res : String) : Bool :=
  q.phase.forwards && decide (q.lock.resourceID = res)

def Request.holds (q : Request) (res : String) : Bool :=
  q.phase.held && decide (q.lock.resourceID = res)

def State.forwarding (s : State) (res : String) : Nat :=
  s.requests.countP fun q => q.forwards res

def State.holders (s : State) (res : String) : Nat :=
  s.requests.countP fun q => q.holds res

def State.sendRelease (s : State) (r : Nat) (q : Request) (granted : Bool) : Option State :=
  if s.lockRequestsQueue.length < lockRequestQueueLength then
    some (({ s with
      lockRequestsQueue := s.lockRequestsQueue ++ [q.lock.unlockRequest r] } :
        State).setPhase r (.releasing granted))
  else none

/-- The lock server takes `request`; a release it has taken is over. -/
def State.serve (s : State) (request : LockRequest) (rest : List LockRequest) : Option State :=
  (lockRequestHandler s.fifoLocks request).map fun (fifoLocks, answers) =>
    let s' : State := { s with lockRequestsQueue := rest, fifoLocks := fifoLocks }
    (if request.unlock then s'.setPhase request.waitChannel .done else s').deliver answers

def State.step (s : State) : Event → Option State
  | .arrive handler url method limits =>
    if s.lockRequestsQueue.length < lockRequestQueueLength then
      let lock := newLock url method limits
      some { s with
        lockRequestsQueue := s.lockRequestsQueue ++ [lock.lockRequest s.requests.length]
        requests := s.requests ++ [{ handler := handler, lock := lock, phase := .waiting }] }
    else none
  | .serve =>
    match s.lockRequestsQueue with
    | request :: rest => s.serve request rest
    | [] => none
  | .resume r schemeOk =>
    match s.requests[r]? with
    | some { handler, phase := .answered granted, .. } =>
      some (s.setPhase r (afterLock handler granted schemeOk))
    | _ => none
  | .finish r =>
    match s.requests[r]? with
    | some q =>
      match q.phase with
      | .serving granted | .leaving granted => s.sendRelease r q granted
      | _ => none
    | none => none

def proxyMachine : Machine State Event where
  init := { lockRequestsQueue := [], fifoLocks := fun _ => none, requests := [] }
  step := State.step

end PowerMaxCsi.Proxy
