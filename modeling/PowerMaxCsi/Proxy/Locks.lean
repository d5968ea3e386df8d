import Mathlib.Data.List.Basic

/-!
# The lock server of the reverse proxy

`csireverseproxy/pkg/utils/locks.go`: one goroutine owns the table `fifoLocks`.  A channel is what
is buffered in it, a wait channel a number.  Limits are `Int`: their sign is not checked.  The
`RequestID` and the log lines are left out.
-/

namespace PowerMaxCsi.Proxy

/-- `common.LockType`, with the two values the handlers use. -/
inductive LockType where
  | read
  | write
deriving DecidableEq, Repr

def LockType.text : LockType → String
  | .read => "Read"
  | .write => "Write"

structure Limits where
  (maxActiveRead maxActiveWrite maxOutStandingRead maxOutStandingWrite : Int)
deriving DecidableEq, Repr

def maxActiveReadRequests : Int := 5
def maxActiveWriteRequests : Int := 4
def maxOutStandingReadRequests : Int := 50
def maxOutStandingWriteRequests : Int := 50

def getRequestType (method : String) : LockType :=
  if method = "GET" then .read else .write

def orDefault (limit default : Int) : Int := if limit ≠ 0 then limit else default

def getMaxOutStanding (lockType : LockType) (limits : Limits) : Int :=
  match lockType with
  | .read => orDefault limits.maxOutStandingRead maxOutStandingReadRequests
  | .write => orDefault limits.maxOutStandingWrite maxOutStandingWriteRequests

def getMaxActive (lockType : LockType) (limits : Limits) : Int :=
  match lockType with
  | .read => orDefault limits.maxActiveRead maxActiveReadRequests
  | .write => orDefault limits.maxActiveWrite maxActiveWriteRequests

structure LockRequest where
  resourceID : String
  unlock : Bool
  waitChannel : Nat
  (maxOutStanding maxActive : Int)
deriving DecidableEq, Repr

structure LockProperties where
  (maxActive maxOutStanding active : Int)
  waitChannel : List Nat
  modified : Bool
deriving DecidableEq, Repr

/-- A value sent on a wait channel: the channel and the value. -/
abbrev Answer := Nat × Bool

abbrev LockTable := String → Option LockProperties

namespace LockProperties

def isFull (p : LockProperties) : Prop :=
  ¬ p.active < p.maxActive ∧ ¬ (p.waitChannel.length : Int) < p.maxOutStanding

instance (p : LockProperties) : Decidable p.isFull := inferInstanceAs (Decidable (_ ∧ _))

/-- The dirty bit is set when the request carries other limits than the entry. -/
def markModified (p : LockProperties) (request : LockRequest) : LockProperties :=
  if p.maxActive ≠ request.maxActive ∨ p.maxOutStanding ≠ request.maxOutStanding then
    { p with modified := true }
  else p

def queue (p : LockProperties) (request : LockRequest) : LockProperties × List Answer :=
  let p := p.markModified request
  if p.active < p.maxActive then
    ({ p with active := p.active + 1 }, [(request.waitChannel, true)])
  else if (p.waitChannel.length : Int) < p.maxOutStanding then
    ({ p with waitChannel := p.waitChannel ++ [request.waitChannel] }, [])
  else (p, [(request.waitChannel, false)])

/-- The first half of `LockProperties.Release`: the oldest waiting request gets the slot. -/
def handOver (p : LockProperties) : LockProperties × List Answer :=
  if p.active = p.maxActive then
    match p.waitChannel with
    | next :: rest => ({ p with waitChannel := rest }, [(next, true)])
    | [] => ({ p with active := p.active - 1 }, [])
  else ({ p with active := p.active - 1 }, [])

variable (p : LockProperties) (request : LockRequest)

@[simp] theorem markModified_active : (p.markModified request).active = p.active := by
  unfold markModified; split <;> rfl

@[simp] theorem markModified_maxActive : (p.markModified request).maxActive = p.maxActive := by
  unfold markModified; split <;> rfl

@[simp] theorem markModified_maxOutStanding :
    (p.markModified request).maxOutStanding = p.maxOutStanding := by
  unfold markModified; split <;> rfl

@[simp] theorem markModified_waitChannel :
    (p.markModified request).waitChannel = p.waitChannel := by
  unfold markModified; split <;> rfl

theorem queue_cases :
    (p.active < p.maxActive ∧ p.queue request =
      ({ p.markModified request with active := p.active + 1 }, [(request.waitChannel, true)])) ∨
    (¬ p.active < p.maxActive ∧ (p.waitChannel.length : Int) < p.maxOutStanding ∧
      p.queue request =
        ({ p.markModified request with waitChannel := p.waitChannel ++ [request.waitChannel] },
          [])) ∨
    (p.isFull ∧ p.queue request = (p.markModified request, [(request.waitChannel, false)])) := by
  simp only [queue]
  by_cases ha : p.active < p.maxActive
  · exact .inl ⟨ha, by simp [ha]⟩
  · by_cases hl : (p.waitChannel.length : Int) < p.maxOutStanding
    · exact .inr (.inl ⟨ha, hl, by simp [ha, hl]⟩)
    · exact .inr (.inr ⟨⟨ha, hl⟩, by simp [ha, hl]⟩)

/-- A release hands the slot over, or gives it back when nobody waits or there were free slots. -/
theorem handOver_cases :
    (p.active = p.maxActive ∧ ∃ next rest, p.waitChannel = next :: rest ∧
      p.handOver = ({ p with waitChannel := rest }, [(next, true)])) ∨
    ((p.active = p.maxActive → p.waitChannel = []) ∧
      p.handOver = ({ p with active := p.active - 1 }, [])) := by
  unfold handOver
  by_cases ha : p.active = p.maxActive
  · rw [if_pos ha]
    cases hw : p.waitChannel with
    | nil => exact .inr ⟨fun _ => rfl, rfl⟩
    | cons next rest => exact .inl ⟨ha, next, rest, rfl, rfl⟩
  · rw [if_neg ha]
    exact .inr ⟨fun h => absurd h ha, rfl⟩

end LockProperties

/-- `addEntryToMap`.  Go panics when the capacity of a channel is negative. -/
def newEntry (request : LockRequest) : Option LockProperties :=
  if request.maxOutStanding < 0 then none
  else some
    { maxActive := request.maxActive
      maxOutStanding := request.maxOutStanding
      active := 0
      waitChannel := []
      modified := false }

/-- The entry a request is served with: the one in the table, or a new one. -/
def lockProps (fifoLocks : LockTable) (request : LockRequest) : Option LockProperties :=
  match fifoLocks request.resourceID with
  | some p => some p
  | none => newEntry request

/-- `LockProperties.Release`: the entry is deleted once idle if its limits have changed. -/
def release (fifoLocks : LockTable) (p : LockProperties) (request : LockRequest) :
    LockTable × List Answer :=
  let (p', answers) := p.handOver
  if p'.active = 0 ∧ p'.modified then
    (Function.update fifoLocks request.resourceID none, answers)
  else (Function.update fifoLocks request.resourceID (some p'), answers)

theorem release_eq (fifoLocks : LockTable) (p : LockProperties) (request : LockRequest) :
    release fifoLocks p request = (Function.update fifoLocks request.resourceID
      (if p.handOver.1.active = 0 ∧ p.handOver.1.modified then none else some p.handOver.1),
      p.handOver.2) := by
  unfold release
  split
  case h_1 p' answers ho =>
    rw [ho]
    split <;> rfl

/-- The body of the loop of `LockRequestHandler`; `none` when it panics. -/
def lockRequestHandler (fifoLocks : LockTable) (request : LockRequest) :
    Option (LockTable × List Answer) :=
  (lockProps fifoLocks request).map fun p =>
    if request.unlock then release fifoLocks p request
    else
      let (p', answers) := p.queue request
      (Function.update fifoLocks request.resourceID (some p'), answers)

end PowerMaxCsi.Proxy
