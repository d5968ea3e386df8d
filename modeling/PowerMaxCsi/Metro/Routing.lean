import PowerMaxCsi.Lib.GoMap
import PowerMaxCsi.Metro.StateCheck

/-!
# Routing the requests of a Metro pair

`metroClient` and `SetMetroWinner` of `pkg/symmetrix/metro.go`, and `GetPowerMaxClient` of
`pkg/symmetrix/powermax.go`.  Times are in nanoseconds.
-/

namespace PowerMaxCsi.Metro

open Function Option

def failoverThreshold : Int32 := 5

def failureTimeThreshold : Nat := 120000000000

/-- `metroClient`; the last failure is `none` for the zero time. -/
structure MetroClient where
  (primaryArray secondaryArray activeArray : String)
  failureCount : Int32
  lastFailure : Option Nat
  witnessWinner : String
deriving DecidableEq, Repr

def getIdentifier (primaryArray secondaryArray : String) : String :=
  primaryArray ++ "-" ++ secondaryArray

/-- The weight of a response in `RoundTrip`: the error of the request, or the status code. -/
def failureWeight : Except String Nat → Option Int32
  | .error _ => some 2
  | .ok statusCode =>
    if statusCode = 401 ∨ statusCode = 403 then some 99
    else if statusCode / 100 = 5 then some 1
    else none

namespace MetroClient

def otherArray (m : MetroClient) : String :=
  if m.activeArray = m.primaryArray then m.secondaryArray else m.primaryArray

def getActiveArray (m : MetroClient) : String × MetroClient :=
  if m.witnessWinner ≠ "" ∧
      (m.witnessWinner = m.primaryArray ∨ m.witnessWinner = m.secondaryArray) then
    if m.activeArray ≠ m.witnessWinner then
      (m.witnessWinner, { m with activeArray := m.witnessWinner, failureCount := 0 })
    else (m.activeArray, m)
  else if failoverThreshold ≤ m.failureCount then
    (m.otherArray, { m with activeArray := m.otherArray, failureCount := 0 })
  else (m.activeArray, m)

def healthHandler (m : MetroClient) (now : Nat) (failureWeight : Int32) : MetroClient :=
  if (m.lastFailure.all fun last => failureTimeThreshold < now - last) ∧ m.failureCount ≠ 0 then
    { m with lastFailure := some now, failureCount := 1 }
  else { m with lastFailure := some now, failureCount := m.failureCount + failureWeight }

def setWinner (m : MetroClient) (winnerSymID : String) : MetroClient :=
  { m with witnessWinner := winnerSymID }

end MetroClient

abbrev MetroClients := String → Option MetroClient

namespace MetroClients

def modify (clients : MetroClients) (id : String) (f : MetroClient → MetroClient) : MetroClients :=
  update clients id ((clients id).map f)

def loadOrStore (clients : MetroClients) (primaryArray secondaryArray : String) : MetroClients :=
  let id := getIdentifier primaryArray secondaryArray
  match clients id with
  | some _ => clients
  | none => update clients id
      (some ⟨primaryArray, secondaryArray, primaryArray, 0, none, ""⟩)

def setMetroWinner (clients : MetroClients) (localSymID remoteSymID winnerSymID : String) :
    MetroClients :=
  if (clients (getIdentifier localSymID remoteSymID)).isSome then
    clients.modify (getIdentifier localSymID remoteSymID) (·.setWinner winnerSymID)
  else clients.modify (getIdentifier remoteSymID localSymID) (·.setWinner winnerSymID)

end MetroClients

inductive RoutingEntry where
  | loadOrStore (primaryArray secondaryArray : String)
  | checked (q : MetroQuery)
  | setMetroWinner (localSymID remoteSymID winnerSymID : String)

inductive RoutingAction where
  | passTime (duration : Nat)
  /-- `GetPowerMaxClient` looks up the client of a pair. -/
  | loadOrStore (primaryArray secondaryArray : String)
  /-- `getPowerMaxClient` asks the client where to send its requests. -/
  | getActiveArray (id : String)
  /-- `setErrorWatcher`, also of `getPowerMaxClient`. -/
  | setErrorWatcher (id : String)
  /-- `RoundTrip` of a request. -/
  | roundTrip (resp : Except String Nat)

def RoutingAction.asks : RoutingAction → Option String
  | .getActiveArray id | .setErrorWatcher id => some id
  | .passTime _ | .loadOrStore _ _ | .roundTrip _ => none

structure RoutingWorld where
  checks : CheckWorld
  metroClients : MetroClients
  /-- The health handlers of the HTTP client: by array, the client that is told of a failure. -/
  handlers : GoMap String String
  log : List RoutingEntry

namespace RoutingWorld

def empty : RoutingWorld := ⟨.empty, fun _ => none, ∅, []⟩

def apply (w : RoutingWorld) : MetroEffect → RoutingWorld
  | .setMetroWinner localSymID remoteSymID winnerSymID =>
    { w with
      metroClients := w.metroClients.setMetroWinner localSymID remoteSymID winnerSymID
      log := .setMetroWinner localSymID remoteSymID winnerSymID :: w.log }
  | .put _ _ _ | .putError _ _ _ | .emitMetroEvent _ | .siteFailure _ | .updateState _ _
  | .triggerReconciliation _ => w

def record (log : List RoutingEntry) : CheckCall → Option MetroQuery → List RoutingEntry
  | .doMetroStateCheck _ _ _ _, some q => .checked q :: log
  | _, _ => log

def serve (w : RoutingWorld) (i : Nat) (c : CheckCall) (r : CheckAnswer c)
    (query : Option MetroQuery) : Option RoutingWorld :=
  (w.checks.serve i c r query).map fun checks =>
    (checks.history.drop w.checks.history.length).foldl apply
      { w with checks := checks, log := record w.log c query }

def tellFailure (clients : MetroClients) (now : Nat) (weight : Int32) (ids : List String) :
    MetroClients :=
  ids.foldl (fun clients id => clients.modify id (·.healthHandler now weight)) clients

def act (w : RoutingWorld) : RoutingAction → RoutingWorld
  | .passTime duration =>
    { w with checks := { w.checks with clock := w.checks.clock + duration } }
  | .loadOrStore primaryArray secondaryArray =>
    { w with
      metroClients := w.metroClients.loadOrStore primaryArray secondaryArray
      log := .loadOrStore primaryArray secondaryArray :: w.log }
  | .getActiveArray id =>
    { w with metroClients := w.metroClients.modify id (·.getActiveArray.2) }
  | .setErrorWatcher id =>
    match w.metroClients id with
    | none => w
    | some m =>
      { w with
        metroClients := w.metroClients.modify id (·.getActiveArray.2)
        handlers := w.handlers.insert m.getActiveArray.1 id }
  | .roundTrip resp =>
    match failureWeight resp with
    | none => w
    | some weight =>
      { w with
        metroClients := tellFailure w.metroClients w.checks.clock weight
          (w.handlers.entries.map (·.2)) }

end RoutingWorld

def routingThreads : Prog.Threads Nat CheckCall CheckRequest RoutingAction (Option MetroQuery)
    RoutingWorld CheckAnswer where
  init := .empty
  program req := (logMetroStateCheck req).bind Chk.respond
  start w i _ :=
    some { w with
      checks := { w.checks with sharing := update w.checks.sharing i none } }
  serve w i c r query := w.serve i c r query
  env w action := some (w.act action)

abbrev RoutingPool := Prog.Threads.Pool Nat CheckCall RoutingWorld CheckAnswer

abbrev RoutingEvent :=
  Prog.Threads.Event Nat CheckCall CheckRequest RoutingAction (Option MetroQuery) CheckAnswer

def registered (id : String) : List RoutingEntry → Bool
  | [] => false
  | .loadOrStore primaryArray secondaryArray :: log =>
    decide (id = getIdentifier primaryArray secondaryArray) || registered id log
  | .checked _ :: log | .setMetroWinner _ _ _ :: log => registered id log

def reached (log : List RoutingEntry) (localSymID remoteSymID : String) : String :=
  if registered (getIdentifier localSymID remoteSymID) log then getIdentifier localSymID remoteSymID
  else getIdentifier remoteSymID localSymID

/-- The winner that was named last for a client; the empty name takes it back. -/
def lastWinner (id : String) : List RoutingEntry → Option String
  | [] => none
  | .setMetroWinner localSymID remoteSymID winnerSymID :: log =>
    if registered id log ∧ reached log localSymID remoteSymID = id then
      if winnerSymID = "" then none else some winnerSymID
    else lastWinner id log
  | .loadOrStore _ _ :: log | .checked _ :: log => lastWinner id log

def MetroQuery.IsOf (q : MetroQuery) (primaryArray secondaryArray : String) : Prop :=
  q.localSymID = primaryArray ∧ q.remoteSymID = secondaryArray ∨
    q.localSymID = secondaryArray ∧ q.remoteSymID = primaryArray

instance (q : MetroQuery) (primaryArray secondaryArray : String) :
    Decidable (q.IsOf primaryArray secondaryArray) := inferInstanceAs (Decidable (_ ∨ _))

def latestCheck (primaryArray secondaryArray : String) : List RoutingEntry → Option MetroQuery
  | [] => none
  | .checked q :: log =>
    if q.IsOf primaryArray secondaryArray then some q
    else latestCheck primaryArray secondaryArray log
  | .loadOrStore _ _ :: log | .setMetroWinner _ _ _ :: log =>
    latestCheck primaryArray secondaryArray log

/-- Both arrays are reachable, and neither has a witness or a bias that is effective. -/
def MetroQuery.Healthy (q : MetroQuery) : Prop :=
  ∃ localRDFGroup remoteRDFGroup, q.localGroup = .ok localRDFGroup ∧
    q.remoteGroup = .ok remoteRDFGroup ∧ ¬ Arbitrated localRDFGroup ∧ ¬ Arbitrated remoteRDFGroup

theorem lastWinner_of_not_registered {id : String} {log : List RoutingEntry}
    (h : registered id log = false) : lastWinner id log = none := by
  induction log with
  | nil => rfl
  | cons entry log ih =>
    cases entry with
    | loadOrStore => exact ih (Bool.or_eq_false_iff.mp h).2
    | checked => exact ih h
    | setMetroWinner =>
      have h : registered id log = false := h
      simp only [lastWinner, h]
      exact ih h

theorem lastWinner_ne_empty {id : String} (log : List RoutingEntry) :
    lastWinner id log ≠ some "" := by
  induction log with
  | nil => exact some_ne_none _ |>.symm
  | cons entry log ih =>
    cases entry with
    | loadOrStore | checked => exact ih
    | setMetroWinner localSymID remoteSymID winnerSymID =>
      simp only [lastWinner]
      split
      · split
        · exact some_ne_none _ |>.symm
        · simpa using ‹_›
      · exact ih

theorem isOf_of_latestCheck {primaryArray secondaryArray : String} {log : List RoutingEntry}
    {q : MetroQuery} (h : latestCheck primaryArray secondaryArray log = some q) :
    q.IsOf primaryArray secondaryArray := by
  induction log with
  | nil => cases h
  | cons entry log ih =>
    cases entry with
    | loadOrStore | setMetroWinner => exact ih h
    | checked q' =>
      simp only [latestCheck] at h
      split at h
      case isTrue hof =>
        cases h
        exact hof
      case isFalse => exact ih h

theorem MetroQuery.IsOf.ne {q : MetroQuery} {primaryArray secondaryArray : String}
    (h : q.IsOf primaryArray secondaryArray) : primaryArray ≠ secondaryArray := by
  rcases h with ⟨rfl, rfl⟩ | ⟨rfl, rfl⟩
  · exact q.ne
  · exact q.ne.symm

namespace MetroClient

variable {m : MetroClient} {winner : Option String}

/-- The active array is one of the pair, and the winner is the one that was named last. -/
structure Follows (winner : Option String) (m : MetroClient) : Prop where
  active : m.activeArray = m.primaryArray ∨ m.activeArray = m.secondaryArray
  winner : m.witnessWinner = winner.getD ""

theorem otherArray_mem (m : MetroClient) :
    m.otherArray = m.primaryArray ∨ m.otherArray = m.secondaryArray := by
  unfold otherArray
  split
  · exact .inr rfl
  · exact .inl rfl

theorem Follows.getActiveArray (h : m.Follows winner) : m.getActiveArray.2.Follows winner := by
  unfold MetroClient.getActiveArray
  split
  case isTrue hw =>
    split
    · exact ⟨hw.2, h.winner⟩
    · exact h
  case isFalse =>
    split
    · exact ⟨m.otherArray_mem, h.winner⟩
    · exact h

theorem Follows.healthHandler (h : m.Follows winner) (now : Nat) (weight : Int32) :
    (m.healthHandler now weight).Follows winner := by
  unfold MetroClient.healthHandler
  split
  · exact ⟨h.active, h.winner⟩
  · exact ⟨h.active, h.winner⟩

theorem otherArray_ne (hne : m.primaryArray ≠ m.secondaryArray) : m.otherArray ≠ m.activeArray := by
  unfold otherArray
  split
  case isTrue ha =>
    rw [ha]
    exact hne.symm
  case isFalse ha => exact Ne.symm ha

/-- A client at the threshold goes over if the winner does not hold it back. -/
theorem Follows.getActiveArray_eq_otherArray_iff (h : m.Follows winner) (hso : winner ≠ some "")
    (hne : m.primaryArray ≠ m.secondaryArray) (hc : failoverThreshold ≤ m.failureCount) :
    m.getActiveArray.1 = m.otherArray ↔ winner ≠ some m.activeArray := by
  have ho := otherArray_ne hne
  have hw := h.winner
  unfold MetroClient.getActiveArray
  split
  case isTrue hmem =>
    obtain ⟨symID, rfl⟩ : ∃ symID, winner = some symID := by
      refine ne_none_iff_exists'.mp ?_
      rintro rfl
      exact hmem.1 hw
    have hs : m.witnessWinner = symID := hw
    subst hs
    split
    case isTrue hm =>
      refine iff_of_true ?_ fun heq => hm (some.inj heq).symm
      unfold otherArray
      split
      · grind
      · grind [h.active]
    case isFalse ha =>
      exact iff_of_false ho.symm fun hn => hn (congrArg some (not_not.mp ha).symm)
  case isFalse hmem =>
    refine iff_of_true rfl ?_
    rintro rfl
    refine hmem ⟨?_, ?_⟩
    · rw [hw]
      exact fun he => hso (congrArg some he)
    · rw [hw]
      exact h.active

end MetroClient

structure MetroClients.Follow (clients : MetroClients) (log : List RoutingEntry) : Prop where
  registered : ∀ id, (clients id).isSome = registered id log
  follows : ∀ id m, clients id = some m → m.Follows (lastWinner id log)

namespace MetroClients.Follow

variable {clients : MetroClients} {log : List RoutingEntry} {id : String} (h : clients.Follow log)

include h

theorem modify {log' : List RoutingEntry} {f : MetroClient → MetroClient}
    (hr : ∀ id, Metro.registered id log' = Metro.registered id log)
    (ho : ∀ id', id' ≠ id → lastWinner id' log' = lastWinner id' log)
    (hf : ∀ m, clients id = some m → m.Follows (lastWinner id log) →
      (f m).Follows (lastWinner id log')) : (clients.modify id f).Follow log' := by
  constructor
  · intro id'
    rw [hr, ← h.registered, MetroClients.modify, update_apply]
    split
    case isTrue hid => rw [hid, isSome_map]
    case isFalse => rfl
  · intro id' m hm
    rw [MetroClients.modify, update_apply] at hm
    split at hm
    case isTrue hid =>
      subst hid
      obtain ⟨m', hm', rfl⟩ := map_eq_some_iff.mp hm
      exact hf m' hm' (h.follows id' m' hm')
    case isFalse hid =>
      rw [ho id' hid]
      exact h.follows id' m hm

theorem checked (q : MetroQuery) : clients.Follow (.checked q :: log) :=
  ⟨h.registered, h.follows⟩

theorem loadOrStore (primaryArray secondaryArray : String) :
    (clients.loadOrStore primaryArray secondaryArray).Follow
      (.loadOrStore primaryArray secondaryArray :: log) := by
  unfold MetroClients.loadOrStore
  dsimp only
  split
  case h_1 m hm =>
    refine ⟨fun id => ?_, h.follows⟩
    rw [h.registered, Metro.registered]
    by_cases hid : id = getIdentifier primaryArray secondaryArray
    · rw [hid, ← h.registered, hm]
      simp
    · simp [hid]
  case h_2 hn =>
    constructor
    · intro id
      rw [update_apply, Metro.registered]
      split
      case isTrue hid => simp [hid]
      case isFalse hid => simp [hid, h.registered]
    · intro id m hm
      rw [update_apply] at hm
      split at hm
      case isTrue hid =>
        cases hm
        have hne : Metro.registered id log = false := by
          rw [← h.registered, hid, hn]
          rfl
        refine ⟨.inl rfl, ?_⟩
        rw [lastWinner, lastWinner_of_not_registered hne]
        rfl
      case isFalse => exact h.follows id m hm

theorem setMetroWinner (localSymID remoteSymID winnerSymID : String) :
    (clients.setMetroWinner localSymID remoteSymID winnerSymID).Follow
      (.setMetroWinner localSymID remoteSymID winnerSymID :: log) := by
  have hr : clients.setMetroWinner localSymID remoteSymID winnerSymID =
      clients.modify (reached log localSymID remoteSymID) (·.setWinner winnerSymID) := by
    unfold MetroClients.setMetroWinner reached
    rw [h.registered]
    split
    · rfl
    · rfl
  rw [hr]
  refine h.modify (fun _ => rfl) (fun id' hid => ?_) fun m hm hf => ⟨hf.active, ?_⟩
  · exact if_neg fun hb => hid hb.2.symm
  · have ht : Metro.registered (reached log localSymID remoteSymID) log = true := by
      rw [← h.registered, hm]
      rfl
    rw [lastWinner, if_pos ⟨ht, rfl⟩]
    split
    case isTrue he => exact he
    case isFalse => rfl

theorem tellFailure (now : Nat) (weight : Int32) (ids : List String) :
    (RoutingWorld.tellFailure clients now weight ids).Follow log := by
  induction ids generalizing clients with
  | nil => exact h
  | cons id ids ih =>
    exact ih (h.modify (fun _ => rfl) (fun _ _ => rfl) fun m _ hm => hm.healthHandler now weight)

omit h

end MetroClients.Follow

namespace RoutingWorld

def Follow (w : RoutingWorld) : Prop := w.metroClients.Follow w.log

variable {w w' : RoutingWorld}

theorem Follow.apply (h : w.Follow) (effect : MetroEffect) : (w.apply effect).Follow := by
  cases effect with
  | setMetroWinner localSymID remoteSymID winnerSymID =>
    exact h.setMetroWinner localSymID remoteSymID winnerSymID
  | _ => exact h

theorem Follow.foldl (h : w.Follow) (effects : List MetroEffect) :
    (effects.foldl RoutingWorld.apply w).Follow := by
  induction effects generalizing w with
  | nil => exact h
  | cons effect effects ih => exact ih (h.apply effect)

theorem Follow.serve {i : Nat} {c : CheckCall} {r : CheckAnswer c} {query : Option MetroQuery}
    (h : w.Follow) (hs : w.serve i c r query = some w') : w'.Follow := by
  obtain ⟨checks, -, rfl⟩ := map_eq_some_iff.mp hs
  refine Follow.foldl ?_ _
  show w.metroClients.Follow (record w.log c query)
  unfold record
  split
  · exact h.checked _
  · exact h

theorem Follow.act (h : w.Follow) (action : RoutingAction) : (w.act action).Follow := by
  have ha : ∀ id, (w.metroClients.modify id (·.getActiveArray.2)).Follow w.log := by
    intro id
    exact h.modify (fun _ => rfl) (fun _ _ => rfl) fun m _ hm => hm.getActiveArray
  cases action with
  | passTime => exact h
  | loadOrStore primaryArray secondaryArray => exact h.loadOrStore primaryArray secondaryArray
  | getActiveArray id => exact ha id
  | setErrorWatcher id =>
    unfold RoutingWorld.act
    dsimp only
    split
    · exact h
    · exact ha id
  | roundTrip resp =>
    unfold RoutingWorld.act
    dsimp only
    split
    · exact h
    · exact h.tellFailure _ _ _

theorem Follow.step {s s' : RoutingPool} {e : RoutingEvent} (h : s.world.Follow)
    (hs : routingThreads.step s e = some s') : s'.world.Follow := by
  cases e with
  | start i req =>
    obtain ⟨a, w, -, hw, rfl⟩ := Prog.Threads.step_start_eq_some.mp hs
    cases hw
    exact h
  | reply i c r query =>
    obtain ⟨k, w, -, hw, rfl⟩ := Prog.Threads.step_reply_eq_some.mp hs
    exact h.serve hw
  | env action =>
    obtain ⟨w, hw, rfl⟩ := Prog.Threads.step_env_eq_some.mp hs
    cases hw
    exact h.act action

end RoutingWorld

/-- The client is at the threshold, and the latest check of its pair was a healthy one. -/
def AtThreshold (w : RoutingWorld) (id : String) (m : MetroClient) : Prop :=
  w.metroClients id = some m ∧ failoverThreshold ≤ m.failureCount ∧
    ∃ q, latestCheck m.primaryArray m.secondaryArray w.log = some q ∧ q.Healthy

/-- A client at the threshold that is asked goes over to the other array. -/
def FailsOver (s : RoutingPool) : RoutingEvent → Prop
  | .env action => ∀ id m, action.asks = some id → AtThreshold s.world id m →
      m.getActiveArray.1 = m.otherArray
  | _ => True

def Undesignated (s : RoutingPool) : RoutingEvent → Prop
  | .env action => ∀ id m, action.asks = some id → AtThreshold s.world id m →
      lastWinner id s.world.log ≠ some m.activeArray
  | _ => True

theorem failsOver_iff_undesignated {s : RoutingPool} (hs : s.world.Follow) (e : RoutingEvent) :
    FailsOver s e ↔ Undesignated s e := by
  cases e with
  | start | reply => exact Iff.rfl
  | env action =>
    refine forall₂_congr fun id m => imp_congr_right fun _ => imp_congr_right fun hat => ?_
    obtain ⟨hm, hc, q, hl, -⟩ := hat
    exact (hs.follows id m hm).getActiveArray_eq_otherArray_iff (lastWinner_ne_empty _)
      (isOf_of_latestCheck hl).ne hc

/-- Each client at the threshold that is asked after a healthy check goes over exactly if its active
array is not the winner named last. -/
theorem failsOver_along_iff (events : List RoutingEvent) :
    routingThreads.machine.Along FailsOver routingThreads.machine.init events ↔
      routingThreads.machine.Along Undesignated routingThreads.machine.init events := by
  have hi : routingThreads.machine.init.world.Follow :=
    ⟨fun _ => rfl, fun _ _ h => by cases h⟩
  exact routingThreads.machine.along_congr (I := fun s : RoutingPool => s.world.Follow)
    (fun _ _ _ hs hst => hs.step hst) (fun _ e hs => failsOver_iff_undesignated hs e)
    hi events

/-- A check finds both arrays of a pair well, and then a request is not authorised. -/
def unauthorisedRun : List RoutingEvent :=
  let key := metroStateCacheKey "000120000548" "000120000549"
  [.env (.loadOrStore "000120000548" "000120000549"),
    .env (.getActiveArray "000120000548-000120000549"),
    .env (.setErrorWatcher "000120000548-000120000549"),
    .start 0 ⟨true, "000120000548", "000120000549", "12", []⟩,
    .reply 0 (.get "000120000548" "000120000549") none none,
    .reply 0 (.enter key) (.lead 0) none,
    .reply 0 (.doMetroStateCheck "000120000548" "000120000549" "12" "12") none
      (some (pairQuery (.ok ⟨false, false, false, false, "000120000548"⟩))),
    .reply 0 (.leave key 0 none) () none,
    .reply 0 (.respond none) () none,
    .env (.roundTrip (.ok 401))]

/-- The client stays with the array that refuses its requests. -/
theorem unauthorisedRun_stays : ¬ ∀ events,
    routingThreads.machine.Along FailsOver routingThreads.machine.init events := by
  intro ha
  have ho : (routingThreads.machine.run routingThreads.machine.init unauthorisedRun).map
      (fun s => (s.world.metroClients "000120000548-000120000549",
        (latestCheck "000120000548" "000120000549" s.world.log).map
          fun q => (q.localGroup.toOption, q.remoteGroup.toOption))) =
      some (some ⟨"000120000548", "000120000549", "000120000548", 99, some 0, "000120000548"⟩,
        some (some ⟨false, false, false, false, "000120000548"⟩,
          some ⟨false, false, false, false, "000120000548"⟩)) := by
    decide +kernel
  obtain ⟨s, hru, hs⟩ := map_eq_some_iff.mp ho
  simp only [Prod.mk.injEq] at hs
  obtain ⟨hm, hc⟩ := hs
  obtain ⟨q, hla, hg⟩ := map_eq_some_iff.mp hc
  simp only [Prod.mk.injEq] at hg
  have hh : q.Healthy := by
    obtain ⟨hlo, hre⟩ := hg
    cases hl : q.localGroup with
    | error => simp [hl, Except.toOption] at hlo
    | ok l =>
      cases hr : q.remoteGroup with
      | error => simp [hr, Except.toOption] at hre
      | ok r =>
        simp only [hl, hr, Except.toOption, some.injEq] at hlo hre
        subst hlo hre
        exact ⟨_, _, hl, hr, by simp [MetroQuery.Arbitrated], by simp [MetroQuery.Arbitrated]⟩
  have hf : FailsOver s (.env (.getActiveArray "000120000548-000120000549")) :=
    ((routingThreads.machine.along_append.mp
      (ha (unauthorisedRun ++ [.env (.getActiveArray "000120000548-000120000549")]))).2 s hru).1
  have hmo := hf _ _ rfl ⟨hm, by decide, q, hla, hh⟩
  exact absurd hmo (by decide)

end PowerMaxCsi.Metro
